import Wiring.Proofs.Java.Construct

namespace Wiring.Java

open Annotation (readable)

/-- What belongs to the elements, one result for each that has one, in their order. -/
inductive Picks {α β : Type} (R : α → β → Prop) : List α → List β → Prop where
  | nil : Picks R [] []
  | take {x : α} {y : β} {xs : List α} {ys : List β} (here : R x y) (rest : Picks R xs ys) :
      Picks R (x :: xs) (y :: ys)
  | pass {x : α} {xs : List α} {ys : List β} (none : ∀ y, ¬ R x y) (rest : Picks R xs ys) :
      Picks R (x :: xs) ys

section Picks

variable {α β : Type} {R : α → β → Prop}

theorem picks_filterMap {f : α → Option β} (hsome : ∀ x y, f x = some y → R x y)
    (hnone : ∀ x, f x = none → ∀ y, ¬ R x y) (xs : List α) : Picks R xs (xs.filterMap f) := by
  induction xs with
  | nil => exact .nil
  | cons x xs ih =>
    cases hx : f x with
    | none =>
      rw [List.filterMap_cons_none hx]
      exact .pass (hnone x hx) ih
    | some y =>
      rw [List.filterMap_cons_some hx]
      exact .take (hsome x y hx) ih

theorem picks_map_filter {p : α → Bool} {f : α → β} (htake : ∀ x, p x = true → R x (f x))
    (hpass : ∀ x, p x = false → ∀ y, ¬ R x y) (xs : List α) : Picks R xs ((xs.filter p).map f) := by
  rw [← List.filterMap_eq_map, List.filterMap_filter]
  apply picks_filterMap
  · intro x y hx
    cases hp : p x with
    | false => simp [hp] at hx
    | true =>
      obtain rfl : f x = y := by simpa [hp] using hx
      exact htake x hp
  · intro x hx
    cases hp : p x with
    | false => exact hpass x hp
    | true => simp [hp] at hx

theorem Picks.exists_of_mem {xs : List α} {ys : List β} {y : β} (h : Picks R xs ys) (hy : y ∈ ys) :
    ∃ x ∈ xs, R x y := by
  induction h with
  | nil => cases hy
  | @take x _ _ _ hx _ ih =>
    obtain rfl | hy := List.mem_cons.mp hy
    · exact ⟨x, List.mem_cons_self, hx⟩
    · obtain ⟨z, hz, hzy⟩ := ih hy
      exact ⟨z, List.mem_cons_of_mem _ hz, hzy⟩
  | pass _ _ ih =>
    obtain ⟨z, hz, hzy⟩ := ih hy
    exact ⟨z, List.mem_cons_of_mem _ hz, hzy⟩

end Picks

namespace Construct

structure IsFirst (n : Construct) (p : Construct → Prop) (i : Nat) (x : Construct) : Prop where
  child : n.children[i]? = some x
  holds : p x
  first : ∀ j < i, ∀ y ∈ n.children[j]?, ¬ p y

/-- The text of the first child with the property, empty if there is none. -/
inductive Says (n : Construct) (p : Construct → Prop) : List Char → Prop where
  | first {i : Nat} {x : Construct} (h : n.IsFirst p i x) : Says n p x.text
  | none (h : ∀ x ∈ n.children, ¬ p x) : Says n p []

def InSlot (s : Slot) (x : Construct) : Prop := x.slot = some s

instance (s : Slot) : DecidablePred (InSlot s) := fun x =>
  inferInstanceAs (Decidable (x.slot = some s))

def IsMark (x : Construct) (a : Annotation) : Prop :=
  x.kind = .mark ∧ Annotation.read x.text = .ok a

def Annotated (n : Construct) (as : List Annotation) : Prop :=
  ∃ parts : List (List Annotation), as = parts.flatten ∧
    Picks (fun m part => m.kind = .modifiers ∧ Picks IsMark m.children part) n.children parts

def IsSpreadType (x : Construct) : Prop :=
  x.named = true ∧ x.kind ≠ .modifiers ∧ x.kind ≠ .declarator

def IsVariable (x : Construct) : Prop := x.named = true ∧ x.kind = .declarator

inductive SpreadName (n : Construct) : List Char → Prop where
  | last {before after : List Construct} {v : Construct} {name : List Char}
      (children : n.children = before ++ v :: after) (holds : v.IsVariable)
      (last : ∀ x ∈ after, ¬ x.IsVariable) (named : v.Says (InSlot .name) name) : SpreadName n name
  | none (h : ∀ x ∈ n.children, ¬ x.IsVariable) : SpreadName n []

inductive IsParameter (x : Construct) : Parameter → Prop where
  | formal {name type : List Char} {as : List Annotation} (kind : x.kind = .formal)
      (named : x.Says (InSlot .name) name) (typed : x.Says (InSlot .type) type)
      (annotated : x.Annotated as) :
      IsParameter x ⟨String.ofList name, String.ofList (TypeName.simple type), as, x.line⟩
  | spread {name type : List Char} {as : List Annotation} (kind : x.kind = .spread)
      (named : x.SpreadName name) (typed : x.Says IsSpreadType type) (annotated : x.Annotated as) :
      IsParameter x ⟨String.ofList name, String.ofList (TypeName.simple type), as, x.line⟩

inductive Parameters (n : Construct) : List Parameter → Prop where
  | listed {i : Nat} {list : Construct} {ps : List Parameter}
      (first : n.IsFirst (InSlot .parameters) i list)
      (each : Picks (fun x p => x.named = true ∧ x.IsParameter p) list.children ps) :
      Parameters n ps
  | none (h : ∀ x ∈ n.children, ¬ InSlot .parameters x) : Parameters n []

def IsPackageName (x : Construct) : Prop := x.named = true ∧ x.kind = .identifier

def IsPackage (x : Construct) : Prop :=
  x.named = true ∧ x.kind = .package ∧ ∃ y ∈ x.children, y.IsPackageName

inductive InPackage (root : Construct) : List Char → Prop where
  | declared {i : Nat} {declaration : Construct} {name : List Char}
      (first : root.IsFirst IsPackage i declaration) (named : declaration.Says IsPackageName name) :
      InPackage root name
  | none (h : ∀ x ∈ root.children, ¬ x.IsPackage) : InPackage root []

section First

variable {n x y : Construct} {p : Construct → Prop} {i j : Nat}

theorem IsFirst.mem (h : n.IsFirst p i x) : x ∈ n.children := List.mem_of_getElem? h.child

theorem IsFirst.unique (hx : n.IsFirst p i x) (hy : n.IsFirst p j y) : i = j ∧ x = y := by
  have hij : i = j := by
    rcases Nat.lt_trichotomy i j with h | h | h
    · exact absurd hx.holds (hy.first i h x hx.child)
    · exact h
    · exact absurd hy.holds (hx.first j h y hy.child)
  subst hij
  exact ⟨rfl, Option.some.inj (hx.child.symm.trans hy.child)⟩

theorem isFirst_append {before after : List Construct} (h : n.children = before ++ x :: after)
    (hx : p x) (hbefore : ∀ y ∈ before, ¬ p y) : n.IsFirst p before.length x := by
  refine ⟨by simp [h], hx, ?_⟩
  intro j hj y hy
  rw [h, List.getElem?_append_left hj, Option.mem_def] at hy
  exact hbefore y (List.mem_of_getElem? hy)

theorem Says.unique {s t : List Char} (hs : n.Says p s) (ht : n.Says p t) : s = t := by
  cases hs with
  | first hs =>
    cases ht with
    | first ht => rw [(hs.unique ht).2]
    | none ht => exact absurd hs.holds (ht _ hs.mem)
  | none hs =>
    cases ht with
    | first ht => exact absurd ht.holds (hs _ ht.mem)
    | none _ => rfl

variable [DecidablePred p]

def firstAt? (n : Construct) (p : Construct → Prop) [DecidablePred p] : Option (Construct × Nat) :=
  n.children.zipIdx.find? (fun x => p x.1)

theorem firstAt?_eq_some_iff : n.firstAt? p = some (x, i) ↔ n.IsFirst p i x := by
  rw [firstAt?, List.find?_eq_some_iff_getElem]
  constructor
  · rintro ⟨hslot, k, hk, hget, hfirst⟩
    simp only [List.getElem_zipIdx, Prod.mk.injEq, Nat.zero_add] at hget
    obtain ⟨rfl, rfl⟩ := hget
    rw [List.length_zipIdx] at hk
    refine ⟨List.getElem?_eq_getElem hk, by simpa using hslot, ?_⟩
    intro j hj x hx
    have hjk : j < n.children.length := Nat.lt_trans hj hk
    rw [List.getElem?_eq_getElem hjk, Option.mem_some_iff] at hx
    simpa [hx] using hfirst j hj
  · intro h
    obtain ⟨hi, hb⟩ := List.getElem?_eq_some_iff.mp h.child
    refine ⟨by simpa using h.holds, i, by simpa using hi, by simp [hb], ?_⟩
    intro j hj
    have hji : j < n.children.length := Nat.lt_trans hj hi
    simpa using h.first j hj _ (List.getElem?_eq_getElem hji)

theorem firstAt?_map_fst (n : Construct) (p : Construct → Prop) [DecidablePred p] :
    (n.firstAt? p).map Prod.fst = n.children.find? (fun x => p x) := by
  have h := List.find?_map (p := fun x : Construct => decide (p x)) (f := Prod.fst)
    (l := n.children.zipIdx)
  rw [List.zipIdx_map_fst] at h
  exact h.symm

theorem child?_eq_firstAt? (n : Construct) (s : Slot) :
    n.child? s = (n.firstAt? (InSlot s)).map Prod.fst := (firstAt?_map_fst n (InSlot s)).symm

theorem find?_eq_some_iff :
    n.children.find? (fun x => p x) = some x ↔ ∃ i, n.IsFirst p i x := by
  simp [← firstAt?_map_fst, firstAt?_eq_some_iff]

theorem says_find? (n : Construct) (p : Construct → Prop) [DecidablePred p] :
    n.Says p (textOf (n.children.find? (fun x => p x))) := by
  cases h : n.children.find? (fun x => p x) with
  | none => exact .none (by simpa using h)
  | some x =>
    obtain ⟨i, hi⟩ := find?_eq_some_iff.mp h
    exact .first hi

theorem says_child? (n : Construct) (s : Slot) : n.Says (InSlot s) (textOf (n.child? s)) :=
  says_find? n (InSlot s)

end First

section Scanned

variable (n : Construct)

theorem isMark_iff {x : Construct} {a : Annotation} :
    x.IsMark a ↔
      (if x.kind = .mark then Except.toOption <| Annotation.read x.text else none) = some a := by
  unfold IsMark
  split
  · next hk => cases h : Annotation.read x.text <;> simp [hk, Except.toOption]
  · next hk => simp [hk]

theorem annotated_readable : n.Annotated (readable n.annotations) := by
  let part (m : Construct) := readable ((m.children.filter (fun a => a.kind = .mark)).map text)
  refine ⟨(n.children.filter (fun m => m.kind = .modifiers)).map part, ?_, ?_⟩
  · rw [readable, annotations, List.filterMap_flatMap, List.flatMap_def]
    rfl
  apply picks_map_filter
  · intro m hm
    refine ⟨by simpa using hm, ?_⟩
    have hpart : part m = m.children.filterMap
        (fun a => if a.kind = .mark then Except.toOption <| Annotation.read a.text else none) := by
      simp only [part, readable, List.filterMap_map, List.filterMap_filter,
        Function.comp_apply, decide_eq_true_eq]
    rw [hpart]
    apply picks_filterMap
    · exact fun a b h => isMark_iff.mpr h
    · intro a ha b h
      rw [isMark_iff, ha] at h
      cases h
  · rintro m hm part ⟨hk, _⟩
    simp [hk] at hm

theorem find?_namedChildren {p : Construct → Prop} [DecidablePred p] {q : Construct → Bool}
    (h : ∀ x, p x ↔ x.named = true ∧ q x = true) :
    n.namedChildren.find? q = n.children.find? (fun x => p x) := by
  rw [namedChildren, List.find?_filter]
  congr 1
  funext x
  rw [decide_eq_decide, h]

theorem says_formalType? (h : n.kind = .spread) : n.Says IsSpreadType (textOf n.formalType?) := by
  have hdecide : DecidablePred IsSpreadType := fun x => inferInstanceAs (Decidable (_ ∧ _ ∧ _))
  rw [formalType?, if_pos h, find?_namedChildren n (p := IsSpreadType) (by simp [IsSpreadType])]
  exact says_find? n IsSpreadType

theorem spreadName_formalName? (h : n.kind = .spread) : n.SpreadName (textOf n.formalName?) := by
  have hfilter : n.namedChildren.filter (fun x => x.kind = .declarator) =
      n.children.filter (fun x => x.named && x.kind = .declarator) := by
    simp only [namedChildren, List.filter_filter, Bool.and_comm]
  rw [formalName?, if_pos h, hfilter]
  cases hlast : (n.children.filter (fun x => x.named && x.kind = .declarator)).getLast? with
  | none =>
    rw [List.getLast?_eq_none_iff, List.filter_eq_nil_iff] at hlast
    exact .none (by simpa [IsVariable] using hlast)
  | some v =>
    obtain ⟨vs, hvs⟩ := List.getLast?_eq_some_iff.mp hlast
    obtain ⟨before, rest, hchildren, -, hrest⟩ := List.filter_eq_append_iff.mp hvs
    obtain ⟨between, after, rfl, -, hv, hafter⟩ := List.filter_eq_cons_iff.mp hrest
    rw [← List.append_assoc] at hchildren
    refine .last hchildren (by simpa [IsVariable] using hv) ?_ (says_child? v .name)
    simpa [IsVariable, List.filter_eq_nil_iff] using hafter

theorem isParameter_formal (h : n.isFormal = true) : n.IsParameter n.formal.parameter := by
  have hannotated := annotated_readable n
  by_cases hk : n.kind = .spread
  · exact .spread hk (spreadName_formalName? n hk) (says_formalType? n hk) hannotated
  · have hformal : n.kind = .formal := by simpa [isFormal, hk] using h
    have hname : n.formalName? = n.child? .name := by rw [formalName?, if_neg hk]
    have htype : n.formalType? = n.child? .type := by rw [formalType?, if_neg hk]
    rw [Formal.parameter, formal, hname, htype]
    exact .formal hformal (says_child? n .name) (says_child? n .type) hannotated

theorem IsParameter.isFormal {p : Parameter} (h : n.IsParameter p) : n.isFormal = true := by
  cases h with
  | formal hk => simp [Construct.isFormal, hk]
  | spread hk => simp [Construct.isFormal, hk]

theorem parameters_formals : n.Parameters (n.formals.map Formal.parameter) := by
  unfold formals
  cases h : n.child? .parameters with
  | none => exact .none (by simpa [child?, InSlot] using h)
  | some list =>
    obtain ⟨i, hi⟩ := find?_eq_some_iff (p := InSlot .parameters).mp h
    refine .listed hi ?_
    rw [Option.elim_some, List.map_map, namedChildren, List.filter_filter]
    apply picks_map_filter
    · intro x hx
      rw [Bool.and_eq_true] at hx
      exact ⟨hx.2, isParameter_formal x hx.1⟩
    · rintro x hx p ⟨hnamed, hp⟩
      simp [hnamed, hp.isFormal] at hx

theorem inPackage_package (root : Construct) : root.InPackage root.package := by
  have hdecide : DecidablePred IsPackageName := fun x => inferInstanceAs (Decidable (_ ∧ _))
  let name? (d : Construct) := d.children.find? (fun x => IsPackageName x)
  have hname : ∀ d : Construct, d.namedChildren.find? (fun x => x.kind = .identifier) = name? d :=
    fun d => find?_namedChildren d (by simp [IsPackageName])
  have hpackage : root.package = textOf
      ((root.children.filter (fun d => d.named && d.kind = .package)).findSome? name?) := by
    simp only [package, List.find?_flatMap, hname]
    simp only [namedChildren, List.filter_filter, Bool.and_comm]
  have hnone : ∀ d : Construct, name? d = none → ¬ d.IsPackage := by
    rintro d hd ⟨-, -, x, hx, hpx⟩
    simp only [name?, List.find?_eq_none, decide_eq_true_eq] at hd
    exact hd x hx hpx
  rw [hpackage]
  cases h : (root.children.filter (fun d => d.named && d.kind = .package)).findSome? name? with
  | none =>
    refine .none fun d hd hp => hnone d ?_ hp
    have hkind : (d.named && d.kind = .package) = true := by simp [hp.1, hp.2.1]
    exact List.findSome?_eq_none_iff.mp h d (List.mem_filter.mpr ⟨hd, hkind⟩)
  | some x =>
    obtain ⟨ds, d, es, hfilter, hx, hds⟩ := List.findSome?_eq_some_iff.mp h
    obtain ⟨before, rest, hchildren, rfl, hrest⟩ := List.filter_eq_append_iff.mp hfilter
    obtain ⟨between, after, rfl, hbetween, hd, -⟩ := List.filter_eq_cons_iff.mp hrest
    rw [← List.append_assoc] at hchildren
    obtain ⟨i, hi⟩ := find?_eq_some_iff.mp hx
    have hpackage : d.IsPackage := by
      rw [Bool.and_eq_true, decide_eq_true_eq] at hd
      exact ⟨hd.1, hd.2, x, hi.mem, hi.holds⟩
    refine .declared (isFirst_append hchildren hpackage ?_) (.first hi)
    intro e he hp
    have hkind : (e.named && e.kind = .package) = true := by simp [hp.1, hp.2.1]
    rcases List.mem_append.mp he with he | he
    · exact hnone e (hds e (List.mem_filter.mpr ⟨he, hkind⟩)) hp
    · exact hbetween e he hkind

end Scanned

end Construct

end Wiring.Java
