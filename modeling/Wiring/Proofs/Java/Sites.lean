import Wiring.Proofs.Java.Shape

/-!
The constructs that a walk through a tree comes to. They are told apart by their paths, the indices
of the children that lead to them, as constructs that look alike may stand in several places. A walk
comes to them in the order of their paths.
-/

namespace Wiring.Java

def LeftOf (ρ σ : List Nat) : Prop :=
  ∃ π i j ρ' σ', i < j ∧ ρ = π ++ i :: ρ' ∧ σ = π ++ j :: σ'

theorem LeftOf.append {ρ σ : List Nat} (h : LeftOf ρ σ) (π ρ' σ' : List Nat) :
    LeftOf (π ++ ρ ++ ρ') (π ++ σ ++ σ') := by
  obtain ⟨π₀, i, j, ρ₀, σ₀, hij, rfl, rfl⟩ := h
  exact ⟨π ++ π₀, i, j, ρ₀ ++ ρ', σ₀ ++ σ', hij, by simp, by simp⟩

theorem LeftOf.lt {ρ σ : List Nat} (h : LeftOf ρ σ) : ρ < σ := by
  obtain ⟨π, i, j, ρ', σ', hij, rfl, rfl⟩ := h
  exact List.append_left_lt (List.cons_lt_cons_iff.mpr (.inl hij))

theorem lt_append {π ρ : List Nat} (h : ρ ≠ []) : π < π ++ ρ := by
  obtain ⟨i, ρ', rfl⟩ := List.exists_cons_of_ne_nil h
  have h : π ++ [] < π ++ i :: ρ' := List.append_left_lt (List.nil_lt_cons i ρ')
  rwa [List.append_nil] at h

structure Site where
  path : List Nat
  className : String
  construct : Construct

namespace Construct

def namedAt (n : Construct) : List (Construct × Nat) :=
  n.children.zipIdx.filter (fun x => x.1.named)

theorem mem_namedAt {n : Construct} {x : Construct × Nat} :
    x ∈ n.namedAt ↔ n.children[x.2]? = some x.1 ∧ x.1.named = true := by
  rw [namedAt, List.mem_filter, List.mem_zipIdx_iff_getElem?]

theorem namedAt_map_fst (n : Construct) : n.namedAt.map Prod.fst = n.namedChildren := by
  have h := List.filter_map (p := named) (f := Prod.fst) (l := n.children.zipIdx)
  rw [List.zipIdx_map_fst] at h
  exact h.symm

theorem pairwise_namedAt (n : Construct) : n.namedAt.Pairwise (fun x y => x.2 < y.2) := by
  have hall : n.children.zipIdx.Pairwise (fun x y => x.2 < y.2) := by
    rw [← List.pairwise_map (f := Prod.snd) (R := (· < ·)), List.zipIdx_map_snd]
    exact List.pairwise_lt_range'
  exact hall.filter _

/-- A member of a type stands in its body, or in the part of the body behind the constants of an
enum. -/
inductive IsMember (n : Construct) : List Nat → Construct → Prop where
  | direct {i j : Nat} {b x : Construct} (body : n.IsFirst (InSlot .body) i b)
      (child : b.children[j]? = some x) (named : x.named = true)
      (plain : x.kind ≠ .enumDeclarations) : IsMember n [i, j] x
  | declared {i j k : Nat} {b e x : Construct} (body : n.IsFirst (InSlot .body) i b)
      (part : b.children[j]? = some e) (part_named : e.named = true)
      (part_kind : e.kind = .enumDeclarations) (child : e.children[k]? = some x)
      (named : x.named = true) : IsMember n [i, j, k] x

def openedAt (path : List Nat) (n : Construct) : List (List Nat × Construct) :=
  if n.kind = .enumDeclarations then n.namedAt.map (fun x => (path ++ [x.2], x.1)) else [(path, n)]

def membersAt (n : Construct) : List (List Nat × Construct) :=
  (n.firstAt? (InSlot .body)).elim [] (fun b => b.1.namedAt.flatMap (fun e => e.1.openedAt [b.2, e.2]))

theorem mem_openedAt {n : Construct} {path : List Nat} {x : List Nat × Construct} :
    x ∈ n.openedAt path ↔
      (n.kind = .enumDeclarations ∧ ∃ k, n.children[k]? = some x.2 ∧ x.2.named = true ∧
        x.1 = path ++ [k]) ∨
      (n.kind ≠ .enumDeclarations ∧ x = (path, n)) := by
  unfold openedAt
  split
  case isTrue hk =>
    simp only [hk, List.mem_map, mem_namedAt, true_and, ne_eq, not_true_eq_false, false_and, or_false]
    constructor
    · rintro ⟨y, ⟨hchild, hnamed⟩, rfl⟩
      exact ⟨y.2, hchild, hnamed, rfl⟩
    · rintro ⟨k, hchild, hnamed, hpath⟩
      exact ⟨(x.2, k), ⟨hchild, hnamed⟩, by rw [← hpath]⟩
  case isFalse hk => simp [hk]

theorem openedAt_map_snd (n : Construct) (path : List Nat) :
    (n.openedAt path).map Prod.snd = n.opened := by
  unfold openedAt opened
  split
  · rw [List.map_map, ← namedAt_map_fst]
    rfl
  · rfl

theorem path_of_mem_openedAt {n : Construct} {path : List Nat} {x : List Nat × Construct}
    (h : x ∈ n.openedAt path) : ∃ ρ, x.1 = path ++ ρ := by
  obtain ⟨_, k, _, _, hpath⟩ | ⟨_, rfl⟩ := mem_openedAt.mp h
  · exact ⟨[k], hpath⟩
  · exact ⟨[], (List.append_nil path).symm⟩

theorem pairwise_openedAt (n : Construct) (path : List Nat) :
    (n.openedAt path).Pairwise (fun x y => LeftOf x.1 y.1) := by
  unfold openedAt
  split
  · rw [List.pairwise_map]
    exact (pairwise_namedAt n).imp (fun {x y} h => ⟨path, x.2, y.2, [], [], h, rfl, rfl⟩)
  · exact List.pairwise_singleton _ _

theorem mem_membersAt {n x : Construct} {ρ : List Nat} :
    (ρ, x) ∈ n.membersAt ↔ n.IsMember ρ x := by
  constructor
  · intro h
    rw [membersAt] at h
    cases hb : n.firstAt? (InSlot .body) with
    | none => simp [hb] at h
    | some b =>
      have hbody : n.IsFirst (InSlot .body) b.2 b.1 := firstAt?_eq_some_iff.mp hb
      rw [hb, Option.elim_some, List.mem_flatMap] at h
      obtain ⟨e, he, hx⟩ := h
      obtain ⟨hchild, hnamed⟩ := mem_namedAt.mp he
      obtain ⟨hk, k, hxchild, hxnamed, hpath⟩ | ⟨hk, heq⟩ := mem_openedAt.mp hx
      · cases hpath
        exact .declared hbody hchild hnamed hk hxchild hxnamed
      · cases heq
        exact .direct hbody hchild hnamed hk
  · intro h
    cases h with
    | @direct i j b x hbody hchild hnamed hk =>
      rw [membersAt, firstAt?_eq_some_iff.mpr hbody, Option.elim_some, List.mem_flatMap]
      exact ⟨(x, j), mem_namedAt.mpr ⟨hchild, hnamed⟩, mem_openedAt.mpr (.inr ⟨hk, rfl⟩)⟩
    | @declared i j k b e x hbody hpart hpnamed hk hchild hnamed =>
      rw [membersAt, firstAt?_eq_some_iff.mpr hbody, Option.elim_some, List.mem_flatMap]
      exact ⟨(e, j), mem_namedAt.mpr ⟨hpart, hpnamed⟩,
        mem_openedAt.mpr (.inl ⟨hk, k, hchild, hnamed, rfl⟩)⟩

theorem membersAt_map_snd (n : Construct) : n.membersAt.map Prod.snd = n.members := by
  rw [membersAt, members, child?_eq_firstAt?]
  cases n.firstAt? (InSlot .body) with
  | none => rfl
  | some b =>
    simp only [Option.map_some, Option.elim_some, List.map_flatMap, openedAt_map_snd,
      ← namedAt_map_fst b.1, List.flatMap_map]

theorem pairwise_membersAt (n : Construct) : n.membersAt.Pairwise (fun x y => LeftOf x.1 y.1) := by
  rw [membersAt]
  cases n.firstAt? (InSlot .body) with
  | none => exact .nil
  | some b =>
    rw [Option.elim_some, List.pairwise_flatMap]
    refine ⟨fun e _ => pairwise_openedAt e.1 _, (pairwise_namedAt b.1).imp ?_⟩
    intro e f hef x hx y hy
    obtain ⟨ρ, hρ⟩ := path_of_mem_openedAt hx
    obtain ⟨σ, hσ⟩ := path_of_mem_openedAt hy
    exact ⟨[b.2], e.2, f.2, ρ, σ, hef, hρ, hσ⟩

theorem IsMember.mem_members {n x : Construct} {ρ : List Nat} (h : n.IsMember ρ x) :
    x ∈ n.members := by
  rw [← membersAt_map_snd]
  exact List.mem_map_of_mem (f := Prod.snd) (mem_membersAt.mpr h)

theorem IsMember.unique {n x y : Construct} {ρ σ ρ' σ' : List Nat} (hx : n.IsMember ρ x)
    (hy : n.IsMember σ y) (h : ρ ++ ρ' = σ ++ σ') : ρ = σ ∧ x = y := by
  cases hx with
  | direct hbody hchild _ hk =>
    cases hy with
    | direct hbody' hchild' _ _ =>
      obtain ⟨rfl, rfl, _⟩ := by simpa using h
      obtain rfl := (hbody.unique hbody').2
      exact ⟨rfl, Option.some.inj (hchild.symm.trans hchild')⟩
    | declared hbody' hpart' _ hk' _ _ =>
      obtain ⟨rfl, rfl, _⟩ := by simpa using h
      obtain rfl := (hbody.unique hbody').2
      cases hchild.symm.trans hpart'
      exact absurd hk' hk
  | declared hbody hpart _ hk hchild _ =>
    cases hy with
    | direct hbody' hchild' _ hk' =>
      obtain ⟨rfl, rfl, _⟩ := by simpa using h
      obtain rfl := (hbody.unique hbody').2
      cases hpart.symm.trans hchild'
      exact absurd hk hk'
    | declared hbody' hpart' _ _ hchild' _ =>
      obtain ⟨rfl, rfl, rfl, _⟩ := by simpa using h
      obtain rfl := (hbody.unique hbody').2
      cases hpart.symm.trans hpart'
      exact ⟨rfl, Option.some.inj (hchild.symm.trans hchild')⟩

theorem IsMember.path_ne_nil {n x : Construct} {ρ : List Nat} (h : n.IsMember ρ x) : ρ ≠ [] := by
  cases h <;> exact List.cons_ne_nil _ _

theorem inductionOnMembers {motive : Construct → Prop}
    (step : ∀ n, (∀ x ∈ n.members, motive x) → motive n) (n : Construct) : motive n :=
  step n (fun x _ => inductionOnMembers step x)
termination_by sizeOf n
decreasing_by exact sizeOf_lt_of_mem_members ‹_›

inductive IsNamedType (n : Construct) : String → Prop where
  | mk {kind : TypeKind} {name : List Char} (type : n.kind = .type kind)
      (named : n.Says (InSlot .name) name) (nonempty : name ≠ []) :
      IsNamedType n (String.ofList name)

/-- The types at the top of a tree are reached, and the members of each named type that is. -/
inductive Reaches (root : Construct) : Site → Prop where
  | top {i : Nat} {n : Construct} {kind : TypeKind} (child : root.children[i]? = some n)
      (named : n.named = true) (type : n.kind = .type kind) : Reaches root ⟨[i], "", n⟩
  | member {s : Site} {ρ : List Nat} {x : Construct} {c : String} (reached : Reaches root s)
      (type : s.construct.IsNamedType c) (member : s.construct.IsMember ρ x) :
      Reaches root ⟨s.path ++ ρ, c, x⟩

section NamedType

variable {n : Construct} {c : String}

theorem isType_iff : n.isType = true ↔ ∃ kind, n.kind = .type kind := by
  unfold isType
  split <;> simp_all

theorem isNamedType_iff : n.IsNamedType c ↔ n.isType = true ∧ n.name ≠ "" ∧ n.name = c := by
  have htext := says_child? n .name
  constructor
  · rintro ⟨htype, hname, hne⟩
    have hname : n.name = String.ofList _ := congrArg String.ofList (htext.unique hname)
    refine ⟨isType_iff.mpr ⟨_, htype⟩, ?_, hname⟩
    simpa [hname] using hne
  · rintro ⟨htype, hne, rfl⟩
    obtain ⟨kind, hk⟩ := isType_iff.mp htype
    refine .mk hk htext ?_
    intro h
    exact hne (by rw [name, h])

theorem IsNamedType.name_eq (h : n.IsNamedType c) : n.name = c := (isNamedType_iff.mp h).2.2

instance (n : Construct) : Decidable (n.IsNamedType n.name) :=
  decidable_of_iff (n.isType = true ∧ n.name ≠ "") (by simp [isNamedType_iff])

end NamedType

def sites (n : Construct) (path : List Nat) (className : String) : List Site :=
  ⟨path, className, n⟩ ::
    if n.IsNamedType n.name then
      n.membersAt.attach.flatMap (fun x => x.val.2.sites (path ++ x.val.1) n.name)
    else []
termination_by sizeOf n
decreasing_by exact sizeOf_lt_of_mem_members (mem_membersAt.mp x.property).mem_members

def reached (root : Construct) : List Site :=
  (root.namedAt.filter (fun x => x.1.isType)).flatMap (fun x => x.1.sites [x.2] "")

section Sites

variable {n x root : Construct} {π ρ : List Nat} {c : String} {s : Site}

theorem sites_of_namedType (h : n.IsNamedType n.name) (π : List Nat) (c : String) :
    n.sites π c = ⟨π, c, n⟩ :: n.membersAt.flatMap (fun x => x.2.sites (π ++ x.1) n.name) := by
  rw [sites, if_pos h]
  simp only [List.flatMap_subtype, List.unattach_attach]

theorem sites_of_not_namedType (h : ¬ n.IsNamedType n.name) (π : List Nat) (c : String) :
    n.sites π c = [⟨π, c, n⟩] := by
  rw [sites, if_neg h]

theorem mem_sites : s ∈ n.sites π c ↔ s = ⟨π, c, n⟩ ∨
    n.IsNamedType n.name ∧ ∃ ρ x, n.IsMember ρ x ∧ s ∈ x.sites (π ++ ρ) n.name := by
  by_cases h : n.IsNamedType n.name
  · simp only [sites_of_namedType h, List.mem_cons, List.mem_flatMap, Prod.exists, mem_membersAt, h,
      true_and]
  · simp [sites_of_not_namedType h, h]

theorem path_of_mem_sites (hs : s ∈ n.sites π c) : ∃ σ, s.path = π ++ σ := by
  induction n using inductionOnMembers generalizing π c with
  | step n ih =>
    obtain rfl | ⟨_, ρ, x, hx, hs⟩ := mem_sites.mp hs
    · exact ⟨[], (List.append_nil π).symm⟩
    · obtain ⟨σ, hσ⟩ := ih x hx.mem_members hs
      exact ⟨ρ ++ σ, by rw [hσ, List.append_assoc]⟩

theorem pairwise_sites (n : Construct) (π : List Nat) (c : String) :
    (n.sites π c).Pairwise (fun s t => s.path < t.path) := by
  induction n using inductionOnMembers generalizing π c with
  | step n ih =>
    by_cases h : n.IsNamedType n.name
    case neg =>
      rw [sites_of_not_namedType h]
      exact List.pairwise_singleton _ _
    rw [sites_of_namedType h, List.pairwise_cons, List.pairwise_flatMap]
    refine ⟨?_, ?_, ?_⟩
    · intro t ht
      obtain ⟨x, hx, ht⟩ := List.mem_flatMap.mp ht
      obtain ⟨σ, hσ⟩ := path_of_mem_sites ht
      have hne : x.1 ++ σ ≠ [] := by
        simp [(mem_membersAt.mp hx).path_ne_nil]
      rw [hσ, List.append_assoc]
      exact lt_append hne
    · intro x hx
      exact ih x.2 (mem_membersAt.mp hx).mem_members _ _
    · refine (pairwise_membersAt n).imp ?_
      intro x y hxy s hs t ht
      obtain ⟨σ, hσ⟩ := path_of_mem_sites hs
      obtain ⟨τ, hτ⟩ := path_of_mem_sites ht
      rw [hσ, hτ]
      exact (hxy.append π σ τ).lt

theorem pairwise_reached (root : Construct) :
    root.reached.Pairwise (fun s t => s.path < t.path) := by
  rw [reached, List.pairwise_flatMap]
  refine ⟨fun x _ => pairwise_sites x.1 _ _, ((pairwise_namedAt root).filter _).imp ?_⟩
  intro x y hxy s hs t ht
  obtain ⟨σ, hσ⟩ := path_of_mem_sites hs
  obtain ⟨τ, hτ⟩ := path_of_mem_sites ht
  have hleft : LeftOf [x.2] [y.2] := ⟨[], x.2, y.2, [], [], hxy, rfl, rfl⟩
  rw [hσ, hτ]
  exact (hleft.append [] σ τ).lt

theorem reaches_of_mem_sites (hn : root.Reaches ⟨π, c, n⟩) (hs : s ∈ n.sites π c) :
    root.Reaches s := by
  induction n using inductionOnMembers generalizing π c with
  | step n ih =>
    obtain rfl | ⟨ht, ρ, x, hx, hs⟩ := mem_sites.mp hs
    · exact hn
    · exact ih x hx.mem_members (.member hn ht hx) hs

theorem member_mem_sites {d : String} (hs : s ∈ n.sites π c) (ht : s.construct.IsNamedType d)
    (hx : s.construct.IsMember ρ x) : ⟨s.path ++ ρ, d, x⟩ ∈ n.sites π c := by
  induction n using inductionOnMembers generalizing π c with
  | step n ih =>
    obtain rfl | ⟨hn, σ, y, hy, hs⟩ := mem_sites.mp hs
    · obtain rfl := ht.name_eq
      exact mem_sites.mpr (.inr ⟨ht, ρ, x, hx, mem_sites.mpr (.inl rfl)⟩)
    · exact mem_sites.mpr (.inr ⟨hn, σ, y, hy, ih y hy.mem_members hs⟩)

theorem mem_reached : s ∈ root.reached ↔ root.Reaches s := by
  constructor
  · intro h
    obtain ⟨x, hx, hs⟩ := List.mem_flatMap.mp h
    obtain ⟨hx, htype⟩ := List.mem_filter.mp hx
    obtain ⟨hchild, hnamed⟩ := mem_namedAt.mp hx
    obtain ⟨kind, hkind⟩ := isType_iff.mp htype
    exact reaches_of_mem_sites (.top hchild hnamed hkind) hs
  · intro h
    induction h with
    | @top i n kind hchild hnamed htype =>
      have hn : (n, i) ∈ root.namedAt.filter (fun x => x.1.isType) :=
        List.mem_filter.mpr ⟨mem_namedAt.mpr ⟨hchild, hnamed⟩, isType_iff.mpr ⟨kind, htype⟩⟩
      exact List.mem_flatMap.mpr ⟨_, hn, mem_sites.mpr (.inl rfl)⟩
    | member _ ht hx ih =>
      obtain ⟨y, hy, hs⟩ := List.mem_flatMap.mp ih
      exact List.mem_flatMap.mpr ⟨y, hy, member_mem_sites hs ht hx⟩

theorem member_of_mem_sites {t u : Site} {σ : List Nat} (ht : t ∈ n.sites π c)
    (hu : u ∈ n.sites π c) (h : u.path = t.path ++ σ) (hσ : σ ≠ []) :
    ∃ ρ x τ, t.construct.IsMember ρ x ∧ σ = ρ ++ τ := by
  induction n using inductionOnMembers generalizing π c with
  | step n ih =>
    -- both are the type itself, or one of them is, or both lie within members of it
    obtain rfl | ⟨_, ρ, x, hx, ht⟩ := mem_sites.mp ht
    · obtain rfl | ⟨_, ρ, x, hx, hu⟩ := mem_sites.mp hu
      · exact absurd (List.self_eq_append_right.mp h) hσ
      · obtain ⟨τ, hτ⟩ := path_of_mem_sites hu
        rw [hτ, List.append_assoc, List.append_cancel_left_eq] at h
        exact ⟨ρ, x, τ, hx, h.symm⟩
    · obtain ⟨τ, hτ⟩ := path_of_mem_sites ht
      obtain rfl | ⟨_, ρ', y, hy, hu⟩ := mem_sites.mp hu
      · rw [hτ, List.append_assoc, List.append_assoc, List.self_eq_append_right] at h
        exact absurd (List.append_eq_nil_iff.mp h).1 hx.path_ne_nil
      · obtain ⟨τ', hτ'⟩ := path_of_mem_sites hu
        rw [hτ, hτ', List.append_assoc, List.append_assoc, List.append_assoc,
          List.append_cancel_left_eq] at h
        obtain ⟨rfl, rfl⟩ := hy.unique hx h
        exact ih y hy.mem_members ht hu

theorem member_of_reaches {t u : Site} {σ : List Nat} (ht : root.Reaches t) (hu : root.Reaches u)
    (h : u.path = t.path ++ σ) (hσ : σ ≠ []) :
    ∃ ρ x τ, t.construct.IsMember ρ x ∧ σ = ρ ++ τ := by
  obtain ⟨x, hx, ht⟩ := List.mem_flatMap.mp (mem_reached.mpr ht)
  obtain ⟨y, hy, hu⟩ := List.mem_flatMap.mp (mem_reached.mpr hu)
  have hxchild := (mem_namedAt.mp (List.mem_filter.mp hx).1).1
  have hychild := (mem_namedAt.mp (List.mem_filter.mp hy).1).1
  obtain ⟨τ, hτ⟩ := path_of_mem_sites ht
  obtain ⟨τ', hτ'⟩ := path_of_mem_sites hu
  rw [hτ, hτ', List.append_assoc, List.singleton_append, List.singleton_append] at h
  have hindex : y.2 = x.2 := (List.cons.inj h).1
  rw [hindex] at hychild hu
  rw [← Option.some.inj (hxchild.symm.trans hychild)] at hu
  have hpath : u.path = t.path ++ σ := by
    rw [hτ, hτ', List.append_assoc]
    exact h
  exact member_of_mem_sites ht hu hpath hσ

/-- The nearest of the named types around a site, with its name. -/
structure IsOwner (root : Construct) (t s : Site) (c : String) : Prop where
  reached : root.Reaches t
  type : t.construct.IsNamedType c
  around : t.path <+: s.path ∧ t.path ≠ s.path
  nearest : ∀ u d, root.Reaches u → u.construct.IsNamedType d → u.path <+: s.path →
    u.path ≠ s.path → u.path <+: t.path

theorem Reaches.exists_owner (hs : root.Reaches s) (htype : s.construct.isType = false) :
    ∃ t, root.IsOwner t s s.className := by
  cases hs with
  | top _ _ ht => simp [isType, ht] at htype
  | @member t ρ x c ht hnamed hx =>
    refine ⟨t, ht, hnamed, ⟨List.prefix_append _ _, ?_⟩, ?_⟩
    · intro h
      exact hx.path_ne_nil (List.self_eq_append_right.mp h)
    · intro u _ hu _ hprefix hne
      obtain h | ⟨σ, hσ⟩ := List.prefix_or_prefix_of_prefix hprefix (List.prefix_append t.path ρ)
      · exact h
      · -- between a type and its member no other named type is reached
        by_cases hnil : σ = []
        · rw [hnil, List.append_nil] at hσ
          exact hσ ▸ List.prefix_rfl
        · obtain ⟨ρ', y, τ, hy, rfl⟩ := member_of_reaches ht hu hσ.symm hnil
          obtain ⟨τ', hτ'⟩ := hprefix
          have hpath : ρ ++ [] = ρ' ++ (τ ++ τ') := by
            rw [← hσ] at hτ'
            simpa using hτ'.symm
          obtain ⟨rfl, _⟩ := hx.unique hy hpath
          have hrest : τ = [] ∧ τ' = [] := by simpa using hpath
          rw [hrest.2, List.append_nil] at hτ'
          exact absurd hτ' hne

end Sites

end Construct

end Wiring.Java
