import Wiring.Proofs.Java.Declares
import Wiring.Proofs.Java.Mending

namespace Wiring.Java

structure Ascends (first last : Nat) (lines : List Nat) : Prop where
  sorted : lines.Pairwise (· ≤ ·)
  bounds : ∀ l ∈ lines, first ≤ l ∧ l ≤ last

namespace Ascends

variable {first last : Nat}

theorem nil : Ascends first last [] := ⟨.nil, by simp⟩

theorem cons {lines : List Nat} (hle : first ≤ last) (h : Ascends first last lines) :
    Ascends first last (first :: lines) := by
  refine ⟨List.pairwise_cons.mpr ⟨fun l hl => (h.bounds l hl).1, h.sorted⟩, ?_⟩
  intro l hl
  obtain rfl | hl := List.mem_cons.mp hl
  · exact ⟨Nat.le_refl _, hle⟩
  · exact h.bounds l hl

theorem const {α : Type} (hle : first ≤ last) (xs : List α) :
    Ascends first last (xs.map (fun _ => first)) := by
  induction xs with
  | nil => exact .nil
  | cons _ _ ih => exact .cons hle ih

theorem flatMap {α : Type} {xs : List α} {f : α → List Nat} (start stop : α → Nat)
    (each : ∀ x ∈ xs, Ascends (start x) (stop x) (f x))
    (inside : ∀ x ∈ xs, first ≤ start x ∧ stop x ≤ last)
    (inOrder : xs.Pairwise (fun x y => stop x ≤ start y)) : Ascends first last (xs.flatMap f) := by
  constructor
  · rw [List.pairwise_flatMap]
    refine ⟨fun x hx => (each x hx).sorted, inOrder.imp_of_mem ?_⟩
    intro x y hx hy hxy l hl m hm
    exact Nat.le_trans ((each x hx).bounds l hl).2
      (Nat.le_trans hxy ((each y hy).bounds m hm).1)
  · intro l hl
    obtain ⟨x, hx, hl⟩ := List.mem_flatMap.mp hl
    exact ⟨Nat.le_trans (inside x hx).1 ((each x hx).bounds l hl).1,
      Nat.le_trans ((each x hx).bounds l hl).2 (inside x hx).2⟩

end Ascends

namespace Construct

section Places

@[simp]
theorem header_name (kind : TypeKind) (n : Construct) : (n.header kind).name = n.name := rfl

theorem placesOfAll_eq_flatMap (c : String) (is : List Item) :
    placesOfAll c is = is.flatMap (Item.places c) := by
  induction is with
  | nil => rfl
  | cons i is ih => rw [placesOfAll, ih, List.flatMap_cons]

theorem flatMap_filterMap {α β γ : Type} (f : α → Option β) (g : β → List γ) (xs : List α) :
    (xs.filterMap f).flatMap g = xs.flatMap (fun x => (f x).toList.flatMap g) := by
  rw [List.filterMap_eq_flatMap_toList, List.flatMap_assoc]

theorem places_item? (n : Construct) (π : List Nat) (c : String) :
    n.item?.toList.flatMap (Item.places c) = (n.sites π c).filterMap Site.place? := by
  induction n using inductionOnMembers generalizing π c with
  | step n ih =>
    cases ht : n.isType with
    | false =>
      have hn : ¬ n.IsNamedType n.name := fun h => by simp [(isNamedType_iff.mp h).1] at ht
      rw [item?_of_not_type ht, sites_of_not_namedType hn, List.filterMap_cons,
        Site.place?_of_not_type ht]
      cases n.member? with
      | none => rfl
      | some m => simp [Item.places]
    | true =>
      obtain ⟨kind, hk⟩ := isType_iff.mp ht
      rw [item?_of_type hk, Option.toList_some, List.flatMap_singleton, Item.places, header_name]
      by_cases hname : n.name = ""
      · have hn : ¬ n.IsNamedType n.name := fun h => (isNamedType_iff.mp h).2.1 hname
        simp [sites_of_not_namedType hn, Site.place?, hk, hname]
      · have hmembers : ∀ x ∈ n.membersAt,
            x.2.item?.toList.flatMap (Item.places n.name) =
              (x.2.sites (π ++ x.1) n.name).filterMap Site.place? :=
          fun x hx => ih x.2 (mem_membersAt.mp hx).mem_members _ _
        have hn : n.IsNamedType n.name := isNamedType_iff.mpr ⟨ht, hname, rfl⟩
        rw [sites_of_namedType hn, List.filterMap_cons, List.filterMap_flatMap,
          placesOfAll_eq_flatMap, flatMap_filterMap, ← membersAt_map_snd, List.flatMap_map,
          List.flatMap_congr hmembers]
        simp [Site.place?, hk, hname]

theorem places_unit (root : Construct) (damaged : Bool) :
    (root.unit damaged).places = root.reached.filterMap Site.place? := by
  have htype : ∀ n : Construct, n.item?.filter Item.isType = if n.isType then n.item? else none := by
    intro n
    cases ht : n.isType with
    | false =>
      rw [item?_of_not_type ht]
      cases n.member? <;> simp [Item.isType]
    | true =>
      obtain ⟨kind, hk⟩ := isType_iff.mp ht
      simp [item?_of_type hk, Item.isType]
  have hchildren : root.namedChildren.filter isType =
      (root.namedAt.filter (fun x => x.1.isType)).map Prod.fst := by
    rw [← namedAt_map_fst, List.filter_map]
    rfl
  have hitems : (root.namedChildren.filterMap item?).filter Item.isType =
      (root.namedChildren.filter isType).filterMap item? := by
    rw [List.filter_filterMap, List.filterMap_filter]
    simp only [htype]
  rw [Unit.places, unit, hitems, hchildren, placesOfAll_eq_flatMap, flatMap_filterMap,
    List.flatMap_map, reached, List.filterMap_flatMap]
  exact List.flatMap_congr (fun x _ => places_item? x.1 [x.2] "")

end Places

section Everywhere

variable {n x root : Construct} {p : Construct → Prop}

theorem Everywhere.here (h : n.Everywhere p) : p n := (everywhere_iff.mp h).1

theorem Everywhere.child (h : n.Everywhere p) (hx : x ∈ n.children) : x.Everywhere p :=
  (everywhere_iff.mp h).2 x hx

theorem Everywhere.namedChild (h : n.Everywhere p) (hx : x ∈ n.namedChildren) : x.Everywhere p :=
  h.child (mem_children_of_mem_namedChildren hx)

theorem Everywhere.opened (h : n.Everywhere p) (hx : x ∈ n.opened) : x.Everywhere p := by
  obtain ⟨_, hx⟩ | ⟨_, rfl⟩ := mem_opened.mp hx
  · exact h.namedChild hx
  · exact h

theorem Everywhere.member (h : n.Everywhere p) (hx : x ∈ n.members) : x.Everywhere p := by
  obtain ⟨b, hb, e, he, hx⟩ := mem_members.mp hx
  exact ((h.child (mem_children_of_child? hb)).namedChild he).opened hx

theorem Everywhere.reached (h : root.Everywhere p) {s : Site} (hs : root.Reaches s) :
    s.construct.Everywhere p := by
  induction hs with
  | top hchild _ _ => exact h.child (List.mem_of_getElem? hchild)
  | member _ _ hx ih => exact ih.member hx.mem_members

end Everywhere

section Readable

variable {n : Construct}

theorem fault?_annotations (h : n.IsReadable) : ∀ t ∈ n.annotations, Annotation.fault? t = none := by
  intro t ht
  obtain ⟨m, hm, ht⟩ := List.mem_flatMap.mp ht
  obtain ⟨a, ha, rfl⟩ := List.mem_map.mp ht
  obtain ⟨ha, hk⟩ := List.mem_filter.mp ha
  exact ((h.child (List.mem_filter.mp hm).1).child ha).here (by simpa using hk)

theorem fault?_formals (h : n.IsReadable) :
    ∀ t ∈ n.formals.flatMap (·.annotations), Annotation.fault? t = none := by
  intro t ht
  obtain ⟨f, hf, ht⟩ := List.mem_flatMap.mp ht
  unfold formals at hf
  cases hp : n.child? .parameters with
  | none => simp [hp] at hf
  | some ps =>
    rw [hp, Option.elim_some] at hf
    obtain ⟨x, hx, rfl⟩ := List.mem_map.mp hf
    have hx := mem_children_of_mem_namedChildren (List.mem_filter.mp hx).1
    exact fault?_annotations ((h.child (mem_children_of_child? hp)).child hx) t ht

theorem isMalformed_place? {s : Site} {p : Place} (h : s.construct.IsReadable)
    (hp : s.place? = some p) : p.isMalformed = false := by
  have hown := fault?_annotations h
  have hall : ∀ t ∈ s.construct.annotations ++ s.construct.formals.flatMap (·.annotations),
      Annotation.fault? t = none := by
    intro t ht
    obtain ht | ht := List.mem_append.mp ht
    · exact hown t ht
    · exact fault?_formals h t ht
  have htokens : ∀ t ∈ p.tokens, Annotation.fault? t = none := by
    unfold Site.place? member? at hp
    split at hp
    · split at hp
      · cases hp
      · cases hp
        exact hown
    · split at hp
      · cases hp
        exact hown
      · cases hp
        exact hall
      · cases hp
        exact hall
      · cases hp
  rw [Place.isMalformed, Place.fault?, List.findSome?_eq_none_iff.mpr htokens]
  rfl

end Readable

section Lines

variable {n : Construct}

theorem IsPlaced.span (h : n.IsPlaced) : n.line ≤ n.lastLine := h.here.span

theorem namedChildren_inOrder (h : n.IsPlaced) :
    n.namedChildren.Pairwise (fun x y => x.lastLine ≤ y.line) := h.here.inOrder.filter _

theorem namedChild_within (h : n.IsPlaced) {x : Construct} (hx : x ∈ n.namedChildren) :
    n.line ≤ x.line ∧ x.lastLine ≤ n.lastLine :=
  h.here.within x (mem_children_of_mem_namedChildren hx)

theorem child?_within (h : n.IsPlaced) {s : Slot} {x : Construct} (hx : n.child? s = some x) :
    n.line ≤ x.line ∧ x.lastLine ≤ n.lastLine :=
  h.here.within x (mem_children_of_child? hx)

theorem opened_within (h : n.IsPlaced) {x : Construct} (hx : x ∈ n.opened) :
    n.line ≤ x.line ∧ x.lastLine ≤ n.lastLine := by
  obtain ⟨_, hx⟩ | ⟨_, rfl⟩ := mem_opened.mp hx
  · exact namedChild_within h hx
  · exact ⟨Nat.le_refl _, Nat.le_refl _⟩

theorem opened_inOrder (h : n.IsPlaced) :
    n.opened.Pairwise (fun x y => x.lastLine ≤ y.line) := by
  unfold opened
  split
  · exact namedChildren_inOrder h
  · exact List.pairwise_singleton _ _

theorem members_within (h : n.IsPlaced) {x : Construct} (hx : x ∈ n.members) :
    n.line ≤ x.line ∧ x.lastLine ≤ n.lastLine := by
  obtain ⟨b, hb, e, he, hx⟩ := mem_members.mp hx
  have hbody := h.child (mem_children_of_child? hb)
  have hbn := child?_within h hb
  have heb := namedChild_within hbody he
  have hxe := opened_within (hbody.namedChild he) hx
  omega

theorem members_inOrder (h : n.IsPlaced) :
    n.members.Pairwise (fun x y => x.lastLine ≤ y.line) := by
  unfold members
  cases hb : n.child? .body with
  | none => exact .nil
  | some b =>
    have hbody := h.child (mem_children_of_child? hb)
    rw [Option.elim_some, List.pairwise_flatMap]
    refine ⟨fun e he => opened_inOrder (hbody.namedChild he),
      (namedChildren_inOrder hbody).imp_of_mem ?_⟩
    intro e f he hf hef x hx y hy
    have hxe := opened_within (hbody.namedChild he) hx
    have hyf := opened_within (hbody.namedChild hf) hy
    omega

theorem ascends_formals (h : n.IsPlaced) :
    Ascends n.line n.lastLine (n.formals.map Formal.line) := by
  unfold formals
  cases hp : n.child? .parameters with
  | none => exact .nil
  | some ps =>
    have hps := h.child (mem_children_of_child? hp)
    have hpn := child?_within h hp
    rw [Option.elim_some, List.map_map, List.map_eq_flatMap]
    apply Ascends.flatMap line lastLine
    · intro x hx
      have hx := (List.mem_filter.mp hx).1
      exact .cons (hps.namedChild hx).here.span .nil
    · intro x hx
      have hx := namedChild_within hps (List.mem_filter.mp hx).1
      omega
    · exact (namedChildren_inOrder hps).filter _

theorem lines_parameters (kind : DeclarationKind) (package c : String) (owner : List Annotation)
    (fs : List Formal) :
    ((fs.map Formal.parameter).map (parameterDeclaration kind package c owner)).map
      Declaration.line = fs.map Formal.line := by
  rw [List.map_map, List.map_map]
  rfl

theorem ascends_declared (package : String) {s : Site} (h : s.construct.IsPlaced) :
    Ascends s.construct.line s.construct.lastLine ((s.declared package).map Declaration.line) := by
  have hspan := IsPlaced.span h
  have hformals := ascends_formals h
  cases hk : s.construct.kind with
  | type kind =>
    rw [Site.declared_of_type hk]
    split
    · exact .nil
    · exact .cons hspan .nil
  | field constant =>
    rw [Site.declared_of_field hk, List.map_map]
    exact .const hspan _
  | constructor =>
    rw [Site.declared_of_constructor hk, lines_parameters]
    exact hformals
  | method =>
    rw [Site.declared_of_method hk, List.map_cons, lines_parameters]
    exact .cons hspan hformals
  | _ =>
    rw [Site.declared_of_no_member (by simp [isType, hk]) (by simp [member?, hk])]
    exact .nil

theorem ascends_sites (package : String) (h : n.IsPlaced) (π : List Nat) (c : String) :
    Ascends n.line n.lastLine
      (((n.sites π c).flatMap (Site.declared package)).map Declaration.line) := by
  induction n using inductionOnMembers generalizing π c with
  | step n ih =>
    by_cases hn : n.IsNamedType n.name
    case neg =>
      rw [sites_of_not_namedType hn, List.flatMap_singleton]
      exact ascends_declared package (s := ⟨π, c, n⟩) h
    obtain ⟨htype, hname, -⟩ := isNamedType_iff.mp hn
    obtain ⟨kind, hk⟩ := isType_iff.mp htype
    have hown : (Site.declared package ⟨π, c, n⟩).map Declaration.line = [n.line] := by
      rw [Site.declared_of_type (s := ⟨π, c, n⟩) hk, if_neg hname]
      rfl
    have hbelow : Ascends n.line n.lastLine (n.membersAt.flatMap (fun x =>
        ((x.2.sites (π ++ x.1) n.name).flatMap (Site.declared package)).map Declaration.line)) := by
      apply Ascends.flatMap (fun x => x.2.line) (fun x => x.2.lastLine)
      · intro x hx
        have hx := (mem_membersAt.mp hx).mem_members
        exact ih x.2 hx (h.member hx) _ _
      · intro x hx
        exact members_within h (mem_membersAt.mp hx).mem_members
      · have hmembers := members_inOrder h
        rw [← membersAt_map_snd] at hmembers
        exact List.pairwise_map.mp hmembers
    rw [sites_of_namedType hn, List.flatMap_cons, List.map_append, hown, List.flatMap_assoc,
      List.map_flatMap]
    exact .cons h.here.span hbelow

theorem ascends_reached (package : String) (h : n.IsPlaced) :
    Ascends n.line n.lastLine ((n.reached.flatMap (Site.declared package)).map Declaration.line) := by
  have hchildren : ∀ x ∈ n.namedAt.filter (fun x => x.1.isType), x.1 ∈ n.namedChildren := by
    intro x hx
    rw [← namedAt_map_fst]
    exact List.mem_map_of_mem (List.mem_filter.mp hx).1
  have hinOrder := namedChildren_inOrder h
  rw [← namedAt_map_fst, List.pairwise_map] at hinOrder
  rw [reached, List.flatMap_assoc, List.map_flatMap]
  apply Ascends.flatMap (fun x => x.1.line) (fun x => x.1.lastLine)
  · intro x hx
    exact ascends_sites package (h.namedChild (hchildren x hx)) _ _
  · intro x hx
    exact namedChild_within h (hchildren x hx)
  · exact hinOrder.filter _

end Lines

theorem declarations_unit {root : Construct} (h : root.IsReadable) (path package : String)
    (damaged : Bool) :
    let scanned := Source.scanUnit path package (root.unit damaged)
    scanned.declarations = root.reached.flatMap (Site.declared scanned.package) := by
  intro scanned
  have hsite : ∀ s ∈ root.reached,
      (s.place?.toList.flatMap (fun p => if p.isMalformed then [] else p.declared scanned.package)) =
        s.declared scanned.package := by
    intro s hs
    have hread := h.reached (mem_reached.mp hs)
    unfold Site.declared
    cases hp : s.place? with
    | none => rfl
    | some p => simp [isMalformed_place? hread hp]
  rw [declarations_scanUnit, places_unit, flatMap_filterMap]
  exact List.flatMap_congr hsite

/-- The scan declares what stands at the reached constructs, each once and in the order of the text.
A declaration that is no type belongs to the type around it. -/
theorem declarations_inOrder {root : Construct} (placed : root.IsPlaced) (readable : root.IsReadable)
    (path package : String) (damaged : Bool) :
    let scanned := Source.scanUnit path package (root.unit damaged)
    ∃ (file : String) (sites : List Site) (declared : List (List Declaration)),
      (if package = "" then root.InPackage file.toList else file = package) ∧
      scanned.package = file ∧
      sites.Pairwise (fun s t => s.path < t.path) ∧
      (∀ s, s ∈ sites ↔ root.Reaches s) ∧
      List.Forall₂ (Site.Declares file) sites declared ∧
      scanned.declarations = declared.flatten ∧
      (∀ s ∈ sites, ∀ ds, s.Declares file ds → ∀ d ∈ ds, d.package = file ∧
        if d.kind = .classType then s.construct.IsNamedType d.className
        else ∃ t, root.IsOwner t s d.className) ∧
      (scanned.declarations.map Declaration.line).Pairwise (· ≤ ·) := by
  intro scanned
  have hfile : scanned.package = if package = "" then String.ofList root.package else package := by
    simp [scanned, Source.scanUnit, unit]
  have hdeclarations : scanned.declarations = root.reached.flatMap (Site.declared scanned.package) :=
    declarations_unit readable path package damaged
  refine ⟨scanned.package, root.reached, root.reached.map (Site.declared scanned.package), ?_, rfl,
    pairwise_reached root, fun s => mem_reached, ?_, ?_, ?_, ?_⟩
  · rw [hfile]
    split
    · rw [String.toList_ofList]
      exact inPackage_package root
    · rfl
  · rw [List.forall₂_map_right_iff, List.forall₂_same]
    exact fun s _ => Site.declares_declared scanned.package s
  · rw [hdeclarations, List.flatMap_def]
  · intro s hs ds h
    exact h.className (mem_reached.mp hs)
  · rw [hdeclarations]
    exact (ascends_reached scanned.package placed).sorted

def enumTree : Construct :=
  ⟨.other, none, true, [], 1, 6,
    [⟨.package, none, true, [], 1, 1, [⟨.identifier, none, true, ['p'], 1, 1, []⟩]⟩,
    ⟨.type .enum, none, true, [], 2, 6,
      [⟨.identifier, some .name, true, ['E'], 2, 2, []⟩,
      ⟨.other, some .body, true, [], 2, 6,
        [⟨.other, none, true, ['A'], 2, 2, []⟩,
        ⟨.enumDeclarations, none, true, [], 2, 5,
          [⟨.field false, none, true, [], 3, 3,
            [⟨.modifiers, none, true, [], 3, 3,
              [⟨.mark, none, true, ['@', 'Q'], 3, 3, []⟩]⟩,
            ⟨.identifier, some .type, true, ['B'], 3, 3, []⟩,
            ⟨.declarator, some .declarator, true, ['b'], 3, 3,
              [⟨.identifier, some .name, true, ['b'], 3, 3, []⟩]⟩,
            ⟨.declarator, some .declarator, true, ['c'], 3, 3,
              [⟨.identifier, some .name, true, ['c'], 3, 3, []⟩]⟩]⟩,
          ⟨.type .classType, none, true, [], 4, 4,
            [⟨.identifier, some .name, true, ['I'], 4, 4, []⟩,
            ⟨.other, some .body, true, [], 4, 4,
              [⟨.constructor, none, true, [], 4, 4,
                [⟨.modifiers, none, true, [], 4, 4,
                  [⟨.mark, none, true, ['@', 'S'], 4, 4, []⟩]⟩,
                ⟨.other, some .parameters, true, [], 4, 4,
                  [⟨.spread, none, true, [], 4, 4,
                    [⟨.modifiers, none, true, [], 4, 4,
                      [⟨.mark, none, true, ['@', 'R'], 4, 4, []⟩]⟩,
                    ⟨.identifier, none, true, ['X'], 4, 4, []⟩,
                    ⟨.declarator, none, true, ['x'], 4, 4,
                      [⟨.identifier, some .name, true, ['x'], 4, 4, []⟩]⟩]⟩]⟩]⟩]⟩]⟩,
          ⟨.method, none, true, [], 5, 5,
            [⟨.identifier, some .type, true, ['Y'], 5, 5, []⟩,
            ⟨.identifier, some .name, true, ['f'], 5, 5, []⟩,
            ⟨.other, some .parameters, true, [], 5, 5,
              [⟨.formal, none, true, [], 5, 5,
                [⟨.identifier, some .type, true, ['Z'], 5, 5, []⟩,
                ⟨.identifier, some .name, true, ['z'], 5, 5, []⟩]⟩]⟩]⟩]⟩]⟩]⟩]⟩

theorem declarations_inOrder_enumTree :
    let scanned := Source.scanUnit "E.java" "" (enumTree.unit false)
    (enumTree.IsPlaced ∧ enumTree.IsReadable) ∧
      ∃ (sites : List Site) (declared : List (List Declaration)),
        (∀ s, s ∈ sites ↔ enumTree.Reaches s) ∧ List.Forall₂ (Site.Declares "p") sites declared ∧
        scanned.declarations = declared.flatten ∧
        declared.flatten.map (fun d =>
            (d.kind, d.className, d.type, d.member, d.owner.map Annotation.simpleName)) =
          [(.classType, "E", "E", "", []), (.field, "E", "B", "b", []), (.field, "E", "B", "c", []),
            (.classType, "I", "I", "", []), (.constructorParameter, "I", "X", "x", ["S"]),
            (.method, "E", "Y", "f", []), (.methodParameter, "E", "Z", "z", [])] := by
  intro scanned
  have hplaced : enumTree.IsPlaced := by decide
  have hreadable : enumTree.IsReadable := by decide +kernel
  have hpackage : scanned.package = "p" := by decide +kernel
  obtain ⟨file, sites, declared, -, hfile, -, hreached, hdeclares, hdeclarations, -⟩ :=
    declarations_inOrder hplaced hreadable "E.java" "" false
  obtain rfl : "p" = file := hpackage.symm.trans hfile
  refine ⟨⟨hplaced, hreadable⟩, sites, declared, hreached, hdeclares, hdeclarations, ?_⟩
  rw [← hdeclarations]
  decide +kernel

example : (enumTree.unit false).places =
    (Unit.ofText ("package p;\nenum E \x7b A;\n@Q B b, c;\nclass I \x7b @S I(@R X... x) \x7b\x7d \x7d\n" ++
      "Y f(Z z) \x7b return y; \x7d\n\x7d").toList).places := by
  decide +kernel

end Construct

end Wiring.Java
