import Mathlib.Data.List.Forall2
import Wiring.Proofs.Java.Places

/-!
A tree with malformed annotations against the same tree with annotations that can be read in their
place. The scan of the first leaves out what the malformed places declare, and nothing else.
-/

namespace Wiring.Java

def Formal.mapTokens (f : List Char → List Char) (x : Formal) : Formal :=
  { x with annotations := x.annotations.map f }

namespace Place

def mapTokens (f : List Char → List Char) : Place → Place
  | header h => header { h with annotations := h.annotations.map f }
  | member c (.field k line ts type names) => member c (.field k line (ts.map f) type names)
  | member c (.constructor line ts fs) =>
    member c (.constructor line (ts.map f) (fs.map (Formal.mapTokens f)))
  | member c (.method line ts type name fs) =>
    member c (.method line (ts.map f) type name (fs.map (Formal.mapTokens f)))

def blank (p : Place) : Place := p.mapTokens (fun _ => [])

/-- The same place, where tokens that cannot all be read have been replaced by ones that can. -/
structure Mended (p q : Place) : Prop where
  blank_eq : q.blank = p.blank
  readable : q.isMalformed = false
  kept : p.isMalformed = false → q = p

theorem tokens_mapTokens (f : List Char → List Char) (p : Place) :
    (p.mapTokens f).tokens = p.tokens.map f := by
  have hformals : ∀ fs : List Formal, (fs.map (Formal.mapTokens f)).flatMap (·.annotations) =
      (fs.flatMap (·.annotations)).map f := by
    intro fs
    rw [List.flatMap_map, List.map_flatMap]
    rfl
  cases p with
  | header h => rfl
  | member c m =>
    cases m with
    | field k line ts type names => rfl
    | constructor line ts fs => simp only [mapTokens, tokens, List.map_append, hformals]
    | method line ts type name fs => simp only [mapTokens, tokens, List.map_append, hformals]

theorem blank_mapTokens (f : List Char → List Char) (p : Place) : (p.mapTokens f).blank = p.blank := by
  have hmap : ∀ ts : List (List Char), (ts.map f).map (fun _ => ([] : List Char)) =
      ts.map (fun _ => []) := by
    intro ts
    rw [List.map_map]
    rfl
  have hformals : ∀ fs : List Formal,
      (fs.map (Formal.mapTokens f)).map (Formal.mapTokens (fun _ => [])) =
        fs.map (Formal.mapTokens (fun _ => [])) := by
    intro fs
    rw [List.map_map]
    apply List.map_congr_left
    intro x _
    simp only [Function.comp_apply, Formal.mapTokens, hmap]
  cases p with
  | header h => simp only [mapTokens, blank, hmap]
  | member c m =>
    cases m <;> simp only [mapTokens, blank, hmap, hformals]

theorem exists_mended (p : Place) : ∃ q, p.Mended q := by
  cases hp : p.isMalformed with
  | false => exact ⟨p, rfl, hp, fun _ => rfl⟩
  | true =>
    have hnone : Option.isNone <| Annotation.fault? ['@', 'A'] := by decide +kernel
    have hread : Annotation.fault? ['@', 'A'] = none := Option.isNone_iff_eq_none.mp hnone
    refine ⟨p.mapTokens (fun _ => ['@', 'A']), blank_mapTokens _ p, ?_, by simp [hp]⟩
    rw [isMalformed, Place.fault?, tokens_mapTokens]
    simp [hread]

theorem Mended.header {h : Header} {q : Place} (hq : (Place.header h).Mended q) :
    ∃ h', q = .header h' ∧ h'.name = h.name := by
  cases q with
  | header h' =>
    have hblank := hq.blank_eq
    simp only [blank, mapTokens, Place.header.injEq, Header.mk.injEq] at hblank
    exact ⟨h', rfl, hblank.2.1⟩
  | member c m =>
    have hblank := hq.blank_eq
    cases m <;> cases hblank

theorem Mended.member {c : String} {m : Member} {q : Place} (hq : (Place.member c m).Mended q) :
    ∃ m', q = .member c m' := by
  have hblank := hq.blank_eq
  cases q with
  | header h' => cases m <;> cases hblank
  | member c' m' =>
    cases m <;> cases m' <;> simp_all [blank, mapTokens]

end Place

mutual

inductive Item.Mended : String → Item → Item → Prop where
  | member {c : String} {m m' : Member} (hm : Place.Mended (.member c m) (.member c m')) :
      Item.Mended c (.member m) (.member m')
  | type {c : String} {h h' : Header} {body body' : List Item}
      (hh : Place.Mended (.header h) (.header h')) (hb : MendedAll h.name body body') :
      Item.Mended c (.type h body) (.type h' body')
  | nameless {c : String} {h : Header} {body : List Item} (hn : h.name = "") :
      Item.Mended c (.type h body) (.type h body)

inductive MendedAll : String → List Item → List Item → Prop where
  | nil {c : String} : MendedAll c [] []
  | cons {c : String} {i j : Item} {is js : List Item} (hi : Item.Mended c i j)
      (his : MendedAll c is js) : MendedAll c (i :: is) (j :: js)

end

structure Unit.Mended (u v : Unit) : Prop where
  package_eq : v.package = u.package
  damaged_eq : v.damaged = u.damaged
  types : MendedAll "" (u.items.filter Item.isType) (v.items.filter Item.isType)

mutual

theorem Item.exists_mended (c : String) (i : Item) : ∃ j, Item.Mended c i j ∧ j.isType = i.isType := by
  cases i with
  | member m =>
    obtain ⟨q, hq⟩ := Place.exists_mended (.member c m)
    obtain ⟨m', rfl⟩ := hq.member
    exact ⟨.member m', .member hq, rfl⟩
  | type h body =>
    obtain ⟨q, hq⟩ := Place.exists_mended (.header h)
    obtain ⟨h', rfl, _⟩ := hq.header
    obtain ⟨body', hb, _⟩ := exists_mendedAll h.name body
    exact ⟨.type h' body', .type hq hb, rfl⟩

theorem exists_mendedAll (c : String) (is : List Item) :
    ∃ js, MendedAll c is js ∧ js.map Item.isType = is.map Item.isType := by
  cases is with
  | nil => exact ⟨[], .nil, rfl⟩
  | cons i is =>
    obtain ⟨j, hj, hjt⟩ := Item.exists_mended c i
    obtain ⟨js, hjs, hjst⟩ := exists_mendedAll c is
    exact ⟨j :: js, .cons hj hjs, by rw [List.map_cons, List.map_cons, hjt, hjst]⟩

end

theorem Unit.exists_mended (u : Unit) : ∃ v, u.Mended v := by
  obtain ⟨js, hjs, ht⟩ := exists_mendedAll "" (u.items.filter Item.isType)
  refine ⟨⟨u.package, js, u.damaged⟩, rfl, rfl, ?_⟩
  have hall : ∀ b ∈ js.map Item.isType, b = true := by
    rw [ht]
    simp
  have hfilter : js.filter Item.isType = js := by
    rw [List.filter_eq_self]
    intro j hj
    exact hall _ (List.mem_map.mpr ⟨j, hj, rfl⟩)
  rw [hfilter]
  exact hjs

mutual

theorem Item.Mended.places {c : String} {i j : Item} (h : Item.Mended c i j) :
    List.Forall₂ Place.Mended (i.places c) (j.places c) := by
  cases h with
  | member hm => exact .cons hm .nil
  | @type _ h h' body body' hh hb =>
    obtain ⟨_, he, hname⟩ := hh.header
    cases he
    rw [Item.places, Item.places, hname]
    split
    · exact .nil
    · exact .cons hh hb.places
  | nameless hn =>
    rw [Item.places, if_pos hn]
    exact .nil

theorem MendedAll.places {c : String} {is js : List Item} (h : MendedAll c is js) :
    List.Forall₂ Place.Mended (placesOfAll c is) (placesOfAll c js) := by
  cases h with
  | nil => exact .nil
  | cons hi his => exact List.rel_append hi.places his.places

end

section Kept

variable {ps qs : List Place} (package : String)

theorem flatMap_declared_mended (h : List.Forall₂ Place.Mended ps qs) :
    qs.flatMap (fun q => if q.isMalformed then [] else q.declared package) =
      (ps.zip qs).flatMap (fun x => x.2.declared package) := by
  induction h with
  | nil => rfl
  | cons hpq _ ih => simp [hpq.readable, ih]

theorem flatMap_declared_kept (h : List.Forall₂ Place.Mended ps qs) :
    ps.flatMap (fun p => if p.isMalformed then [] else p.declared package) =
      ((ps.zip qs).filter (fun x => !x.1.isMalformed)).flatMap (fun x => x.2.declared package) := by
  induction h with
  | nil => rfl
  | @cons p q ps qs hpq _ ih =>
    cases hp : p.isMalformed with
    | true => simp [hp, ih]
    | false => simp [hp, ih, hpq.kept hp]

end Kept

theorem forall₂_skips (path : String) (ps : List Place) :
    List.Forall₂ (fun p n => ∃ cause, p.fault? = some cause ∧ n = p.skip path cause)
      (ps.filter Place.isMalformed)
      (ps.flatMap (fun p => (p.fault?.map (fun cause => p.skip path cause)).toList)) := by
  induction ps with
  | nil => exact .nil
  | cons p ps ih =>
    cases hp : p.fault? with
    | none => simpa [hp, Place.isMalformed] using ih
    | some cause => simpa [hp, Place.isMalformed] using ih

theorem declarations_scanUnit (path package : String) (u : Unit) :
    (Source.scanUnit path package u).declarations =
      u.places.flatMap (fun p => if p.isMalformed then []
        else p.declared (Source.scanUnit path package u).package) := by
  simp only [Scanned.declarations, Source.scanUnit, Unit.findings, Unit.places]
  rw [filterMap_findingsOfAll _ _ _ (fun _ _ => rfl)]
  simp only [Place.declarations_findings]

def isWarning (n : Notice) : Bool := n.level == .warning

theorem isWarning_skip (path : String) (cause : Annotation.Malformed) (p : Place) :
    isWarning (p.skip path cause) = true := by
  cases p <;> rfl

theorem warnings_scanUnit (path package : String) (u : Unit) :
    (Source.scanUnit path package u).notices.filter isWarning =
      (Source.scanUnit path package u).opening ++
        u.places.flatMap (fun p => (p.fault?.map (fun cause => p.skip path cause)).toList) := by
  have hopening : (Source.scanUnit path package u).opening.filter isWarning =
      (Source.scanUnit path package u).opening := by
    unfold Scanned.opening
    split <;> rfl
  have hplace : ∀ (package : String) (p : Place), (p.findings path package).filterMap
      (fun x => (x.notice?).filter isWarning) =
        (p.fault?.map (fun cause => p.skip path cause)).toList := by
    intro package p
    rw [← List.filter_filterMap, Place.notices_findings]
    cases p.fault? with
    | none => rfl
    | some cause => simp [isWarning_skip]
  rw [Scanned.notices, List.filter_append, hopening, List.filter_filterMap]
  congr 1
  simp only [Source.scanUnit, Unit.findings, Unit.places]
  rw [filterMap_findingsOfAll _ _ _ (fun _ _ => rfl)]
  simp only [hplace]

/-- A malformed annotation costs what its place declares: of the same tree with the annotations
mended all else is found, in the same order, and each place that is left out is reported once. -/
theorem scan_mended (u : Unit) (path package : String) :
    (∃ v, u.Mended v) ∧ ∀ v, u.Mended v →
      let damaged := Source.scanUnit path package u
      let whole := Source.scanUnit path package v
      let pairs := u.places.zip v.places
      u.places.length = v.places.length ∧
        whole.declarations = pairs.flatMap (fun x => x.2.declared whole.package) ∧
        damaged.declarations =
          (pairs.filter (fun x => !x.1.isMalformed)).flatMap (fun x => x.2.declared whole.package) ∧
        ∃ skips, damaged.notices.filter isWarning = damaged.opening ++ skips ∧
          List.Forall₂ (fun p n => ∃ cause, p.fault? = some cause ∧ n = p.skip path cause)
            (u.places.filter Place.isMalformed) skips := by
  refine ⟨u.exists_mended, ?_⟩
  intro v h damaged whole pairs
  have hplaces : List.Forall₂ Place.Mended u.places v.places := h.types.places
  have hpackage : damaged.package = whole.package := by
    simp only [damaged, whole, Source.scanUnit, h.package_eq]
  refine ⟨hplaces.length_eq, ?_, ?_, _, warnings_scanUnit path package u, forall₂_skips path u.places⟩
  · exact (declarations_scanUnit path package v).trans (flatMap_declared_mended _ hplaces)
  · rw [← hpackage]
    exact (declarations_scanUnit path package u).trans (flatMap_declared_kept _ hplaces)

end Wiring.Java
