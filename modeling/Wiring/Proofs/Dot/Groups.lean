import Mathlib.Data.List.Basic
import Wiring.Analysis
import Wiring.Proofs.Dot.Declared
import Wiring.Proofs.Dot.Identifiers
import Wiring.Proofs.Solid

/-!
The legend, the components and the folders of packages take their identifiers from one stock. They
are kept apart by the names alone, and clash exactly where a name is used twice.
-/

namespace Wiring.Dot

def readIds (ls : List Line) : List (Option (List Token)) :=
  (ls.flatMap Line.declares).map (fun id => tokens id.toList)

def Declares (ls : List Line) (names : List String) : Prop :=
  ∀ id, id ∈ ls.flatMap Line.declares ↔ id ∈ names.map quoteId

section Declares

variable {ls ms : List Line} {xs ys : List String}

theorem tokens_quoteId_eq {x : String} (hx : ¬ IsBroken x) :
    tokens (quoteId x).toList = some [.id x] := (lexesWord_quoteId hx).tokens_eq

theorem Declares.mem_readIds (h : Declares ls xs) (hx : ∀ x ∈ xs, ¬ IsBroken x)
    {t : Option (List Token)} : t ∈ readIds ls ↔ ∃ x ∈ xs, some [.id x] = t := by
  rw [readIds, List.mem_map]
  constructor
  · rintro ⟨id, hid, rfl⟩
    obtain ⟨x, hmem, rfl⟩ := List.mem_map.mp ((h id).mp hid)
    exact ⟨x, hmem, (tokens_quoteId_eq (hx x hmem)).symm⟩
  · rintro ⟨x, hmem, rfl⟩
    exact ⟨quoteId x, (h _).mpr (List.mem_map_of_mem hmem), tokens_quoteId_eq (hx x hmem)⟩

theorem Declares.disjoint_iff (hl : Declares ls xs) (hm : Declares ms ys)
    (hx : ∀ x ∈ xs, ¬ IsBroken x) (hy : ∀ y ∈ ys, ¬ IsBroken y) :
    (readIds ls).Disjoint (readIds ms) ↔ ∀ y ∈ ys, y ∉ xs := by
  constructor
  · intro h y hy' hx'
    exact h ((hl.mem_readIds hx).mpr ⟨y, hx', rfl⟩) ((hm.mem_readIds hy).mpr ⟨y, hy', rfl⟩)
  · intro h t ht ht'
    obtain ⟨x, hx', rfl⟩ := (hl.mem_readIds hx).mp ht
    obtain ⟨y, hy', heq⟩ := (hm.mem_readIds hy).mp ht'
    have hname : y = x := by simpa using heq
    exact h y hy' (hname ▸ hx')

end Declares

theorem declares_legend : Declares legend legendNames := by
  have hlist : legend.flatMap Line.declares = legendNames.map quoteId := by decide +kernel
  intro id
  rw [hlist]

section Graph

variable {g : Graph}

theorem declares_names (hg : g.Valid) : Declares (components g) g.names := by
  intro id
  rw [declares_components, hg.map_name_nodes]

theorem declares_folderLines (package : String) :
    (folderLines g package).flatMap Line.declares = [quoteId package] := by
  have hedges : ((g.coveredBy package).map (fun n => containsLine package n.name)).flatMap
      Line.declares = [] := by
    rw [List.flatMap_map, List.flatMap_eq_nil_iff]
    exact fun _ _ => rfl
  rw [folderLines, List.flatMap_cons, hedges]
  rfl

theorem mem_declares_scanLines {id : String} (seen : List String) (scans : List Scan) :
    id ∈ (scanLines g seen scans).flatMap Line.declares ↔
      ∃ p ∈ scans.map (·.package), p ∉ seen ∧ quoteId p = id := by
  induction scans generalizing seen with
  | nil => simp [scanLines]
  | cons s rest ih =>
    have hscan : (scanLine s).declares = [] := rfl
    have hfolder : id ∈ (if s.package ∈ seen then [] else folderLines g s.package).flatMap
        Line.declares ↔ s.package ∉ seen ∧ quoteId s.package = id := by
      split
      · next hs => simp [hs]
      · next hs => simp [declares_folderLines, hs, eq_comm]
    rw [scanLines_cons, List.flatMap_append, List.flatMap_cons, hscan, List.nil_append,
      List.mem_append, hfolder, ih, List.map_cons, List.exists_mem_cons_iff]
    constructor
    · rintro (h | ⟨p, hp, hseen, rfl⟩)
      · exact .inl h
      · exact .inr ⟨p, hp, fun hs => hseen (List.mem_cons_of_mem _ hs), rfl⟩
    · rintro (h | ⟨p, hp, hseen, rfl⟩)
      · exact .inl h
      · by_cases hs : p = s.package
        · exact .inl ⟨hs ▸ hseen, hs ▸ rfl⟩
        · exact .inr ⟨p, hp, by simp [hs, hseen], rfl⟩

theorem declares_componentScans (c : Config) (g : Graph) :
    Declares (componentScans c g) ((drawnScans c g).map (·.package)) := by
  intro id
  have hlines : id ∈ (scanLines g [] (drawnScans c g)).flatMap Line.declares ↔
      id ∈ ((drawnScans c g).map (·.package)).map quoteId := by
    rw [mem_declares_scanLines, List.mem_map]
    simp
  rw [← hlines]
  unfold componentScans drawnScans
  cases c.hasFeature .componentScan with
  | false => exact Iff.rfl
  | true =>
    cases hs : g.scans with
    | nil => exact Iff.rfl
    | cons s rest => exact Iff.rfl

theorem not_isBroken_of_isIdentifier {x : String} (hx : Java.IsIdentifier x) : ¬ IsBroken x := by
  rintro ⟨w, -, hw⟩
  have hblank := hx.solid.no_blank '\n' (by simp [hw])
  exact absurd hblank (by decide)

theorem not_isBroken_of_mem_legendNames : ∀ x ∈ legendNames, ¬ IsBroken x := by
  have hlast : ∀ x ∈ legendNames, ¬ EndsLine x := by decide
  exact fun x hx h => hlast x hx h.endsLine

theorem eq_unresolved {x : String} (hx : Java.IsIdentifier x) (hlegend : x ∈ legendNames) :
    x = "unresolved" := by
  have hall : ∀ y ∈ legendNames, y = "unresolved" ∨ y.toList.head? = some '@' := by decide
  obtain ⟨letter, r, hletter, hc, -⟩ := hx
  rcases hall x hlegend with h | h
  · exact h
  · rw [hletter] at h
    cases h
    exact absurd hc (by decide +kernel)

/-- In the document of a graph that was built a component has the identifier of a legend entry
exactly if it is named `unresolved`, and a folder has that of a legend entry or of a component
exactly if its package has the same name. If no component is named `unresolved`, no relation ends at
a legend entry. -/
theorem disjoint_readIds (c : Config) (bs : List (Batch Entity))
    (hnames : ∀ x ∈ (Graph.build bs).names, Java.IsIdentifier x)
    (hpackages : ∀ s ∈ drawnScans c (Graph.build bs), ¬ IsBroken s.package) :
    let g := Graph.build bs
    let packages := (drawnScans c g).map (·.package)
    (render c g).toList =
        "digraph Components \x7b\n".toList ++ ((body c g).flatMap lineText ++ ['\x7d', '\n']) ∧
      body c g =
        legend ++ .blank :: components g ++ .blank :: relations c g ++ componentScans c g ∧
      ((readIds legend).Disjoint (readIds (components g)) ↔ "unresolved" ∉ g.names) ∧
      ((readIds legend).Disjoint (readIds (componentScans c g)) ↔
        ∀ p ∈ packages, p ∉ legendNames) ∧
      ((readIds (components g)).Disjoint (readIds (componentScans c g)) ↔
        ∀ p ∈ packages, p ∉ g.names) ∧
      ("unresolved" ∉ g.names →
        ∀ l ∈ relations c g, ∀ id ∈ l.joins, tokens id.toList ∉ readIds legend) := by
  intro g packages
  have hg : g.Valid := Graph.valid_build bs
  have hnamed : ∀ x ∈ g.names, ¬ IsBroken x :=
    fun x hx => not_isBroken_of_isIdentifier (hnames x hx)
  have hpacked : ∀ p ∈ packages, ¬ IsBroken p := by
    intro p hp
    obtain ⟨s, hs, rfl⟩ := List.mem_map.mp hp
    exact hpackages s hs
  have hunresolved : "unresolved" ∉ g.names ↔ ∀ x ∈ g.names, x ∉ legendNames := by
    constructor
    · intro h x hx hlegend
      exact h (eq_unresolved (hnames x hx) hlegend ▸ hx)
    · intro h hx
      exact h _ hx (by decide)
  refine ⟨toList_render c g, rfl, ?_, ?_, ?_, ?_⟩
  · rw [hunresolved]
    exact declares_legend.disjoint_iff (declares_names hg) not_isBroken_of_mem_legendNames hnamed
  · exact declares_legend.disjoint_iff (declares_componentScans c g)
      not_isBroken_of_mem_legendNames hpacked
  · exact (declares_names hg).disjoint_iff (declares_componentScans c g) hnamed hpacked
  · intro h l hl id hid hlegend
    obtain ⟨y, hy, hread⟩ := (declares_legend.mem_readIds not_isBroken_of_mem_legendNames).mp hlegend
    have hends : ∃ x ∈ g.names, quoteId x = id := by
      simp only [relations, List.mem_cons, List.mem_map] at hl
      rcases hl with rfl | ⟨e, he, rfl⟩
      · cases hid
      · obtain ⟨hs, ht⟩ := hg.ends e (List.mem_of_mem_filter he)
        simp only [edgeLine, Line.joins, List.mem_cons, List.not_mem_nil, or_false] at hid
        rcases hid with rfl | rfl
        · exact ⟨_, hs, rfl⟩
        · exact ⟨_, ht, rfl⟩
    obtain ⟨x, hx, rfl⟩ := hends
    rw [tokens_quoteId_eq (hnamed x hx)] at hread
    have hname : y = x := by simpa using hread
    exact hunresolved.mp h x hx (hname ▸ hy)

theorem disjoint_readIds_scanned :
    let source : Source := ⟨"Main.java", "", Text.CodePoint.ofString
      "package a.b; @Configuration @ComponentScan class Main\x7b@Bean Unresolved u()\x7b\x7d\x7d"⟩
    let g := Graph.build [source.batch .default]
    (∀ x ∈ g.names, Java.IsIdentifier x) ∧ (∀ s ∈ drawnScans .full g, ¬ IsBroken s.package) ∧
      g.names = ["Main", "Unresolved"] ∧ (drawnScans .full g).map (·.package) = ["a.b"] ∧
      (render .full g).toList = "digraph Components \x7b\n".toList ++
        ((body .full g).flatMap lineText ++ ['\x7d', '\n']) ∧
      (readIds legend).Disjoint (readIds (components g)) ∧
      (readIds legend).Disjoint (readIds (componentScans .full g)) ∧
      (readIds (components g)).Disjoint (readIds (componentScans .full g)) := by
  intro source g
  obtain ⟨hnames, hpackages⟩ : g.names = ["Main", "Unresolved"] ∧
      (drawnScans .full g).map (·.package) = ["a.b"] := by decide +kernel
  have hidentifiers : ∀ x ∈ g.names, Java.IsIdentifier x := by
    rw [hnames]
    have hmain : Java.IsIdentifier "Main" :=
      ⟨'M', "ain".toList, rfl, by decide, List.all_eq_true.mp (by decide)⟩
    have hother : Java.IsIdentifier "Unresolved" :=
      ⟨'U', "nresolved".toList, rfl, by decide, List.all_eq_true.mp (by decide)⟩
    simpa using ⟨hmain, hother⟩
  have hwhole : ∀ s ∈ drawnScans .full g, ¬ IsBroken s.package := by
    intro s hs
    have hpackage : s.package ∈ ["a.b"] := hpackages ▸ List.mem_map_of_mem hs
    rw [List.mem_singleton.mp hpackage]
    exact fun h => absurd h.endsLine (by decide)
  obtain ⟨htext, -, hlegend, hfolders, hboth, -⟩ := disjoint_readIds .full _ hidentifiers hwhole
  rw [hnames] at hlegend hboth
  rw [hpackages] at hfolders hboth
  exact ⟨hidentifiers, hwhole, hnames, hpackages, htext, hlegend.mpr (by decide),
    hfolders.mpr (by decide), hboth.mpr (by decide)⟩

theorem readIds_clash :
    let source : Source := ⟨"A.java", "", Text.CodePoint.ofString
      "package unresolved; @Service @ComponentScan class unresolved\x7b\x7d"⟩
    let g := Analysis.graph .default [source]
    let id : Option (List Token) := some [.id "unresolved"]
    (render .full g).toList = "digraph Components \x7b\n".toList ++
        ((legend ++ .blank :: components g ++ .blank :: relations .full g ++
          componentScans .full g).flatMap lineText ++ ['\x7d', '\n']) ∧
      id ∈ readIds legend ∧ id ∈ readIds (components g) ∧ id ∈ readIds (componentScans .full g) := by
  intro source g id
  obtain ⟨hnames, hpackages⟩ : g.names = ["unresolved"] ∧
      (drawnScans .full g).map (·.package) = ["unresolved"] := by decide +kernel
  have hwhole : ∀ x ∈ ["unresolved"], ¬ IsBroken x := by
    intro x hx h
    rw [List.mem_singleton.mp hx] at h
    exact absurd h.endsLine (by decide)
  have hcomponents := declares_names (g := g) (Graph.valid_build _)
  have hfolders := declares_componentScans .full g
  rw [hnames] at hcomponents
  rw [hpackages] at hfolders
  exact ⟨toList_render .full g,
    (declares_legend.mem_readIds not_isBroken_of_mem_legendNames).mpr ⟨_, by decide, rfl⟩,
    (hcomponents.mem_readIds hwhole).mpr ⟨_, List.mem_singleton_self _, rfl⟩,
    (hfolders.mem_readIds hwhole).mpr ⟨_, List.mem_singleton_self _, rfl⟩⟩

end Graph

end Wiring.Dot
