import Mathlib.Data.List.Count
import Mathlib.Data.List.Nodup
import Wiring.Dot

namespace Wiring.Dot

def folderLine (package : String) : Line := .node package "shape=folder,style=filled"

def containsLine (package name : String) : Line := .edge package name "label=\"contains\""

def scanLine (s : Scan) : Line := .edge s.source s.package "label=\"@ComponentScan\""

def folderLines (g : Graph) (package : String) : List Line :=
  folderLine package :: (g.coveredBy package).map (fun n => containsLine package n.name)

def drawnScans (c : Config) (g : Graph) : List Scan :=
  if c.hasFeature .componentScan then g.scans else []

section Lines

variable {g : Graph} {package name : String}

theorem scanLine_ne_folderLine (s : Scan) : scanLine s ≠ folderLine package := nofun

theorem scanLine_ne_containsLine (s : Scan) : scanLine s ≠ containsLine package name := by
  intro h
  exact absurd (Line.edge.inj h).2.2 (by decide)

theorem folderLine_ne_containsLine {q : String} : folderLine q ≠ containsLine package name := nofun

theorem containsLine_inj {p q m n : String} : containsLine p m = containsLine q n ↔ p = q ∧ m = n := by
  simp [containsLine]

theorem scanLine_injective : Function.Injective scanLine := by
  rintro ⟨source, package⟩ ⟨source', package'⟩ h
  obtain ⟨hs, hp, _⟩ := Line.edge.inj h
  exact congrArg₂ Scan.mk hs hp

theorem folderLine_mem {q : String} (h : folderLine package ∈ folderLines g q) : q = package := by
  rcases List.mem_cons.mp h with h | h
  · exact (Line.node.inj h).1.symm
  · obtain ⟨n, _, hn⟩ := List.mem_map.mp h
    cases hn

theorem containsLine_mem {q : String} :
    containsLine package name ∈ folderLines g q ↔
      q = package ∧ name ∈ (g.coveredBy package).map (·.name) := by
  simp only [folderLines, List.mem_cons, List.mem_map, containsLine_inj]
  constructor
  · rintro (h | ⟨n, hn, rfl, rfl⟩)
    · cases h
    · exact ⟨rfl, n, hn, rfl⟩
  · rintro ⟨rfl, n, hn, rfl⟩
    exact .inr ⟨n, hn, rfl, rfl⟩

end Lines

theorem scanLines_cons (g : Graph) (seen : List String) (s : Scan) (rest : List Scan) :
    scanLines g seen (s :: rest) =
      (if s.package ∈ seen then [] else folderLines g s.package) ++
        scanLine s :: scanLines g (s.package :: seen) rest := by
  simp only [scanLines, List.contains_iff_mem]
  rfl

theorem count_scanLines {g : Graph} {x : Line} {package : String} (hscan : ∀ s, scanLine s ≠ x)
    (hfolder : ∀ q, x ∈ folderLines g q → q = package) (seen : List String) (scans : List Scan) :
    (scanLines g seen scans).count x =
      if package ∈ scans.map (·.package) ∧ package ∉ seen then (folderLines g package).count x
      else 0 := by
  induction scans generalizing seen with
  | nil => simp [scanLines]
  | cons s rest ih =>
    rw [scanLines_cons, List.count_append, List.count_cons_of_ne (hscan s), ih]
    by_cases hp : package = s.package
    · subst hp
      by_cases hs : s.package ∈ seen
      · simp [hs]
      · simp [hs]
    · have hother : (folderLines g s.package).count x = 0 :=
        List.count_eq_zero.mpr (fun hx => hp (hfolder _ hx).symm)
      have hnew : (if s.package ∈ seen then [] else folderLines g s.package).count x = 0 := by
        split
        · rfl
        · exact hother
      simp [hnew, hp]

theorem count_scanLine_scanLines (g : Graph) (s : Scan) (seen : List String) (scans : List Scan) :
    (scanLines g seen scans).count (scanLine s) = scans.count s := by
  induction scans generalizing seen with
  | nil => rfl
  | cons t rest ih =>
    have hfolder : (folderLines g t.package).count (scanLine s) = 0 := by
      rw [List.count_eq_zero]
      intro h
      rcases List.mem_cons.mp h with h | h
      · exact scanLine_ne_folderLine s h
      · obtain ⟨n, _, hn⟩ := List.mem_map.mp h
        exact scanLine_ne_containsLine s hn.symm
    have hnew : (if t.package ∈ seen then [] else folderLines g t.package).count (scanLine s) = 0 := by
      split
      · rfl
      · exact hfolder
    rw [scanLines_cons, List.count_append, hnew, Nat.zero_add, List.count_cons, List.count_cons, ih]
    simp [scanLine_injective.eq_iff]

section Section

variable (c : Config) (g : Graph)

theorem count_componentScans (x : Line) (hblank : x ≠ .blank) (hcomment : ∀ text, x ≠ .comment text) :
    (componentScans c g).count x = (scanLines g [] (drawnScans c g)).count x := by
  unfold componentScans drawnScans
  cases c.hasFeature .componentScan with
  | false => rfl
  | true =>
    cases hs : g.scans with
    | nil => rfl
    | cons s rest => simp [hblank.symm, (hcomment _).symm]

theorem count_folderLine (package : String) :
    (componentScans c g).count (folderLine package) =
      if package ∈ (drawnScans c g).map (·.package) then 1 else 0 := by
  have hone : (folderLines g package).count (folderLine package) = 1 := by
    rw [folderLines, List.count_cons_self, List.count_eq_zero.mpr]
    intro h
    obtain ⟨n, _, hn⟩ := List.mem_map.mp h
    cases hn
  rw [count_componentScans c g (folderLine package) nofun nofun,
    count_scanLines scanLine_ne_folderLine (fun _ => folderLine_mem), hone]
  simp

theorem count_containsLine_eq (package name : String) :
    (componentScans c g).count (containsLine package name) =
      if package ∈ (drawnScans c g).map (·.package) then
        (folderLines g package).count (containsLine package name)
      else 0 := by
  rw [count_componentScans c g (containsLine package name) nofun nofun,
    count_scanLines scanLine_ne_containsLine (fun _ h => (containsLine_mem.mp h).1)]
  simp

theorem mem_componentScans {package name : String} :
    containsLine package name ∈ componentScans c g ↔
      package ∈ (drawnScans c g).map (·.package) ∧ name ∈ (g.coveredBy package).map (·.name) := by
  rw [← List.count_pos_iff, count_containsLine_eq]
  split
  · next hp =>
    rw [List.count_pos_iff, containsLine_mem]
    simp [hp]
  · next hp => simp [hp]

theorem count_containsLine (h : (g.nodes.map (·.name)).Nodup) (package name : String) :
    (componentScans c g).count (containsLine package name) =
      if package ∈ (drawnScans c g).map (·.package) ∧
        name ∈ (g.coveredBy package).map (·.name) then 1 else 0 := by
  have hnodup : ((g.coveredBy package).map (·.name)).Nodup :=
    h.sublist (List.filter_sublist.map _)
  have hcount : (folderLines g package).count (containsLine package name) =
      if name ∈ (g.coveredBy package).map (·.name) then 1 else 0 := by
    have hinjective : Function.Injective (containsLine package) :=
      fun _ _ he => (containsLine_inj.mp he).2
    have hmap : (g.coveredBy package).map (fun n => containsLine package n.name) =
        ((g.coveredBy package).map (·.name)).map (containsLine package) := by
      rw [List.map_map]
      rfl
    rw [folderLines, List.count_cons_of_ne folderLine_ne_containsLine, hmap,
      List.count_map_of_injective _ _ hinjective]
    split
    · next hname => exact List.count_eq_one_of_mem hnodup hname
    · next hname => exact List.count_eq_zero.mpr hname
  rw [count_containsLine_eq, hcount, ite_and]

theorem count_scanLine (h : g.scans.Nodup) (s : Scan) :
    (componentScans c g).count (scanLine s) = if s ∈ drawnScans c g then 1 else 0 := by
  have hnodup : (drawnScans c g).Nodup := by
    unfold drawnScans
    split
    · exact h
    · exact List.nodup_nil
  rw [count_componentScans c g (scanLine s) nofun nofun, count_scanLine_scanLines]
  split
  · next hs => exact List.count_eq_one_of_mem hnodup hs
  · next hs => exact List.count_eq_zero.mpr hs

end Section

end Wiring.Dot
