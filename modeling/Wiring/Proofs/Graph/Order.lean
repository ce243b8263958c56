import Wiring.Proofs.Graph.Contents

namespace Wiring.Graph

def applyAll (ps : List (Entity × String)) : Graph := ps.foldl (fun g p => g.apply p.2 p.1) empty

/-- All that give the name a stereotype give it the same package. -/
def OnePackage (name : String) (ps : List (Entity × String)) : Prop :=
  ∃ package, ∀ p ∈ ps, ∀ r, p.1.change p.2 = .role r → r.className = name → r.package = package

def asked (ps : List (Entity × String)) : List Change := ps.map (fun p => p.1.change p.2)

theorem applyAll_eq_changes (ps : List (Entity × String)) :
    applyAll ps = empty.changes (asked ps) := by
  rw [changes, asked, List.foldl_map]
  rfl

theorem OnePackage.of_mem_rolesOf {name : String} {ps : List (Entity × String)}
    (h : OnePackage name ps) : ∃ package, ∀ r ∈ rolesOf name (asked ps), r.package = package := by
  obtain ⟨package, hp⟩ := h
  refine ⟨package, ?_⟩
  intro r hr
  obtain ⟨c, hc, hr⟩ := List.mem_flatMap.mp hr
  obtain ⟨p, hm, rfl⟩ := List.mem_map.mp hc
  cases hch : p.1.change p.2 with
  | role s =>
    simp only [hch, Change.roles] at hr
    split at hr
    · next hs =>
      rw [List.mem_singleton.mp hr]
      exact hp p hm s hch hs
    · cases hr
  | edge e => simp only [hch, Change.roles] at hr; cases hr
  | scan s => simp only [hch, Change.roles] at hr; cases hr

theorem eq_of_perm_of_forall_eq {α : Type} {l m : List α} {a : α} (h : l.Perm m)
    (ha : ∀ x ∈ l, x = a) : l = m := by
  have hm : ∀ x ∈ m, x = a := fun x hx => ha x (h.mem_iff.mpr hx)
  rw [List.eq_replicate_of_mem ha, List.eq_replicate_of_mem hm, h.length_eq]

theorem applyAll_perm {ps qs : List (Entity × String)} (h : ps.Perm qs) :
    (applyAll ps).names.Perm (applyAll qs).names ∧
      (applyAll ps).edges.Perm (applyAll qs).edges ∧
      (applyAll ps).scans.Perm (applyAll qs).scans ∧
      (∀ name, ((applyAll ps).lookup name).stereotype = ((applyAll qs).lookup name).stereotype) ∧
      ∀ name, OnePackage name ps →
        ((applyAll ps).lookup name).package = ((applyAll qs).lookup name).package := by
  have hc : (asked ps).Perm (asked qs) := h.map _
  rw [applyAll_eq_changes, applyAll_eq_changes]
  -- names, edges and scans are gathered from what is asked for, roles are compared by rank
  refine ⟨?_, ?_, ?_, ?_, ?_⟩
  · rw [names_changes valid_empty, names_changes valid_empty]
    exact gather_perm (hc.flatMap_right _)
  · rw [edges_changes valid_empty, edges_changes valid_empty]
    exact gather_perm (hc.flatMap_right _)
  · rw [scans_changes valid_empty, scans_changes valid_empty]
    exact gather_perm (hc.flatMap_right _)
  · intro name
    rw [stereotype_changes, stereotype_changes]
    exact Stereotype.mostSpecific?_perm ((rolesOf_perm hc name).map _)
  · intro name hone
    obtain ⟨package, hp⟩ := hone.of_mem_rolesOf
    rw [package_changes, package_changes]
    congr 1
    apply eq_of_perm_of_forall_eq (a := package) ((rolesOf_perm hc name).map _)
    intro q hq
    obtain ⟨r, hr, rfl⟩ := List.mem_map.mp hq
    exact hp r hr

theorem applyAll_perm_forward :
    let used : Entity × String := (.autowired "A" "B" false "b", "p")
    let told : Entity × String := (.component "B" .service "", "q")
    [used, told].Perm [told, used] ∧ OnePackage "B" [used, told] ∧
      (applyAll [used, told]).names = ["A", "B"] ∧ (applyAll [told, used]).names = ["B", "A"] ∧
      (applyAll [used, told]).names.Perm (applyAll [told, used]).names ∧
      ((applyAll [used, told]).lookup "B").package =
        ((applyAll [told, used]).lookup "B").package := by
  intro used told
  have hone : OnePackage "B" [used, told] := by
    refine ⟨"q", ?_⟩
    intro p hp r hr _
    simp only [List.mem_cons, List.not_mem_nil, or_false] at hp
    rcases hp with rfl | rfl
    · cases hr
    · cases hr; rfl
  have h := applyAll_perm (.swap told used [])
  exact ⟨.swap told used [], hone, by decide, by decide, h.1, h.2.2.2.2 "B" hone⟩

end Wiring.Graph
