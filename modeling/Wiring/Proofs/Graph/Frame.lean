import Wiring.Proofs.Graph.Reference

namespace Wiring

variable {e : Entity} {batchPackage : String} {r : Role}

def Stereotype.Outdoes (s : Stereotype) (n : Node) : Prop :=
  ∀ old, n.stereotype = some old → s.rank < old.rank

structure Node.KeptBy (n : Node) (e : Entity) (batchPackage : String) (m : Node) : Prop where
  name : m.name = n.name
  other : n.name ∉ e.classes → m = n
  raised : ∀ r, e.role? batchPackage = some r → r.className = n.name → r.stereotype.Outdoes n →
    m.stereotype = some r.stereotype
  stereotype : (∀ r, e.role? batchPackage = some r → r.className = n.name →
    ¬ r.stereotype.Outdoes n) → m.stereotype = n.stereotype
  package : n.package ≠ none → m.package = n.package
  related : e.role? batchPackage = none → m = n

theorem Entity.className_mem_classes (h : e.role? batchPackage = some r) :
    r.className ∈ e.classes := by
  cases e with
  | configuration c p => cases h; exact List.mem_cons_self
  | component c s p => cases h; exact List.mem_cons_self
  | _ => cases h

namespace Node

theorem stereotype_take_of_outdoes {n : Node} (h : r.stereotype.Outdoes n) :
    (n.take r).stereotype = some r.stereotype := by
  cases hn : n.stereotype with
  | none => simp [take, merge, hn]
  | some old => simp [take, merge, hn, Stereotype.best, h old hn]

theorem stereotype_take_of_not_outdoes {n : Node} (h : ¬ r.stereotype.Outdoes n) :
    (n.take r).stereotype = n.stereotype := by
  cases hn : n.stereotype with
  | none => exact absurd (fun old hold => nomatch hn.symm.trans hold) h
  | some old =>
    have hrank : ¬ r.stereotype.rank < old.rank := by
      intro hlt
      apply h
      intro t ht
      cases hn.symm.trans ht
      exact hlt
    simp [take, merge, hn, Stereotype.best, hrank]

theorem package_take {n : Node} (h : n.package ≠ none) : (n.take r).package = n.package := by
  obtain ⟨p, hp⟩ := Option.ne_none_iff_exists'.mp h
  simp [take, merge, hp]

theorem keptBy_self {n : Node} (h : ∀ r, e.role? batchPackage = some r → r.className ≠ n.name) :
    n.KeptBy e batchPackage n where
  name := rfl
  other _ := rfl
  raised r hr hname _ := absurd hname (h r hr)
  stereotype _ := rfl
  package _ := rfl
  related _ := rfl

theorem keptBy_take {n : Node} (hr : e.role? batchPackage = some r) (hname : r.className = n.name) :
    n.KeptBy e batchPackage (n.take r) where
  name := rfl
  other h := absurd (hname ▸ Entity.className_mem_classes hr) h
  raised q hq _ h := by
    cases hr.symm.trans hq
    exact stereotype_take_of_outdoes h
  stereotype h := stereotype_take_of_not_outdoes (h r hr hname)
  package := package_take
  related h := nomatch hr.symm.trans h

end Node

theorem gather_toList {α : Type} [DecidableEq α] (l : List α) (o : Option α) :
    ∃ new : Option α, gather l o.toList = l ++ new.toList ∧ ∀ a ∈ new, o = some a := by
  cases o with
  | none => exact ⟨none, (List.append_nil l).symm, fun _ h => nomatch h⟩
  | some a =>
    by_cases ha : a ∈ l
    · exact ⟨none, by simp [gather_cons, gather_nil, once_of_mem ha], fun _ h => nomatch h⟩
    · exact ⟨some a, once_of_notMem ha, fun _ h => h⟩

theorem Entity.edge?_eq_none_or (e : Entity) : e.edge? = none ∨ e.scan? = none := by
  cases e with
  | scan source package => exact .inl rfl
  | _ => exact .inr rfl

namespace Graph

variable {g : Graph}

theorem Valid.nodes_eq (hg : g.Valid) : g.nodes = g.names.map g.lookup := by
  rw [nodes, hg.table_eq, List.map_map]
  exact List.map_congr_left (fun _ _ => rfl)

theorem Valid.getElem?_names (hg : g.Valid) {i : Nat} {n : Node} (h : g.nodes[i]? = some n) :
    g.names[i]? = some n.name ∧ g.lookup n.name = n := by
  have hname : g.names[i]? = some n.name := by
    rw [← hg.map_name_nodes, List.getElem?_map, h]
    rfl
  rw [hg.nodes_eq, List.getElem?_map, hname] at h
  exact ⟨hname, Option.some.inj h⟩

theorem lookup_apply_keptBy {n : Node} (h : g.lookup n.name = n) :
    n.KeptBy e batchPackage ((g.apply batchPackage e).lookup n.name) := by
  rw [apply, lookup_change, Entity.roles_change_eq, h]
  cases hr : e.role? batchPackage with
  | none => exact n.keptBy_self (fun r hr' => nomatch hr.symm.trans hr')
  | some r =>
    by_cases hname : r.className = n.name
    · simpa [hname] using n.keptBy_take hr hname
    · simpa [hname] using n.keptBy_self (fun q hq => by cases hr.symm.trans hq; exact hname)

theorem Valid.apply (hg : g.Valid) (batchPackage : String) (e : Entity) :
    (g.apply batchPackage e).Valid := hg.change _

theorem names_apply (g : Graph) (batchPackage : String) (e : Entity) :
    (g.apply batchPackage e).names = gather g.names e.classes := by
  rw [apply, names_change, e.mentions_change]

theorem nodes_apply_keptBy (hg : g.Valid) {i : Nat} {n : Node} (hn : g.nodes[i]? = some n) :
    ∃ m, (g.apply batchPackage e).nodes[i]? = some m ∧ n.KeptBy e batchPackage m := by
  obtain ⟨hname, hlookup⟩ := hg.getElem?_names hn
  have hplace : (g.apply batchPackage e).names[i]? = some n.name := by
    obtain ⟨hi, hget⟩ := List.getElem?_eq_some_iff.mp hname
    have hprefix : g.names <+: (g.apply batchPackage e).names := (Extends.change g _).names
    rw [List.prefix_iff_getElem?.mp hprefix i hi, hget]
  refine ⟨(g.apply batchPackage e).lookup n.name, ?_, lookup_apply_keptBy hlookup⟩
  rw [(hg.apply batchPackage e).nodes_eq, List.getElem?_map, hplace]
  rfl

theorem mem_classes_of_mem_drop (hg : g.Valid) {m : Node}
    (hm : m ∈ (g.apply batchPackage e).nodes.drop g.nodes.length) : m.name ∈ e.classes := by
  have hlength : g.nodes.length = g.names.length := by rw [hg.nodes_eq, List.length_map]
  have hname : m.name ∈ (g.apply batchPackage e).names.drop g.names.length := by
    rw [← (hg.apply batchPackage e).map_name_nodes, ← List.map_drop, ← hlength]
    exact List.mem_map_of_mem hm
  rw [names_apply, gather_eq_append, List.drop_left, List.mem_eraseDups] at hname
  exact (List.mem_filter.mp hname).1

/-- An entity only adds to a graph and only upgrades in it. All nodes, edges and scans keep their
places, nodes of other classes are the same, and a node that is told a stereotype takes it over if it
is more specific, and a package if none is known. One edge or one scan at most is new. -/
theorem apply_keeps (hg : g.Valid) (e : Entity) (batchPackage : String) :
    let h := g.apply batchPackage e
    h.Valid ∧
      (∀ (i : Nat) (n : Node), g.nodes[i]? = some n →
        ∃ m, h.nodes[i]? = some m ∧ n.KeptBy e batchPackage m) ∧
      (∀ m ∈ h.nodes.drop g.nodes.length, m.name ∈ e.classes) ∧
      ∃ edge scan, h.edges = g.edges ++ edge.toList ∧ h.scans = g.scans ++ scan.toList ∧
        (edge = none ∨ scan = none) ∧ (∀ d ∈ edge, e.edge? = some d) ∧
        (∀ s ∈ scan, e.scan? = some s) := by
  obtain ⟨edge, hedges, hedge⟩ := gather_toList g.edges e.edge?
  obtain ⟨scan, hscans, hscan⟩ := gather_toList g.scans e.scan?
  rw [← e.edges_change_eq batchPackage, ← edges_change hg] at hedges
  rw [← e.scans_change_eq batchPackage, ← scans_change] at hscans
  have hone : edge = none ∨ scan = none := by
    rcases e.edge?_eq_none_or with hnone | hnone
    · exact .inl (Option.eq_none_iff_forall_not_mem.mpr (fun d hd => nomatch hnone ▸ hedge d hd))
    · exact .inr (Option.eq_none_iff_forall_not_mem.mpr (fun s hs => nomatch hnone ▸ hscan s hs))
  exact ⟨hg.apply batchPackage e, fun i n => nodes_apply_keptBy hg,
    fun m => mem_classes_of_mem_drop hg, edge, scan, hedges, hscans, hone, hedge, hscan⟩

theorem apply_keeps_service :
    let edge : Edge := ⟨"Jobs", "Clock", .autowired, "@Autowired"⟩
    let jobs : Node := ⟨"Jobs", some .component, some "p"⟩
    let table : NodeTable := [("Clock", .placeholder "Clock"), ("Jobs", jobs)]
    let g : Graph := ⟨table, [edge], ⟨[edge]⟩, [⟨"Jobs", "p"⟩]⟩
    let h := g.apply "" (.component "Jobs" .service "q")
    g.Valid ∧ g.nodes[0]? = some (.placeholder "Clock") ∧ g.nodes[1]? = some jobs ∧ h.Valid ∧
      h.nodes[0]? = some (.placeholder "Clock") ∧
      (∃ m, h.nodes[1]? = some m ∧ m.stereotype = some .service ∧ m.package = some "p") ∧
      [edge] <+: h.edges := by
  intro edge jobs table g h
  have hg : g.Valid :=
    ⟨by decide, by decide, by decide, by decide, fun _ => Iff.rfl, by decide⟩
  obtain ⟨hvalid, hnodes, -, new, -, hedges, -⟩ :=
    apply_keeps hg (.component "Jobs" .service "q") ""
  obtain ⟨clock, hclock, hkept⟩ := hnodes 0 (.placeholder "Clock") rfl
  obtain ⟨m, hm, hraised⟩ := hnodes 1 jobs rfl
  have hout : Stereotype.service.Outdoes jobs := by
    rintro old ⟨⟩
    decide
  refine ⟨hg, rfl, rfl, hvalid, ?_, ⟨m, hm, ?_, ?_⟩, new.toList, hedges.symm⟩
  · rw [← hkept.other (by decide)]
    exact hclock
  · exact hraised.raised ⟨"Jobs", .service, "q"⟩ (by decide) rfl hout
  · exact hraised.package (by decide)

end Graph

end Wiring
