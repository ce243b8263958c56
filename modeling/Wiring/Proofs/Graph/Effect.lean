import Wiring.Graph.Operation
import Wiring.Proofs.Once

namespace Wiring

namespace NodeTable

theorem keys_modify (t : NodeTable) (name : String) (f : Node → Node) :
    (t.modify name f).keys = t.keys := by
  simp only [keys, modify, List.map_map]
  apply List.map_congr_left
  intro p _
  by_cases h : p.1 = name <;> simp [h]

theorem get?_cons (p : String × Node) (t : NodeTable) (name : String) :
    get? (p :: t) name = if p.1 = name then some p.2 else t.get? name := by
  by_cases h : p.1 = name <;> simp [get?, h]

theorem get?_eq_none {t : NodeTable} {name : String} : t.get? name = none ↔ name ∉ t.keys := by
  simp only [get?, keys, Option.map_eq_none_iff, List.find?_eq_none, List.mem_map, not_exists,
    not_and, beq_iff_eq]

theorem get?_modify (t : NodeTable) (name : String) (f : Node → Node) (n : String) :
    (t.modify name f).get? n = if n = name then (t.get? n).map f else t.get? n := by
  induction t with
  | nil => by_cases h : n = name <;> simp [modify, get?, h]
  | cons p t ih =>
    have hm : modify (p :: t) name f =
        (if p.1 = name then (p.1, f p.2) else p) :: modify t name f := rfl
    rw [hm, get?_cons, get?_cons, ih]
    by_cases hp : p.1 = name
    · by_cases hn : n = name
      · simp [hp, hn]
      · simp [hp, hn, Ne.symm hn]
    · by_cases hn : n = name
      · simp [hp, hn]
      · by_cases hq : p.1 = n <;> simp [hp, hn]

theorem get?_append (t u : NodeTable) (name : String) :
    get? (t ++ u) name = (t.get? name).or (u.get? name) := by
  simp only [get?, List.find?_append]
  cases t.find? (fun p => p.1 == name) <;> rfl

theorem get?_of_mem {t : NodeTable} (h : t.keys.Nodup) {p : String × Node} (hp : p ∈ t) :
    t.get? p.1 = some p.2 := by
  induction t with
  | nil => cases hp
  | cons q t ih =>
    obtain ⟨hq, ht⟩ := List.nodup_cons.mp h
    rw [get?_cons]
    rcases List.mem_cons.mp hp with rfl | hp
    · rw [if_pos rfl]
    · have hne : q.1 ≠ p.1 := by
        intro he
        exact hq (List.mem_map.mpr ⟨p, hp, he.symm⟩)
      rw [if_neg hne]
      exact ih ht hp

end NodeTable

namespace Graph

section Views

variable (g : Graph) (name : String) (f : Node → Node)

theorem names_ensure : (g.ensure name).names = once g.names name := by
  unfold ensure
  by_cases h : name ∈ g.names
  · rw [if_pos (List.contains_iff_mem.mpr h), once_of_mem h]
  · rw [if_neg (by simpa using h), once_of_notMem h]
    simp [names, NodeTable.keys]

theorem edges_ensure : (g.ensure name).edges = g.edges := by
  unfold ensure; split <;> rfl

theorem known_ensure : (g.ensure name).known = g.known := by
  unfold ensure; split <;> rfl

theorem scans_ensure : (g.ensure name).scans = g.scans := by
  unfold ensure; split <;> rfl

theorem names_update : (g.update name f).names = g.names := g.table.keys_modify name f

theorem mem_names_ensure : name ∈ (g.ensure name).names := by
  rw [names_ensure, mem_once]; exact .inr rfl

theorem lookup_ensure (n : String) : (g.ensure name).lookup n = g.lookup n := by
  unfold ensure
  split
  · rfl
  · next h =>
    have hn : g.table.get? name = none :=
      NodeTable.get?_eq_none.mpr (mt List.contains_iff_mem.mpr h)
    simp only [lookup, node?, NodeTable.get?_append, NodeTable.get?_cons]
    by_cases he : name = n
    · subst he; simp [hn]
    · simp [he, NodeTable.get?]

theorem lookup_update (h : name ∈ g.names) (n : String) :
    (g.update name f).lookup n = if n = name then f (g.lookup n) else g.lookup n := by
  simp only [lookup, node?, update, NodeTable.get?_modify]
  by_cases hn : n = name
  · subst hn
    obtain ⟨m, hm⟩ := Option.ne_none_iff_exists'.mp (mt NodeTable.get?_eq_none.mp (not_not.mpr h))
    simp [hm]
  · simp [hn]

end Views

theorem ensure_eq_of_mem {g : Graph} {name : String} (h : name ∈ g.names) : g.ensure name = g :=
  if_pos (List.contains_iff_mem.mpr h)

theorem names_addEdge (g : Graph) (e : Edge) :
    (g.addEdge e).names = gather g.names [e.source, e.target] := by
  have h : (g.addEdge e).names = ((g.ensure e.source).ensure e.target).names := by
    simp only [addEdge]; split <;> rfl
  rw [h, names_ensure, names_ensure, gather_cons, gather_cons, gather_nil]

theorem lookup_addEdge (g : Graph) (e : Edge) (n : String) : (g.addEdge e).lookup n = g.lookup n := by
  have h : (g.addEdge e).lookup n = ((g.ensure e.source).ensure e.target).lookup n := by
    simp only [addEdge]; split <;> rfl
  rw [h, lookup_ensure, lookup_ensure]

theorem edges_addEdge (g : Graph) (e : Edge) :
    (g.addEdge e).edges = if e ∈ g.known then g.edges else g.edges ++ [e] := by
  simp only [addEdge, known_ensure]
  by_cases h : e ∈ g.known
  · rw [if_pos (EdgeSet.contains_iff.mpr h), if_pos h, edges_ensure, edges_ensure]
  · rw [if_neg (mt EdgeSet.contains_iff.mp h), if_neg h, edges_ensure, edges_ensure]

theorem known_addEdge (g : Graph) (e : Edge) :
    (g.addEdge e).known = if e ∈ g.known then g.known else g.known.insert e := by
  simp only [addEdge, known_ensure]
  by_cases h : e ∈ g.known
  · rw [if_pos (EdgeSet.contains_iff.mpr h), if_pos h, known_ensure, known_ensure]
  · rw [if_neg (mt EdgeSet.contains_iff.mp h), if_neg h]

theorem scans_addEdge (g : Graph) (e : Edge) : (g.addEdge e).scans = g.scans := by
  have h : (g.addEdge e).scans = ((g.ensure e.source).ensure e.target).scans := by
    simp only [addEdge]; split <;> rfl
  rw [h, scans_ensure, scans_ensure]

theorem scans_addScan (g : Graph) (s : Scan) : (g.addScan s).scans = once g.scans s := by
  unfold addScan
  by_cases h : s ∈ g.scans
  · rw [if_pos (List.contains_iff_mem.mpr h), once_of_mem h]
  · rw [if_neg (by simpa using h), once_of_notMem h]

theorem table_addScan (g : Graph) (s : Scan) : (g.addScan s).table = g.table := by
  unfold addScan; split <;> rfl

theorem names_addScan (g : Graph) (s : Scan) : (g.addScan s).names = g.names := by
  rw [names, table_addScan, names]

theorem edges_addScan (g : Graph) (s : Scan) : (g.addScan s).edges = g.edges := by
  unfold addScan; split <;> rfl

theorem known_addScan (g : Graph) (s : Scan) : (g.addScan s).known = g.known := by
  unfold addScan; split <;> rfl

theorem names_addRole (g : Graph) (r : Role) : (g.addRole r).names = once g.names r.className := by
  rw [addRole, names_update, names_ensure]

theorem lookup_addRole (g : Graph) (r : Role) (n : String) :
    (g.addRole r).lookup n =
      if n = r.className then (g.lookup n).merge r.stereotype r.package else g.lookup n := by
  rw [addRole, lookup_update _ _ _ (mem_names_ensure g r.className), lookup_ensure]

end Graph

end Wiring
