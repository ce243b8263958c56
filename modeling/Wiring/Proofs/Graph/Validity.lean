import Wiring.Proofs.Graph.Effect

namespace Wiring.Graph

structure Valid (g : Graph) : Prop where
  key_name : ∀ p ∈ g.table, p.1 = p.2.name
  names_nodup : g.names.Nodup
  ends : ∀ e ∈ g.edges, e.source ∈ g.names ∧ e.target ∈ g.names
  edges_nodup : g.edges.Nodup
  known_iff : ∀ e, e ∈ g.known ↔ e ∈ g.edges
  scans_nodup : g.scans.Nodup

structure Extends (g h : Graph) : Prop where
  names : g.names <+: h.names
  edges : g.edges <+: h.edges
  scans : g.scans <+: h.scans

variable {g h k : Graph}

theorem Extends.refl (g : Graph) : g.Extends g :=
  ⟨List.prefix_refl _, List.prefix_refl _, List.prefix_refl _⟩

theorem Extends.trans (hg : g.Extends h) (hh : h.Extends k) : g.Extends k :=
  ⟨hg.names.trans hh.names, hg.edges.trans hh.edges, hg.scans.trans hh.scans⟩

theorem Extends.ensure (g : Graph) (name : String) : g.Extends (g.ensure name) where
  names := by rw [names_ensure]; exact prefix_once _ _
  edges := prefix_of_eq (edges_ensure g name).symm
  scans := prefix_of_eq (scans_ensure g name).symm

theorem Extends.update (g : Graph) (name : String) (f : Node → Node) :
    g.Extends (g.update name f) where
  names := prefix_of_eq (names_update g name f).symm
  edges := List.prefix_refl _
  scans := List.prefix_refl _

theorem Extends.addEdge (g : Graph) (e : Edge) : g.Extends (g.addEdge e) where
  names := by rw [names_addEdge]; exact prefix_gather _ _
  edges := by
    rw [edges_addEdge]
    split
    · exact List.prefix_refl _
    · exact List.prefix_append _ _
  scans := prefix_of_eq (scans_addEdge g e).symm

theorem Extends.addScan (g : Graph) (s : Scan) : g.Extends (g.addScan s) where
  names := prefix_of_eq (names_addScan g s).symm
  edges := prefix_of_eq (edges_addScan g s).symm
  scans := by rw [scans_addScan]; exact prefix_once _ _

theorem Extends.change (g : Graph) (c : Change) : g.Extends (g.change c) := by
  cases c with
  | role r => exact (Extends.ensure g _).trans (.update _ _ _)
  | edge e => exact .addEdge g e
  | scan s => exact (Extends.ensure g _).trans (.addScan _ s)

theorem Extends.step (g : Graph) (op : Operation) : g.Extends (g.step op).1 := by
  cases op with
  | ensure name => exact .ensure g name
  | setStereotype name s => exact (Extends.ensure g name).trans (.update _ _ _)
  | setPackage name p => exact (Extends.ensure g name).trans (.update _ _ _)
  | addEdge e => exact .addEdge g e
  | addScan s => exact .addScan g s
  | offer batchPackage o =>
    cases o with
    | entity e => exact .change g _
    | foreign v => exact .refl g

theorem Extends.run (g : Graph) (ops : List Operation) : g.Extends (g.run ops) := by
  induction ops generalizing g with
  | nil => exact .refl g
  | cons op ops ih => exact (Extends.step g op).trans (ih _)

theorem valid_empty : empty.Valid where
  key_name := by intro p hp; cases hp
  names_nodup := List.nodup_nil
  ends := by intro e he; cases he
  edges_nodup := List.nodup_nil
  known_iff := by intro e; exact ⟨fun h => absurd h (EdgeSet.notMem_empty e), fun h => by cases h⟩
  scans_nodup := List.nodup_nil

theorem Valid.table_eq (hg : g.Valid) :
    g.table = g.names.map (fun name => (name, g.lookup name)) := by
  have hentry : ∀ p ∈ g.table, (p.1, g.lookup p.1) = p := by
    intro p hp
    have hget : g.node? p.1 = some p.2 := NodeTable.get?_of_mem hg.names_nodup hp
    simp [lookup, hget]
  rw [names, NodeTable.keys, List.map_map]
  exact ((List.map_congr_left hentry).trans (List.map_id _)).symm

theorem Valid.map_name_nodes (hg : g.Valid) : g.nodes.map (·.name) = g.names := by
  rw [nodes, List.map_map]
  exact List.map_congr_left (fun p hp => (hg.key_name p hp).symm)

theorem Valid.ends_mono (hg : g.Valid) (hn : g.names <+: h.names) :
    ∀ e ∈ g.edges, e.source ∈ h.names ∧ e.target ∈ h.names := by
  intro e he
  obtain ⟨hs, ht⟩ := hg.ends e he
  exact ⟨hn.subset hs, hn.subset ht⟩

theorem Valid.ensure (hg : g.Valid) (name : String) : (g.ensure name).Valid where
  key_name := by
    intro p hp
    unfold Graph.ensure at hp
    split at hp
    · exact hg.key_name p hp
    · rcases List.mem_append.mp hp with hp | hp
      · exact hg.key_name p hp
      · rw [List.mem_singleton.mp hp]; rfl
  names_nodup := by rw [names_ensure]; exact nodup_once hg.names_nodup
  ends := by rw [edges_ensure]; exact hg.ends_mono (Extends.ensure g name).names
  edges_nodup := by rw [edges_ensure]; exact hg.edges_nodup
  known_iff := by rw [edges_ensure, known_ensure]; exact hg.known_iff
  scans_nodup := by rw [scans_ensure]; exact hg.scans_nodup

theorem Valid.update (hg : g.Valid) (name : String) {f : Node → Node} (hf : ∀ n, (f n).name = n.name) :
    (g.update name f).Valid where
  key_name := by
    intro p hp
    obtain ⟨q, hq, rfl⟩ := List.mem_map.mp hp
    split
    · rw [hf]; exact hg.key_name q hq
    · exact hg.key_name q hq
  names_nodup := by rw [names_update]; exact hg.names_nodup
  ends := by rw [names_update]; exact hg.ends
  edges_nodup := hg.edges_nodup
  known_iff := hg.known_iff
  scans_nodup := hg.scans_nodup

theorem Valid.addEdge (hg : g.Valid) (e : Edge) : (g.addEdge e).Valid where
  key_name := by
    have ht : (g.addEdge e).table = ((g.ensure e.source).ensure e.target).table := by
      simp only [Graph.addEdge]; split <;> rfl
    rw [ht]; exact ((hg.ensure _).ensure _).key_name
  names_nodup := by rw [names_addEdge]; exact nodup_gather _ hg.names_nodup
  ends := by
    rw [edges_addEdge]
    have hold := hg.ends_mono (Extends.addEdge g e).names
    split
    · exact hold
    · intro d hd
      rcases List.mem_append.mp hd with hd | hd
      · exact hold d hd
      · rw [List.mem_singleton.mp hd, names_addEdge, mem_gather, mem_gather]
        exact ⟨.inr (by simp), .inr (by simp)⟩
  edges_nodup := by
    rw [edges_addEdge]
    split
    · exact hg.edges_nodup
    · next h =>
      rw [← List.concat_eq_append]
      exact hg.edges_nodup.concat (mt (hg.known_iff e).mpr h)
  known_iff := by
    intro d
    rw [edges_addEdge, known_addEdge]
    split
    · exact hg.known_iff d
    · rw [EdgeSet.mem_insert, List.mem_append, List.mem_singleton, hg.known_iff, or_comm]
  scans_nodup := by rw [scans_addEdge]; exact hg.scans_nodup

theorem Valid.addScan (hg : g.Valid) (s : Scan) : (g.addScan s).Valid where
  key_name := by rw [table_addScan]; exact hg.key_name
  names_nodup := by rw [names_addScan]; exact hg.names_nodup
  ends := by rw [edges_addScan, names_addScan]; exact hg.ends
  edges_nodup := by rw [edges_addScan]; exact hg.edges_nodup
  known_iff := by rw [edges_addScan, known_addScan]; exact hg.known_iff
  scans_nodup := by rw [scans_addScan]; exact nodup_once hg.scans_nodup

theorem Valid.change (hg : g.Valid) (c : Change) : (g.change c).Valid := by
  cases c with
  | role r => exact (hg.ensure _).update _ (fun _ => rfl)
  | edge e => exact hg.addEdge e
  | scan s => exact (hg.ensure _).addScan s

theorem Valid.step (hg : g.Valid) (op : Operation) : (g.step op).1.Valid := by
  cases op with
  | ensure name => exact hg.ensure name
  | setStereotype name s => exact (hg.ensure name).update _ (fun _ => rfl)
  | setPackage name p => exact (hg.ensure name).update _ (fun _ => rfl)
  | addEdge e => exact hg.addEdge e
  | addScan s => exact hg.addScan s
  | offer batchPackage o =>
    cases o with
    | entity e => exact hg.change _
    | foreign v => exact hg

theorem Valid.run (hg : g.Valid) (ops : List Operation) : (g.run ops).Valid := by
  induction ops generalizing g with
  | nil => exact hg
  | cons op ops ih => exact ih (hg.step op)

theorem step_refused (g : Graph) (op : Operation) : (g.step op).2 = none ∨ (g.step op).1 = g := by
  cases op with
  | offer batchPackage o =>
    cases o with
    | entity e => exact .inl rfl
    | foreign v => exact .inr rfl
  | _ => exact .inl rfl

theorem run_append (g : Graph) (earlier later : List Operation) :
    g.run (earlier ++ later) = (g.run earlier).run later := List.foldl_append

theorem run_valid_extends (earlier later : List Operation) :
    (empty.run (earlier ++ later)).Valid ∧
      (empty.run earlier).Extends (empty.run (earlier ++ later)) ∧
      ∀ op, ((empty.run earlier).step op).2 = none ∨
        ((empty.run earlier).step op).1 = empty.run earlier := by
  refine ⟨valid_empty.run _, ?_, step_refused _⟩
  rw [run_append]
  exact .run _ later

end Wiring.Graph
