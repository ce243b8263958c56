import Wiring.Dot
import Wiring.Page
import Wiring.Proofs.Export.Rows
import Wiring.Proofs.Graph.Validity

namespace Wiring

def stereotypeOfTag? (tag : String) : Option (Option Stereotype) :=
  if tag = "unresolved" then some none
  else (Stereotype.all.find? (fun s => s.label == tag)).map some

def NodeRow.operations? (r : NodeRow) : Option (List Operation) := do
  let s ← stereotypeOfTag? r.tag
  return [.ensure r.name, .setStereotype r.name s, .setPackage r.name r.package]

def EdgeRow.operation? (r : EdgeRow) : Option Operation := do
  let kind ← EdgeKind.ofName? r.kind
  return .addEdge ⟨r.source, r.target, kind, r.label⟩

def operations? (j : Json) : Option (List Operation) := do
  let nodes ← j.rows? "nodes" nodeRow?
  let edges ← j.rows? "edges" edgeRow?
  let scans ← j.rows? "component_scans" scanRow?
  let describe ← nodes.mapM NodeRow.operations?
  let join ← edges.mapM EdgeRow.operation?
  return describe.flatten ++ join ++ scans.map .addScan

def replay? (j : Json) : Option Graph := (operations? j).map Graph.empty.run

def Node.operations (n : Node) : List Operation :=
  [.ensure n.name, .setStereotype n.name n.stereotype, .setPackage n.name n.package]

theorem stereotypeOfTag?_tag (n : Node) : stereotypeOfTag? n.tag = some n.stereotype := by
  have hlabel : ∀ s : Stereotype, stereotypeOfTag? s.label = some (some s) := by
    intro s
    cases s <;> decide
  unfold Node.tag
  cases n.stereotype with
  | none => rfl
  | some s => exact hlabel s

theorem operations?_nodeRow (n : Node) : n.row.operations? = some n.operations := by
  rw [NodeRow.operations?, Node.row, stereotypeOfTag?_tag]
  rfl

theorem operation?_edgeRow (e : Edge) : e.row.operation? = some (.addEdge e) := by
  have hkind : EdgeKind.ofName? e.kind.name = some e.kind := by cases e.kind <;> decide
  rw [EdgeRow.operation?, Edge.row, hkind]
  rfl

theorem operations?_toJson (g : Graph) : operations? g.toJson =
    some (g.nodes.flatMap Node.operations ++ g.edges.map .addEdge ++ g.scans.map .addScan) := by
  rw [operations?, g.rows?_nodes, g.rows?_edges, g.rows?_scans]
  simp only [Option.bind_eq_bind, Option.bind_some, mapM_map_eq_some operations?_nodeRow,
    mapM_map_eq_some operation?_edgeRow]
  rw [List.flatMap]
  rfl

namespace Graph

variable {g : Graph}

def KnownLast (g : Graph) : Prop := g.known.members = g.edges.reverse

theorem knownLast_empty : empty.KnownLast := rfl

theorem KnownLast.ensure (h : g.KnownLast) (name : String) : (g.ensure name).KnownLast := by
  rw [KnownLast, known_ensure, edges_ensure]
  exact h

theorem KnownLast.addEdge (h : g.KnownLast) (e : Edge) : (g.addEdge e).KnownLast := by
  rw [KnownLast, known_addEdge, edges_addEdge]
  split
  · exact h
  · rw [EdgeSet.insert, List.reverse_concat, h]

theorem KnownLast.addScan (h : g.KnownLast) (s : Scan) : (g.addScan s).KnownLast := by
  rw [KnownLast, known_addScan, edges_addScan]
  exact h

theorem KnownLast.change (h : g.KnownLast) (c : Change) : (g.change c).KnownLast := by
  cases c with
  | role r => exact h.ensure r.className
  | edge e => exact h.addEdge e
  | scan s => exact (h.ensure s.source).addScan s

theorem KnownLast.step (h : g.KnownLast) (op : Operation) : (g.step op).1.KnownLast := by
  cases op with
  | ensure name => exact h.ensure name
  | setStereotype name s => exact h.ensure name
  | setPackage name p => exact h.ensure name
  | addEdge e => exact h.addEdge e
  | addScan s => exact h.addScan s
  | offer batchPackage o =>
    cases o with
    | entity e => exact h.change _
    | foreign v => exact h

theorem KnownLast.run (h : g.KnownLast) (ops : List Operation) : (g.run ops).KnownLast := by
  induction ops generalizing g with
  | nil => exact h
  | cons op ops ih => exact ih (h.step op)

theorem run_cons (g : Graph) (op : Operation) (ops : List Operation) :
    g.run (op :: ops) = (g.step op).1.run ops := rfl

def push (g : Graph) (n : Node) : Graph := { g with table := g.table ++ [(n.name, n)] }

theorem names_push (g : Graph) (n : Node) : (g.push n).names = g.names ++ [n.name] := by
  simp [push, names, NodeTable.keys]

theorem ensure_new {name : String} (h : name ∉ g.names) :
    g.ensure name = g.push (.placeholder name) := if_neg (by simpa using h)

theorem update_push {n : Node} {f : Node → Node} (h : n.name ∉ g.names)
    (hf : (f n).name = n.name) :
    ((g.push n).ensure n.name).update n.name f = g.push (f n) := by
  have hensure : (g.push n).ensure n.name = g.push n := by
    apply ensure_eq_of_mem
    rw [names_push]
    exact List.mem_append_right _ List.mem_cons_self
  have hold : g.table.modify n.name f = g.table := by
    have hentry : ∀ p ∈ g.table, (if p.1 = n.name then (p.1, f p.2) else p) = p := by
      intro p hp
      rw [if_neg]
      intro he
      exact h (List.mem_map.mpr ⟨p, hp, he⟩)
    exact (List.map_congr_left hentry).trans (List.map_id _)
  have hall : (g.push n).table.modify n.name f = g.table ++ [(n.name, f n)] := by
    rw [push, NodeTable.modify, List.map_append]
    exact congrArg₂ _ hold (by simp)
  rw [hensure, update, hall, push, push, hf]

theorem run_node {n : Node} (h : n.name ∉ g.names) : g.run n.operations = g.push n := by
  have hstereotype : (g.ensure n.name).setStereotype n.name n.stereotype =
      g.push ⟨n.name, n.stereotype, none⟩ := by
    rw [ensure_new h]
    exact update_push (n := .placeholder n.name) h rfl
  have hpackage : (g.push ⟨n.name, n.stereotype, none⟩).setPackage n.name n.package = g.push n :=
    update_push (n := ⟨n.name, n.stereotype, none⟩) h rfl
  rw [← hpackage, ← hstereotype]
  rfl

theorem run_nodes {nodes : List Node} (hnew : ∀ n ∈ nodes, n.name ∉ g.names)
    (hnodup : (nodes.map (·.name)).Nodup) :
    g.run (nodes.flatMap Node.operations) =
      { g with table := g.table ++ nodes.map (fun n => (n.name, n)) } := by
  induction nodes generalizing g with
  | nil => simp [run]
  | cons n nodes ih =>
    obtain ⟨hn, hrest⟩ := List.forall_mem_cons.mp hnew
    obtain ⟨hnotMem, hnodup⟩ := List.nodup_cons.mp hnodup
    rw [List.flatMap_cons, run_append, run_node hn, ih _ hnodup]
    · simp [push]
    · intro m hm hmem
      rw [names_push] at hmem
      rcases List.mem_append.mp hmem with hold | hlast
      · exact hrest m hm hold
      · exact hnotMem (List.mem_map.mpr ⟨m, hm, List.mem_singleton.mp hlast⟩)

theorem addEdge_new {e : Edge} (hsource : e.source ∈ g.names) (htarget : e.target ∈ g.names)
    (h : e ∉ g.known) :
    g.addEdge e = { g with edges := g.edges ++ [e], known := g.known.insert e } := by
  have hends : (g.ensure e.source).ensure e.target = g := by
    rw [ensure_eq_of_mem hsource, ensure_eq_of_mem htarget]
  rw [addEdge, hends]
  exact if_neg (mt EdgeSet.contains_iff.mp h)

theorem run_edges {edges : List Edge}
    (hends : ∀ e ∈ edges, e.source ∈ g.names ∧ e.target ∈ g.names)
    (hnew : ∀ e ∈ edges, e ∉ g.known) (hnodup : edges.Nodup) :
    g.run (edges.map .addEdge) =
      { g with edges := g.edges ++ edges, known := ⟨edges.reverse ++ g.known.members⟩ } := by
  induction edges generalizing g with
  | nil => simp [run]
  | cons e edges ih =>
    obtain ⟨⟨hsource, htarget⟩, hends⟩ := List.forall_mem_cons.mp hends
    obtain ⟨he, hrest⟩ := List.forall_mem_cons.mp hnew
    obtain ⟨hnotMem, hnodup⟩ := List.nodup_cons.mp hnodup
    have hstep : (g.step (.addEdge e)).1 = _ := addEdge_new hsource htarget he
    rw [List.map_cons, run_cons, hstep, ih _ _ hnodup]
    · simp [EdgeSet.insert]
    · exact hends
    · intro d hd hmem
      rcases EdgeSet.mem_insert.mp hmem with rfl | hold
      · exact hnotMem hd
      · exact hrest d hd hold

theorem run_scans {scans : List Scan} (hnew : ∀ s ∈ scans, s ∉ g.scans) (hnodup : scans.Nodup) :
    g.run (scans.map .addScan) = { g with scans := g.scans ++ scans } := by
  induction scans generalizing g with
  | nil => simp [run]
  | cons s scans ih =>
    obtain ⟨hs, hrest⟩ := List.forall_mem_cons.mp hnew
    obtain ⟨hnotMem, hnodup⟩ := List.nodup_cons.mp hnodup
    have hstep : (g.step (.addScan s)).1 = { g with scans := g.scans ++ [s] } :=
      if_neg (by simpa using hs)
    rw [List.map_cons, run_cons, hstep, ih _ hnodup]
    · simp
    · intro t ht hmem
      rcases List.mem_append.mp hmem with hold | hlast
      · exact hrest t ht hold
      · exact hnotMem (List.mem_singleton.mp hlast ▸ ht)

theorem Valid.table_eq_map_nodes (hg : g.Valid) : g.table = g.nodes.map (fun n => (n.name, n)) := by
  have hentry : ∀ p ∈ g.table, (p.2.name, p.2) = p := by
    intro p hp
    rw [← hg.key_name p hp]
  rw [nodes, List.map_map]
  exact ((List.map_congr_left hentry).trans (List.map_id _)).symm

theorem replay?_toJson (hg : g.Valid) (hlast : g.KnownLast) : replay? g.toJson = some g := by
  have hnodes : empty.run (g.nodes.flatMap Node.operations) = ⟨g.table, [], .empty, []⟩ := by
    rw [run_nodes, hg.table_eq_map_nodes]
    · rfl
    · exact fun _ _ => List.not_mem_nil
    · rw [hg.map_name_nodes]
      exact hg.names_nodup
  have hedges : Graph.run ⟨g.table, [], .empty, []⟩ (g.edges.map .addEdge) =
      ⟨g.table, g.edges, g.known, []⟩ := by
    have hknown : g.known = ⟨g.edges.reverse⟩ := congrArg EdgeSet.mk hlast
    have hrun := run_edges (g := ⟨g.table, [], .empty, []⟩) hg.ends
      (fun e _ => EdgeSet.notMem_empty e) hg.edges_nodup
    rw [hrun, hknown]
    simp [EdgeSet.empty]
  have hscans : Graph.run ⟨g.table, g.edges, g.known, []⟩ (g.scans.map .addScan) = g :=
    run_scans (fun _ _ => List.not_mem_nil) hg.scans_nodup
  rw [replay?, operations?_toJson, Option.map_some, run_append, run_append, hnodes, hedges, hscans]

/-- Whatever was done to a graph, replaying its JSON document makes the same graph: its nodes with
all their fields, its edges and its scans, each in their order. So graphs with the same document are
the same, and so are their DOT documents, their pages and their statistics. -/
theorem replay_run (ops : List Operation) :
    let g := empty.run ops
    replay? g.toJson = some g ∧
      ∀ others, (empty.run others).toJson = g.toJson →
        empty.run others = g ∧ (∀ c, Dot.render c (empty.run others) = Dot.render c g) ∧
          (empty.run others).toPage = g.toPage ∧
          (empty.run others).statistics = g.statistics := by
  have hreplay : ∀ ops, replay? (empty.run ops).toJson = some (empty.run ops) := fun ops =>
    replay?_toJson (valid_empty.run ops) (knownLast_empty.run ops)
  intro g
  refine ⟨hreplay ops, ?_⟩
  intro others h
  have hsame : empty.run others = g := by
    have hother := hreplay others
    rw [h, hreplay ops] at hother
    exact (Option.some.inj hother).symm
  rw [hsame]
  exact ⟨rfl, fun _ => rfl, rfl, rfl⟩

theorem replay_run_repeated :
    let bean : Edge := ⟨"Jobs", "Clock", .bean, "@Bean"⟩
    let ops : List Operation :=
      [.ensure "Jobs", .addEdge bean, .setStereotype "Jobs" (some .configuration),
        .setPackage "Jobs" (some "p"), .addScan ⟨"Jobs", "p"⟩]
    let others : List Operation :=
      [.addEdge bean, .setPackage "Jobs" (some "q"), .offer "p" (.entity (.scan "Jobs" "p")),
        .setStereotype "Jobs" (some .configuration), .addEdge bean, .setPackage "Jobs" (some "p")]
    (empty.run others).toJson = (empty.run ops).toJson ∧
      replay? (empty.run ops).toJson = some (empty.run ops) ∧
      empty.run others = empty.run ops ∧
      Dot.render .full (empty.run others) = Dot.render .full (empty.run ops) := by
  intro bean ops others
  have hnodes : (empty.run others).nodes = (empty.run ops).nodes := by decide +kernel
  have hedges : (empty.run others).edges = (empty.run ops).edges := by decide +kernel
  have hscans : (empty.run others).scans = (empty.run ops).scans := by decide +kernel
  have hjson : (empty.run others).toJson = (empty.run ops).toJson := by
    rw [toJson, toJson, hnodes, hedges, hscans]
  obtain ⟨hreplay, hsame⟩ := replay_run ops
  obtain ⟨hgraph, hdot, _, _⟩ := hsame others hjson
  exact ⟨hjson, hreplay, hgraph, hdot .full⟩

end Graph

end Wiring
