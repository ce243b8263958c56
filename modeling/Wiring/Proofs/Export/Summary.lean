import Wiring.Proofs.Counts
import Wiring.Proofs.Export.Rows
import Wiring.Proofs.Graph.Validity

namespace Wiring

structure Statistics.Consistent (s : Statistics) (names : List String) : Prop where
  tags_sum : (s.tags.map (·.2)).sum = s.nodes
  kinds_sum : (s.kinds.map (·.2)).sum = s.edges
  tags_nodup : (s.tags.map (·.1)).Nodup
  kinds_nodup : (s.kinds.map (·.1)).Nodup
  tags_pos : ∀ p ∈ s.tags, 0 < p.2
  kinds_pos : ∀ p ∈ s.kinds, 0 < p.2
  unresolved_count : s.tags.get "unresolved" = s.unresolved.length
  unresolved_sublist : s.unresolved.Sublist names
  uncovered_sublist : s.uncovered.Sublist names
  unresolved_nodup : s.unresolved.Nodup
  uncovered_nodup : s.uncovered.Nodup
  disjoint : s.unresolved.Disjoint s.uncovered

def NodeRow.isUncovered (edges : List EdgeRow) (scans : List Scan) (r : NodeRow) : Bool :=
  r.tag != "unresolved" && !scans.any (fun s => s.source == r.name) &&
    !edges.any (fun e => e.kind == "import" && e.target == r.name) &&
    r.package.any (fun p => !scans.any (fun s => Text.liesUnder p s.package))

def Statistics.ofRows (nodes : List NodeRow) (edges : List EdgeRow) (scans : List Scan) :
    Statistics where
  nodes := nodes.length
  edges := edges.length
  tags := Counts.tally (nodes.map (·.tag))
  kinds := Counts.tally (edges.map (·.kind))
  unresolved := (nodes.filter (fun r => r.tag == "unresolved")).map (·.name)
  scans := scans.length
  uncovered :=
    if scans = [] then [] else (nodes.filter (NodeRow.isUncovered edges scans)).map (·.name)

def statistics? (j : Json) : Option Statistics := do
  let nodes ← j.rows? "nodes" nodeRow?
  let edges ← j.rows? "edges" edgeRow?
  let scans ← j.rows? "component_scans" scanRow?
  return .ofRows nodes edges scans

namespace Graph

variable {g : Graph}

theorem isImported_rows (g : Graph) (name : String) :
    (g.edges.map Edge.row).any (fun e => e.kind == "import" && e.target == name) =
      g.edges.any (fun e => e.kind == .classImport && e.target == name) := by
  have hkind : ∀ e : Edge, (e.kind.name == "import") = (e.kind == .classImport) := by
    intro e
    cases e.kind <;> decide
  rw [List.any_map]
  congr 1
  funext e
  exact congrArg (· && e.target == name) (hkind e)

theorem isUncovered_row (g : Graph) (n : Node) :
    n.row.isUncovered (g.edges.map Edge.row) g.scans =
      (!n.isPlaceholder && n.package.isSome && !g.isRegistered n.name &&
        !g.scans.any (fun s => n.isUnder s.package)) := by
  have htag : (n.row.tag != "unresolved") = !n.isPlaceholder := by
    rw [dashed_iff_unresolved]
    rfl
  have hname : n.row.name = n.name := rfl
  have hpackage : n.row.package = n.package := rfl
  rw [NodeRow.isUncovered, htag, hname, hpackage, isImported_rows, isRegistered]
  cases hplace : n.isPlaceholder with
  | true => rfl
  | false =>
    cases hp : n.package with
    | none => simp
    | some p => simp [Node.isUnder, hplace, hp]

theorem uncovered_eq (g : Graph) : g.uncovered = if g.scans = [] then [] else
    g.nodes.filter (fun n => n.row.isUncovered (g.edges.map Edge.row) g.scans) := by
  simp only [uncovered, isUncovered_row, List.isEmpty_iff]

theorem statistics?_toJson (g : Graph) : statistics? g.toJson = some g.statistics := by
  have htag : (fun r : NodeRow => r.tag == "unresolved") ∘ Node.row = Node.isPlaceholder :=
    funext (fun n => (dashed_iff_unresolved n).symm)
  have hunresolved : ((g.nodes.map Node.row).filter (fun r => r.tag == "unresolved")).map (·.name) =
      g.placeholders.map (·.name) := by
    rw [List.filter_map, htag, List.map_map]
    rfl
  have huncovered : (if g.scans = [] then [] else
      ((g.nodes.map Node.row).filter (NodeRow.isUncovered (g.edges.map Edge.row) g.scans)).map
        (·.name)) = g.uncovered.map (·.name) := by
    rw [uncovered_eq, List.filter_map, List.map_map]
    split <;> rfl
  rw [statistics?, g.rows?_nodes, g.rows?_edges, g.rows?_scans]
  simp only [Option.bind_eq_bind, Option.bind_some, Statistics.ofRows, hunresolved, huncovered,
    List.length_map, List.map_map, ← Counts.ofNames_eq]
  rfl

theorem count_unresolved (nodes : List Node) :
    (nodes.map Node.tag).count "unresolved" = (nodes.filter Node.isPlaceholder).length := by
  rw [List.count, List.countP_map, ← List.countP_eq_length_filter]
  congr 1
  funext n
  exact (dashed_iff_unresolved n).symm

theorem placeholders_sublist (g : Graph) : g.placeholders.Sublist g.nodes := List.filter_sublist

theorem uncovered_sublist (g : Graph) : g.uncovered.Sublist g.nodes := by
  unfold uncovered
  split
  · exact List.nil_sublist _
  · exact List.filter_sublist

theorem disjoint_unresolved (hg : g.Valid) :
    (g.placeholders.map (·.name)).Disjoint (g.uncovered.map (·.name)) := by
  intro name hplaceholder huncovered
  obtain ⟨n, hn, rfl⟩ := List.mem_map.mp hplaceholder
  obtain ⟨m, hm, he⟩ := List.mem_map.mp huncovered
  obtain ⟨hnode, hplace⟩ := List.mem_filter.mp hn
  have hnames : (g.nodes.map (·.name)).Nodup := hg.map_name_nodes ▸ hg.names_nodup
  have hmn : m = n := List.inj_on_of_nodup_map hnames (g.uncovered_sublist.subset hm) hnode he
  subst hmn
  rw [uncovered] at hm
  split at hm
  · cases hm
  · have hstereotype := (List.mem_filter.mp hm).2
    rw [hplace] at hstereotype
    cases hstereotype

theorem statistics_consistent (hg : g.Valid) : g.statistics.Consistent g.names := by
  have hplaceholders : (g.placeholders.map (·.name)).Sublist g.names := by
    rw [← hg.map_name_nodes]
    exact g.placeholders_sublist.map _
  have huncovered : (g.uncovered.map (·.name)).Sublist g.names := by
    rw [← hg.map_name_nodes]
    exact g.uncovered_sublist.map _
  constructor
  · exact (Counts.sum_ofNames _).trans (List.length_map _)
  · exact (Counts.sum_ofNames _).trans (List.length_map _)
  · exact Counts.nodup_keys_ofNames _
  · exact Counts.nodup_keys_ofNames _
  · exact fun _ => Counts.pos_of_mem_ofNames
  · exact fun _ => Counts.pos_of_mem_ofNames
  · rw [statistics, Counts.get_ofNames, count_unresolved, List.length_map]
    rfl
  · exact hplaceholders
  · exact huncovered
  · exact hplaceholders.nodup hg.names_nodup
  · exact huncovered.nodup hg.names_nodup
  · exact disjoint_unresolved hg

/-- Whatever was done to a graph, the figures of its statistics agree with each other and with its
names, and the statistics can be made from its JSON document alone. -/
theorem statistics_run (ops : List Operation) :
    let g := empty.run ops
    g.statistics.Consistent g.names ∧ statistics? g.toJson = some g.statistics :=
  ⟨statistics_consistent (valid_empty.run ops), statistics?_toJson _⟩

end Graph

end Wiring
