import Wiring.Export
import Wiring.Proofs.Dot.Sections
import Wiring.Proofs.Export.Rows
import Wiring.Proofs.Graph.Validity

/-!
The page, the DOT document and the JSON document of a graph show the same nodes and relations.
-/

namespace Wiring

structure NodeView where
  name : String
  color : String
  dashed : Bool
  deriving DecidableEq, Repr

structure EdgeView where
  source : String
  target : String
  label : String
  deriving DecidableEq, Repr

def PageNode.view (n : PageNode) : NodeView := ⟨n.label, n.color, n.dashed⟩

def PageEdge.view (e : PageEdge) : EdgeView := ⟨e.source, e.target, e.label⟩

def EdgeRow.view (r : EdgeRow) : EdgeView := ⟨r.source, r.target, r.label⟩

namespace Dot

def nodeView? : Line → Option NodeView
  | .node id text => do
    let as ← attributesOf? text
    let color ← as.lookup "fillcolor"
    let style ← as.lookup "style"
    return ⟨id, color, (style.toList.splitOn ',').contains "dashed".toList⟩
  | _ => none

def edgeView? : Line → Option EdgeView
  | .edge source target text => do
    let as ← attributesOf? text
    let label ← as.lookup "label"
    return ⟨source, target, label⟩
  | _ => none

theorem nodeView?_nodeLine (n : Node) : nodeView? (nodeLine n) = some n.toPage.view := by
  have has := attributesOf?_of_writes (writes_style (quote_color n) n.isPlaceholder)
  have hfilled : ("filled".toList.splitOn ',').contains "dashed".toList = false := by decide
  have hdashed : ("filled,dashed".toList.splitOn ',').contains "dashed".toList = true := by decide
  rw [nodeLine, nodeView?, has, PageNode.view, Node.toPage]
  cases n.isPlaceholder with
  | false => exact congrArg (fun dashed => some (NodeView.mk n.name n.color dashed)) hfilled
  | true => exact congrArg (fun dashed => some (NodeView.mk n.name n.color dashed)) hdashed

theorem edgeView?_edgeLine (e : Edge) : edgeView? (edgeLine e) = some e.toPage.view := by
  have has := attributesOf?_of_writes (writes_label e.label)
  rw [edgeLine, edgeView?, has]
  rfl

end Dot

namespace Export

/-- A library that holds the data of a page while it is drawn. It can refuse an edge. -/
structure Library where
  Network : Type
  empty : Network
  addNode : Network → PageNode → Network
  addEdge : Network → PageEdge → Option Network
  page : Network → Page

namespace Library

variable (L : Library)

def ids (net : L.Network) : List String := (L.page net).nodes.map (·.id)

structure Lawful : Prop where
  page_empty : L.page L.empty = ⟨[], []⟩
  addNode_known : ∀ net n, n.id ∈ L.ids net → L.page (L.addNode net n) = L.page net
  addNode_new : ∀ net n, n.id ∉ L.ids net →
    L.page (L.addNode net n) = ⟨(L.page net).nodes ++ [n], (L.page net).edges⟩
  addEdge_unknown : ∀ net e, ¬ (e.source ∈ L.ids net ∧ e.target ∈ L.ids net) →
    L.addEdge net e = none
  addEdge_known : ∀ net e, e.source ∈ L.ids net → e.target ∈ L.ids net →
    ∃ more, L.addEdge net e = some more ∧
      L.page more = ⟨(L.page net).nodes, (L.page net).edges ++ [e]⟩

def draw (g : Graph) : Option L.Network :=
  g.edges.foldlM (fun net e => L.addEdge net e.toPage)
    (g.nodes.foldl (fun net n => L.addNode net n.toPage) L.empty)

def write (g : Graph) (path : Files.Path) (d : Files.Disk) :
    Option (Files.Disk × Option Files.FileError) := do
  let net ← L.draw g
  match d.makeFolders path.parent with
  | .error e => return (d, some e)
  | .ok d =>
    match d.write path (.page (L.page net)) with
    | .error e => return (d, some e)
    | .ok d => return (d, none)

variable {L}

theorem Lawful.page_addNodes (h : L.Lawful) {net : L.Network} {nodes : List Node}
    (hnew : ∀ n ∈ nodes, n.name ∉ L.ids net) (hnodup : (nodes.map (·.name)).Nodup) :
    L.page (nodes.foldl (fun net n => L.addNode net n.toPage) net) =
      ⟨(L.page net).nodes ++ nodes.map Node.toPage, (L.page net).edges⟩ := by
  induction nodes generalizing net with
  | nil => simp
  | cons n nodes ih =>
    obtain ⟨hn, hrest⟩ := List.forall_mem_cons.mp hnew
    obtain ⟨hnotMem, hnodup⟩ := List.nodup_cons.mp hnodup
    have hstep := h.addNode_new net n.toPage hn
    rw [List.foldl_cons, ih _ hnodup, hstep]
    · simp
    · intro m hm hmem
      rw [ids, hstep, List.map_append, List.mem_append] at hmem
      rcases hmem with hmem | hmem
      · exact hrest m hm hmem
      · have hname : m.name = n.name := by simpa [Node.toPage] using hmem
        exact hnotMem (List.mem_map.mpr ⟨m, hm, hname⟩)

theorem Lawful.addEdges (h : L.Lawful) {net : L.Network} {edges : List Edge}
    (hends : ∀ e ∈ edges, e.source ∈ L.ids net ∧ e.target ∈ L.ids net) :
    ∃ more, edges.foldlM (fun net e => L.addEdge net e.toPage) net = some more ∧
      L.page more = ⟨(L.page net).nodes, (L.page net).edges ++ edges.map Edge.toPage⟩ := by
  induction edges generalizing net with
  | nil => exact ⟨net, rfl, by simp⟩
  | cons e edges ih =>
    obtain ⟨⟨hsource, htarget⟩, hrest⟩ := List.forall_mem_cons.mp hends
    obtain ⟨next, hstep, hpage⟩ := h.addEdge_known net e.toPage hsource htarget
    have hids : L.ids next = L.ids net := by rw [ids, hpage, ids]
    rw [← hids] at hrest
    obtain ⟨more, hmore, hall⟩ := ih hrest
    refine ⟨more, ?_, ?_⟩
    · rw [List.foldlM_cons, hstep]
      exact hmore
    · rw [hall, hpage]
      simp

theorem Lawful.draw_valid (h : L.Lawful) {g : Graph} (hg : g.Valid) :
    ∃ net, L.draw g = some net ∧ L.page net = g.toPage := by
  have hids : L.ids L.empty = [] := by rw [ids, h.page_empty]; rfl
  have hnodes : L.page (g.nodes.foldl (fun net n => L.addNode net n.toPage) L.empty) =
      ⟨g.nodes.map Node.toPage, []⟩ := by
    rw [h.page_addNodes, h.page_empty]
    · rfl
    · rw [hids]
      exact fun _ _ => List.not_mem_nil
    · rw [hg.map_name_nodes]
      exact hg.names_nodup
  have hnames : L.ids (g.nodes.foldl (fun net n => L.addNode net n.toPage) L.empty) = g.names := by
    rw [ids, hnodes, List.map_map]
    exact hg.map_name_nodes
  have hends := hg.ends
  rw [← hnames] at hends
  obtain ⟨net, hdraw, hpage⟩ := h.addEdges hends
  refine ⟨net, hdraw, ?_⟩
  rw [hpage, hnodes]
  rfl

def plain : Library where
  Network := Page
  empty := ⟨[], []⟩
  addNode p n := if n.id ∈ p.nodes.map (·.id) then p else ⟨p.nodes ++ [n], p.edges⟩
  addEdge p e :=
    if e.source ∈ p.nodes.map (·.id) ∧ e.target ∈ p.nodes.map (·.id) then
      some ⟨p.nodes, p.edges ++ [e]⟩
    else none
  page p := p

theorem lawful_plain : plain.Lawful where
  page_empty := rfl
  addNode_known := fun _ _ h => if_pos h
  addNode_new := fun _ _ h => if_neg h
  addEdge_unknown := fun _ _ h => if_neg h
  addEdge_known := fun _ _ hsource htarget => ⟨_, if_pos ⟨hsource, htarget⟩, rfl⟩

end Library

/-- Whatever was done to a graph, every lawful library draws its page, which is the one that is
written. The page, the section of the components and the rows of the JSON document show the same
nodes, each once, in the same order, in the same colours, and dashed where the tag is "unresolved";
page and rows show the same edges in the same order, and the section of the relations those of them
whose kind is a feature that is on. -/
theorem views_agree (L : Library) (hL : L.Lawful) (c : Config) (ops : List Operation) :
    let g := Graph.empty.run ops
    ∃ net nodes edges,
      L.draw g = some net ∧ (∀ path d, L.write g path d = some (page g path d)) ∧
      (Dot.render c g).toList = "digraph Components \x7b\n".toList ++
        ((Dot.body c g).flatMap Dot.lineText ++ ['\x7d', '\n']) ∧
      g.toJson.rows? "nodes" nodeRow? = some nodes ∧
      g.toJson.rows? "edges" edgeRow? = some edges ∧
      (nodes.map (·.name)).Nodup ∧
      (L.page net).nodes.map (fun n => (n.id, n.label, n.dashed)) =
        nodes.map (fun r => (r.name, r.name, r.tag == "unresolved")) ∧
      (Dot.below "Components" (Dot.body c g)).mapM Dot.nodeView? =
        some ((L.page net).nodes.map PageNode.view) ∧
      (L.page net).edges.map PageEdge.view = edges.map EdgeRow.view ∧
      (Dot.below "Relations" (Dot.body c g)).mapM Dot.edgeView? =
        some ((edges.filter (fun r => c.features.any (fun f => f.name == r.kind))).map
          EdgeRow.view) := by
  intro g
  have hg : g.Valid := Graph.valid_empty.run ops
  obtain ⟨net, hdraw, hpage⟩ := hL.draw_valid hg
  refine ⟨net, g.nodes.map Node.row, g.edges.map Edge.row, hdraw, ?_, Dot.toList_render c g,
    g.rows?_nodes, g.rows?_edges, ?_, ?_, ?_, ?_, ?_⟩
  · intro path d
    rw [Library.write, hdraw, Option.bind_eq_bind, Option.bind_some, hpage, page]
    cases d.makeFolders path.parent with
    | error e => rfl
    | ok d =>
      dsimp only
      cases d.write path (.page g.toPage) <;> rfl
  · rw [List.map_map]
    exact hg.map_name_nodes ▸ hg.names_nodup
  · rw [hpage, List.map_map, Graph.toPage, List.map_map]
    apply List.map_congr_left
    intro n _
    simp [Node.toPage, Node.row, dashed_iff_unresolved]
  · rw [Dot.below_components, mapM_map_eq_some Dot.nodeView?_nodeLine, hpage, Graph.toPage,
      List.map_map]
    rfl
  · rw [hpage, List.map_map, Graph.toPage, List.map_map]
    rfl
  · rw [Dot.below_relations, mapM_map_eq_some Dot.edgeView?_edgeLine, List.filter_map, List.map_map]
    rfl

theorem views_agree_cycle :
    let back : Edge := ⟨"Used", "My Service", .autowired, "@Autowired"⟩
    let c : Config := { Config.default with features := [.bean] }
    let g := Graph.empty.run [.setStereotype "My Service" (some .service),
      .addEdge ⟨"My Service", "Used", .bean, "@Bean"⟩, .addEdge back, .ensure "Used", .addEdge back]
    Library.plain.Lawful ∧ ∃ net, Library.plain.draw g = some net ∧
      (Library.plain.page net).nodes.map (fun n => (n.id, n.label, n.dashed)) =
        [("My Service", "My Service", false), ("Used", "Used", true)] ∧
      (Library.plain.page net).edges.map PageEdge.view =
        [⟨"My Service", "Used", "@Bean"⟩, ⟨"Used", "My Service", "@Autowired"⟩] ∧
      (Dot.below "Relations" (Dot.body c g)).mapM Dot.edgeView? =
        some [⟨"My Service", "Used", "@Bean"⟩] := by
  intro back c g
  obtain ⟨net, nodes, edges, hdraw, _, _, hnodes, hedges, _, hids, _, hends, hrelations⟩ :=
    views_agree Library.plain Library.lawful_plain c
      [.setStereotype "My Service" (some .service),
        .addEdge ⟨"My Service", "Used", .bean, "@Bean"⟩, .addEdge back, .ensure "Used",
        .addEdge back]
  have hnodeRows : g.toJson.rows? "nodes" nodeRow? =
      some [⟨"My Service", "@Service", none⟩, ⟨"Used", "unresolved", none⟩] := by decide +kernel
  have hedgeRows : g.toJson.rows? "edges" edgeRow? =
      some [⟨"My Service", "Used", "bean", "@Bean"⟩,
        ⟨"Used", "My Service", "autowired", "@Autowired"⟩] := by decide +kernel
  obtain rfl := Option.some.inj (hnodes.symm.trans hnodeRows)
  obtain rfl := Option.some.inj (hedges.symm.trans hedgeRows)
  refine ⟨Library.lawful_plain, net, hdraw, ?_, hends, ?_⟩
  · rw [hids]
    decide
  · rw [hrelations]
    decide

end Export

end Wiring
