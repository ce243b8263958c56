import Wiring.Proofs.Dot.Lines

/-!
The rendered document of a graph is read back as exactly the statements that the graph asks for,
whatever characters stand in its names, packages and labels.
-/

namespace Wiring.Dot

def legendNames : List String := Stereotype.all.map Stereotype.label ++ ["unresolved"]

def legendStatements : List Statement :=
  Stereotype.all.map (fun s => .node s.label [("fillcolor", s.color), ("style", "filled")]) ++
    [.node "unresolved" [("fillcolor", "#d3d3d3"), ("style", "filled,dashed")]] ++
  (legendNames.zip legendNames.tail).map (fun p => .edge p.1 p.2 [("style", "invis")])

def nodeStatement (n : Node) : Statement :=
  .node n.name
    [("fillcolor", n.color), ("style", if n.isPlaceholder then "filled,dashed" else "filled")]

def edgeStatement (e : Edge) : Statement := .edge e.source e.target [("label", e.label)]

def isDrawn (c : Config) (e : Edge) : Bool := c.features.any (fun f => f.name == e.kind.name)

def folderStatements (g : Graph) (package : String) : List Statement :=
  .node package [("shape", "folder"), ("style", "filled")] ::
    (g.coveredBy package).map (fun n => .edge package n.name [("label", "contains")])

def scanStatements (g : Graph) (s : Scan) (position : Nat) : List Statement :=
  (if s.package ∈ (g.scans.take position).map (·.package) then [] else folderStatements g s.package) ++
    [.edge s.source s.package [("label", "@ComponentScan")]]

def described (c : Config) (g : Graph) : Document where
  name := "Components"
  statements := legendStatements ++ g.nodes.map nodeStatement ++
    (g.edges.filter (isDrawn c)).map edgeStatement ++
    if c.features.any (fun f => f.name == "componentscan") then
      g.scans.zipIdx.flatMap (fun p => scanStatements g p.1 p.2)
    else []

/-- No name of the graph ends in a line feed. -/
structure Unbroken (g : Graph) : Prop where
  nodes : ∀ n ∈ g.nodes, ¬ EndsLine n.name
  edges : ∀ e ∈ g.edges, ¬ EndsLine e.source ∧ ¬ EndsLine e.target
  scans : ∀ s ∈ g.scans, ¬ EndsLine s.source ∧ ¬ EndsLine s.package

theorem lexesWord_bare {s : String}
    (h : (¬ EndsLine s) ∧ isPlain s.toList = true ∧ isReserved s = false) :
    LexesWord s.toList [.id s] := lexesWord_plain h.1 h.2.1 h.2.2

theorem writes_label (label : String) : Writes ("label=" ++ quote label) [("label", label)] := by
  have hkey : "label=" = "label" ++ "=" := by decide
  rw [hkey]
  exact writes_one (lexesWord_bare (by decide)) (lexes_quote label).word

theorem writes_style {color : String} (h : quote color = "\"" ++ color ++ "\"") (dashed : Bool) :
    Writes (style color dashed)
      [("fillcolor", color), ("style", if dashed then "filled,dashed" else "filled")] := by
  have hcolor : Writes ("fillcolor" ++ "=" ++ quote color) [("fillcolor", color)] :=
    writes_one (lexesWord_bare (by decide)) (lexes_quote color).word
  have hstyle : Writes ("style" ++ "=" ++ if dashed then "\"filled,dashed\"" else "filled")
      [("style", if dashed then "filled,dashed" else "filled")] := by
    have hquote : quote "filled,dashed" = "\"filled,dashed\"" := by decide
    cases dashed with
    | false => exact writes_one (lexesWord_bare (by decide)) (lexesWord_bare (by decide))
    | true =>
      rw [if_pos rfl, if_pos rfl, ← hquote]
      exact writes_one (lexesWord_bare (by decide)) (lexes_quote "filled,dashed").word
  have htext : style color dashed = "fillcolor" ++ "=" ++ quote color ++ "," ++
      ("style" ++ "=" ++ if dashed then "\"filled,dashed\"" else "filled") := by
    have hfirst : "fillcolor=\"" = "fillcolor" ++ "=" ++ "\"" := by decide
    have hthen : "\",style=" = "\"" ++ "," ++ "style" ++ "=" := by decide
    rw [style, h, hfirst, hthen]
    simp only [String.append_assoc]
  rw [htext]
  exact writes_cons hcolor hstyle (List.cons_ne_nil _ _)

theorem quote_color (n : Node) : quote n.color = "\"" ++ n.color ++ "\"" := by
  have hstereotype : ∀ s : Stereotype, quote s.color = "\"" ++ s.color ++ "\"" := by
    intro s
    cases s <;> decide
  have hunresolved : quote Node.unresolvedColor = "\"" ++ Node.unresolvedColor ++ "\"" := by decide
  unfold Node.color
  cases n.stereotype with
  | none => exact hunresolved
  | some s => exact hstereotype s

theorem writes_contains : Writes "label=\"contains\"" [("label", "contains")] := by
  have htext : "label=\"contains\"" = "label=" ++ quote "contains" := by decide
  rw [htext]
  exact writes_label "contains"

theorem writes_componentScan : Writes "label=\"@ComponentScan\"" [("label", "@ComponentScan")] := by
  have htext : "label=\"@ComponentScan\"" = "label=" ++ quote "@ComponentScan" := by decide
  rw [htext]
  exact writes_label "@ComponentScan"

theorem writes_folder :
    Writes "shape=folder,style=filled" [("shape", "folder"), ("style", "filled")] := by
  have htext : "shape=folder,style=filled" =
      "shape" ++ "=" ++ "folder" ++ "," ++ ("style" ++ "=" ++ "filled") := by decide
  have hshape : Writes ("shape" ++ "=" ++ "folder") [("shape", "folder")] :=
    writes_one (lexesWord_bare (by decide)) (lexesWord_bare (by decide))
  have hstyle : Writes ("style" ++ "=" ++ "filled") [("style", "filled")] :=
    writes_one (lexesWord_bare (by decide)) (lexesWord_bare (by decide))
  rw [htext]
  exact writes_cons hshape hstyle (List.cons_ne_nil _ _)

theorem writes_invisible : Writes "style=invis" [("style", "invis")] := by
  have htext : "style=invis" = "style" ++ "=" ++ "invis" := by decide
  rw [htext]
  exact writes_one (lexesWord_bare (by decide)) (lexesWord_bare (by decide))

theorem says_legend : Says legend legendStatements := by
  have hstereotypes : Says (Stereotype.all.map (fun s => .node s.label (style s.color false)))
      (Stereotype.all.map (fun s => .node s.label [("fillcolor", s.color), ("style", "filled")])) := by
    apply says_map
    intro s _
    have hlabel : ¬ EndsLine s.label := by cases s <;> decide
    exact says_node hlabel (writes_style (quote_color ⟨"", some s, none⟩) false)
  have hunresolved : Says [.node Node.unresolvedTag (style Node.unresolvedColor true)]
      [.node "unresolved" [("fillcolor", "#d3d3d3"), ("style", "filled,dashed")]] :=
    says_node (by decide) (writes_style (quote_color ⟨"", none, none⟩) true)
  have hedges : Says ((legendNames.zip legendNames.tail).map (fun p => .edge p.1 p.2 "style=invis"))
      ((legendNames.zip legendNames.tail).map (fun p => .edge p.1 p.2 [("style", "invis")])) := by
    apply says_map
    intro p hp
    have hnames : ∀ name ∈ legendNames, ¬ EndsLine name := by decide
    obtain ⟨hfirst, hsecond⟩ := List.of_mem_zip hp
    exact says_edge (hnames _ hfirst) (hnames _ (List.mem_of_mem_tail hsecond)) writes_invisible
  have hcomments : Says [.blank, .comment "Align legend"] [] :=
    says_blank.append (says_comment (by decide))
  exact (says_comment (by decide)).append
    (((hstereotypes.append hunresolved).append hcomments).append hedges)

theorem says_components {g : Graph} (h : Unbroken g) :
    Says (components g) (g.nodes.map nodeStatement) := by
  have hnodes : Says (g.nodes.map nodeLine) (g.nodes.map nodeStatement) := by
    apply says_map
    intro n hn
    exact says_node (h.nodes n hn) (writes_style (quote_color n) n.isPlaceholder)
  exact (says_comment (by decide)).append hnodes

theorem hasFeature_eq_any (c : Config) (f : Feature) :
    c.hasFeature f = c.features.any (fun e => e.name == f.name) := by
  have hname : ∀ e : Feature, (f == e) = (e.name == f.name) := by
    cases f <;> intro e <;> cases e <;> decide
  rw [Config.hasFeature, List.contains_eq_any_beq]
  simp only [hname]

theorem hasFeature_eq_isDrawn (c : Config) :
    (fun e : Edge => c.hasFeature (feature e.kind)) = isDrawn c := by
  funext e
  have hkind : (feature e.kind).name = e.kind.name := by cases e.kind <;> rfl
  rw [hasFeature_eq_any, hkind, isDrawn]

theorem says_relations (c : Config) {g : Graph} (h : Unbroken g) :
    Says (relations c g) ((g.edges.filter (isDrawn c)).map edgeStatement) := by
  have hedges : Says ((g.edges.filter (isDrawn c)).map edgeLine)
      ((g.edges.filter (isDrawn c)).map edgeStatement) := by
    apply says_map
    intro e he
    obtain ⟨hs, ht⟩ := h.edges e (List.mem_of_mem_filter he)
    exact says_edge hs ht (writes_label e.label)
  rw [relations, hasFeature_eq_isDrawn]
  exact (says_comment (by decide)).append hedges

theorem says_folder {g : Graph} (h : Unbroken g) {package : String} (hp : ¬ EndsLine package) :
    Says (.node package "shape=folder,style=filled" ::
      (g.coveredBy package).map (fun n => .edge package n.name "label=\"contains\""))
      (folderStatements g package) := by
  have hcovered : Says
      ((g.coveredBy package).map (fun n => .edge package n.name "label=\"contains\""))
      ((g.coveredBy package).map (fun n => .edge package n.name [("label", "contains")])) := by
    apply says_map
    intro n hn
    exact says_edge hp (h.nodes n (List.mem_of_mem_filter hn)) writes_contains
  exact (says_node hp writes_folder).append hcovered

theorem says_scanLines {g : Graph} (h : Unbroken g) {done rest : List Scan} {seen : List String}
    (hg : g.scans = done ++ rest) (hseen : ∀ p, p ∈ seen ↔ p ∈ done.map (·.package)) :
    Says (scanLines g seen rest)
      ((rest.zipIdx done.length).flatMap (fun p => scanStatements g p.1 p.2)) := by
  -- `done` holds the scans before the place that is reached, and `seen` their packages
  induction rest generalizing done seen with
  | nil => exact .nil
  | cons s rest ih =>
    obtain ⟨hsource, hpackage⟩ := h.scans s (by simp [hg])
    have htake : g.scans.take done.length = done := by rw [hg, List.take_left]
    have hfolder : Says
        (if seen.contains s.package then []
          else .node s.package "shape=folder,style=filled" ::
            (g.coveredBy s.package).map (fun n => .edge s.package n.name "label=\"contains\""))
        (if s.package ∈ done.map (·.package) then [] else folderStatements g s.package) := by
      by_cases hs : s.package ∈ seen
      · rw [if_pos (List.contains_iff_mem.mpr hs), if_pos ((hseen _).mp hs)]
        exact .nil
      · rw [if_neg (by simpa using hs), if_neg (mt (hseen _).mpr hs)]
        exact says_folder h hpackage
    have hscan : Says [.edge s.source s.package "label=\"@ComponentScan\""]
        [.edge s.source s.package [("label", "@ComponentScan")]] :=
      says_edge hsource hpackage writes_componentScan
    have hrest : Says (scanLines g (s.package :: seen) rest)
        ((rest.zipIdx (done ++ [s]).length).flatMap (fun p => scanStatements g p.1 p.2)) := by
      apply ih
      · simp [hg]
      · intro p
        simp [hseen, or_comm]
    have hall := hfolder.append (hscan.append hrest)
    rw [List.zipIdx_cons, List.flatMap_cons, scanStatements, htake]
    simpa [scanLines] using hall

theorem says_componentScans (c : Config) {g : Graph} (h : Unbroken g) :
    Says (componentScans c g)
      (if c.features.any (fun f => f.name == "componentscan") then
        g.scans.zipIdx.flatMap (fun p => scanStatements g p.1 p.2)
      else []) := by
  have hfeature : c.features.any (fun f => f.name == "componentscan") =
      c.hasFeature .componentScan := (hasFeature_eq_any c .componentScan).symm
  have hscans : Says (scanLines g [] g.scans)
      (g.scans.zipIdx.flatMap (fun p => scanStatements g p.1 p.2)) := by
    have hstart : g.scans = [] ++ g.scans := rfl
    exact says_scanLines h hstart (fun _ => Iff.rfl)
  rw [hfeature, componentScans]
  cases c.hasFeature .componentScan with
  | false => exact .nil
  | true =>
    cases hs : g.scans with
    | nil => exact .nil
    | cons s rest =>
      rw [hs] at hscans
      exact (says_blank.append (says_comment (by decide))).append hscans

theorem says_body (c : Config) {g : Graph} (h : Unbroken g) :
    Says (body c g) (described c g).statements := by
  have hnodes := says_legend.append (says_blank.append (says_components h))
  have hedges := hnodes.append (says_blank.append (says_relations c h))
  have hall := hedges.append (says_componentScans c h)
  simpa [body, described] using hall

theorem intercalate_append {α : Type} (sep : List α) {xs : List (List α)} (h : xs ≠ []) :
    sep.intercalate xs ++ sep = xs.flatMap (· ++ sep) := by
  induction xs with
  | nil => exact absurd rfl h
  | cons x xs ih =>
    cases xs with
    | nil => simp
    | cons y ys =>
      rw [List.intercalate_cons_cons, List.append_assoc, ih (List.cons_ne_nil _ _)]
      rfl

theorem toList_render (c : Config) (g : Graph) :
    (render c g).toList =
      "digraph Components \x7b\n".toList ++ ((body c g).flatMap lineText ++ ['\x7d', '\n']) := by
  have hfeed : "\n".toList = ['\n'] := by decide
  have hopen : "digraph Components \x7b\n".toList = "digraph Components \x7b".toList ++ ['\n'] := by
    decide
  have hlines : ((body c g).map Line.render).flatMap (fun t => t.toList ++ ['\n']) =
      (body c g).flatMap lineText := by
    rw [List.flatMap_map]
    exact List.flatMap_congr (fun l _ => (lineText_eq l).symm)
  rw [render, String.toList_append, String.toList_intercalate, hfeed,
    intercalate_append _ (by simp), List.flatMap_map, List.flatMap_append, List.flatMap_cons, hlines,
    hopen, List.append_assoc]
  rfl

theorem lexes_header :
    Lexes "digraph Components \x7b\n".toList [.keyword "digraph", .id "Components", .mark '\x7b'] := by
  have hdigraph : LexesWord "digraph".toList [.keyword "digraph"] :=
    lexesWord_word (c := 'd') (by decide) (by decide)
  have hspace : Lexes [' '] [] := lexes_white (by decide)
  have hopen : Lexes [' ', '\x7b', '\n'] [.mark '\x7b'] :=
    hspace.append ((lexes_mark (by decide)).append (lexes_white (by decide)))
  have hname : Lexes ("Components".toList ++ [' ', '\x7b', '\n']) [.id "Components", .mark '\x7b'] :=
    (lexesWord_bare (by decide)).append hopen (by decide)
  exact (hdigraph.append hspace (by decide)).append hname

theorem tokens_render (c : Config) {g : Graph} (h : Unbroken g) :
    tokens (render c g).toList = some (.keyword "digraph" :: .id "Components" :: .mark '\x7b' ::
      ((described c g).statements.flatMap Statement.tokens ++ [.mark '\x7d'])) := by
  have hclose : Lexes ['\x7d', '\n'] [.mark '\x7d'] :=
    (lexes_mark (by decide)).append (lexes_white (by decide))
  have hbody : Lexes ((body c g).flatMap lineText)
      ((described c g).statements.flatMap Statement.tokens) := says_body c h
  have hall := lexes_header.append (hbody.append hclose)
  have htokens := hall []
  rw [List.append_nil, ← toList_render, tokens_nil] at htokens
  simpa using htokens

theorem read_render (c : Config) (g : Graph) (h : Unbroken g) :
    read (render c g) = some (described c g) := by
  rw [read, tokens_render c h, Option.bind_some, document?, statements?_tokens]
  rfl

def awkwardPackage : String := "a\"];\x7d\n//\\"

def awkwardGraph : Graph where
  table := [("node", ⟨"node", some .configuration, some (awkwardPackage ++ ".b")⟩),
    ("My Service", .placeholder "My Service")]
  edges := [⟨"node", "My Service", .bean, "\\\" -> x"⟩, ⟨"node", "node", .classImport, "@Import"⟩]
  known := .empty
  scans := [⟨"node", awkwardPackage⟩, ⟨"Main", awkwardPackage⟩]

theorem read_render_awkward :
    Unbroken awkwardGraph ∧
    read (render Config.full awkwardGraph) = some ⟨"Components", legendStatements ++
      [.node "node" [("fillcolor", "#28a9e0"), ("style", "filled")],
       .node "My Service" [("fillcolor", "#d3d3d3"), ("style", "filled,dashed")],
       .edge "node" "My Service" [("label", "\\\" -> x")],
       .edge "node" "node" [("label", "@Import")],
       .node awkwardPackage [("shape", "folder"), ("style", "filled")],
       .edge awkwardPackage "node" [("label", "contains")],
       .edge "node" awkwardPackage [("label", "@ComponentScan")],
       .edge "Main" awkwardPackage [("label", "@ComponentScan")]]⟩ := by
  have h : Unbroken awkwardGraph := ⟨by decide, by decide, by decide⟩
  refine ⟨h, ?_⟩
  rw [read_render Config.full awkwardGraph h]
  decide +kernel

end Wiring.Dot
