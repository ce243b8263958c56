import Wiring.Config
import Wiring.Graph.Basic

namespace Wiring.Dot

def escapeChar (c : Char) : List Char := if c = '\\' || c = '"' then ['\\', c] else [c]

def quote (s : String) : String := "\"" ++ String.ofList (s.toList.flatMap escapeChar) ++ "\""

def isPlainStart (c : Char) : Bool := c.isAlpha || c == '_'

def isPlainPart (c : Char) : Bool := c.isAlphanum || c == '_'

/-- A name that needs no quotes; one line feed at its end does not count. -/
def isPlain (s : List Char) : Bool :=
  match (if s.getLast? = some '\n' then s.dropLast else s) with
  | [] => false
  | c :: r => isPlainStart c && r.all isPlainPart

def reserved : List String := ["node", "edge", "graph", "digraph", "subgraph", "strict"]

def isReserved (s : String) : Bool := reserved.contains (String.ofList (s.toList.map Char.toLower))

def quoteId (s : String) : String := if isPlain s.toList && !isReserved s then s else quote s

def indent : String := "    "

def feature : EdgeKind → Feature
  | .classImport => .classImport
  | .bean => .bean
  | .autowired => .autowired

inductive Line where
  | blank
  | comment (text : String)
  | node (id attributes : String)
  | edge (source target attributes : String)
  deriving DecidableEq, Repr

def Line.render : Line → String
  | blank => ""
  | comment text => indent ++ "// " ++ text
  | node id attributes => indent ++ quoteId id ++ " [" ++ attributes ++ "];"
  | edge source target attributes =>
    indent ++ quoteId source ++ " -> " ++ quoteId target ++ " [" ++ attributes ++ "];"

def style (color : String) (dashed : Bool) : String :=
  "fillcolor=\"" ++ color ++ "\",style=" ++ if dashed then "\"filled,dashed\"" else "filled"

def legendEntries : List (String × String) :=
  Stereotype.all.map (fun s => (s.label, style s.color false)) ++
    [(Node.unresolvedTag, style Node.unresolvedColor true)]

def legend : List Line :=
  .comment "Legend" :: legendEntries.map (fun e => .node e.1 e.2) ++
  [.blank, .comment "Align legend"] ++
  (legendEntries.zip legendEntries.tail).map (fun p => .edge p.1.1 p.2.1 "style=invis")

def nodeLine (n : Node) : Line := .node n.name (style n.color n.isPlaceholder)

def edgeLine (e : Edge) : Line := .edge e.source e.target ("label=" ++ quote e.label)

def scanLines (g : Graph) (seen : List String) : List Scan → List Line
  | [] => []
  | s :: rest =>
    (if seen.contains s.package then []
      else .node s.package "shape=folder,style=filled" ::
        (g.coveredBy s.package).map (fun n => .edge s.package n.name "label=\"contains\"")) ++
    .edge s.source s.package "label=\"@ComponentScan\"" :: scanLines g (s.package :: seen) rest

def components (g : Graph) : List Line := .comment "Components" :: g.nodes.map nodeLine

def relations (c : Config) (g : Graph) : List Line :=
  .comment "Relations" :: (g.edges.filter (fun e => c.hasFeature (feature e.kind))).map edgeLine

def componentScans (c : Config) (g : Graph) : List Line :=
  if c.hasFeature .componentScan && !g.scans.isEmpty then
    .blank :: .comment "Component scans" :: scanLines g [] g.scans
  else []

def body (c : Config) (g : Graph) : List Line :=
  legend ++ .blank :: components g ++ .blank :: relations c g ++ componentScans c g

def render (c : Config) (g : Graph) : String :=
  "\n".intercalate ("digraph Components \x7b" :: (body c g).map Line.render ++ ["\x7d"]) ++ "\n"

end Wiring.Dot
