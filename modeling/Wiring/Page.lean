import Wiring.Graph.Basic
import Wiring.Json

namespace Wiring

structure PageNode where
  id : String
  label : String
  color : String
  title : String
  dashed : Bool
  deriving DecidableEq, Repr

structure PageEdge where
  source : String
  target : String
  title : String
  label : String
  color : String
  deriving DecidableEq, Repr

structure Page where
  nodes : List PageNode
  edges : List PageEdge
  deriving DecidableEq, Repr

def EdgeKind.color : EdgeKind → String
  | classImport => "#28a9e0"
  | bean => "#6b1d1d"
  | autowired => "#374151"

def Node.title (n : Node) : String :=
  match n.package with
  | some p => if p.isEmpty then n.tag else n.tag ++ "\n" ++ p
  | none => n.tag

def Node.toPage (n : Node) : PageNode := ⟨n.name, n.name, n.color, n.title, n.isPlaceholder⟩

def Edge.toPage (e : Edge) : PageEdge := ⟨e.source, e.target, e.label, e.label, e.kind.color⟩

def Graph.toPage (g : Graph) : Page := ⟨g.nodes.map Node.toPage, g.edges.map Edge.toPage⟩

def PageNode.toJson (n : PageNode) : Json :=
  .object [("id", .string n.id), ("label", .string n.label), ("color", .string n.color),
    ("title", .string n.title), ("shape", .string "dot"),
    ("shapeProperties", .object [("borderDashes", .bool n.dashed)])]

def PageEdge.toJson (e : PageEdge) : Json :=
  .object [("from", .string e.source), ("to", .string e.target), ("title", .string e.title),
    ("label", .string e.label), ("color", .string e.color), ("arrows", .string "to")]

namespace Page

def options : Json :=
  .object
    [("physics", .object [("enabled", .bool true),
      ("stabilization", .object [("iterations", .int 100)])]),
     ("interaction", .object [("multiselect", .bool true), ("selectConnectedEdges", .bool false)])]

def toJson (p : Page) : Json :=
  .object [("nodes", .array (p.nodes.map PageNode.toJson)),
    ("edges", .array (p.edges.map PageEdge.toJson)), ("options", options)]

end Page

end Wiring
