import Wiring.Graph.Basic
import Wiring.Json
import Wiring.Notice

namespace Wiring

structure Statistics where
  nodes : Nat
  edges : Nat
  tags : Counts
  kinds : Counts
  unresolved : List String
  scans : Nat
  uncovered : List String
  deriving DecidableEq, Repr

def Graph.statistics (g : Graph) : Statistics where
  nodes := g.nodes.length
  edges := g.edges.length
  tags := Counts.ofNames (g.nodes.map Node.tag)
  kinds := Counts.ofNames (g.edges.map (fun e => e.kind.name))
  unresolved := g.placeholders.map (·.name)
  scans := g.scans.length
  uncovered := g.uncovered.map (·.name)

namespace Json

def counts (c : Counts) : Json := .object (c.map (fun p => (p.1, .int p.2)))

def strings (names : List String) : Json := .array (names.map .string)

end Json

def Statistics.toJson (s : Statistics) : Json :=
  .object
    [("total_nodes", .int s.nodes), ("total_edges", .int s.edges),
     ("node_tags", .counts s.tags), ("edge_kinds", .counts s.kinds),
     ("unresolved", .strings s.unresolved), ("component_scans", .int s.scans),
     ("uncovered_components", .strings s.uncovered)]

def Node.toJson (n : Node) : Json :=
  .object [("name", .string n.name), ("tag", .string n.tag),
    ("package", n.package.elim .null .string)]

def Edge.toJson (e : Edge) : Json :=
  .object [("source", .string e.source), ("target", .string e.target),
    ("kind", .string e.kind.name), ("label", .string e.label)]

def Scan.toJson (s : Scan) : Json :=
  .object [("source", .string s.source), ("package", .string s.package)]

def Graph.toJson (g : Graph) : Json :=
  .object [("nodes", .array (g.nodes.map Node.toJson)), ("edges", .array (g.edges.map Edge.toJson)),
    ("component_scans", .array (g.scans.map Scan.toJson))]

end Wiring
