import Wiring.Stereotype
import Wiring.Text.Dotted

namespace Wiring

structure Node where
  name : String
  stereotype : Option Stereotype
  package : Option String
  deriving DecidableEq, Repr

namespace Node

def placeholder (name : String) : Node := ⟨name, none, none⟩

def isPlaceholder (n : Node) : Bool := n.stereotype.isNone

def unresolvedTag : String := "unresolved"

def unresolvedColor : String := "#d3d3d3"

def tag (n : Node) : String := n.stereotype.elim unresolvedTag Stereotype.label

def color (n : Node) : String := n.stereotype.elim unresolvedColor Stereotype.color

end Node

inductive EdgeKind where
  | classImport
  | bean
  | autowired
  deriving DecidableEq, Repr

namespace EdgeKind

def name : EdgeKind → String
  | classImport => "import"
  | bean => "bean"
  | autowired => "autowired"

def all : List EdgeKind := [classImport, bean, autowired]

def ofName? (s : String) : Option EdgeKind := all.find? (fun k => k.name == s)

end EdgeKind

structure Edge where
  source : String
  target : String
  kind : EdgeKind
  label : String
  deriving DecidableEq, Repr

structure Scan where
  source : String
  package : String
  deriving DecidableEq, Repr

abbrev NodeTable := List (String × Node)

namespace NodeTable

def keys (t : NodeTable) : List String := t.map (·.1)

def get? (t : NodeTable) (name : String) : Option Node :=
  (t.find? (fun p => p.1 == name)).map (·.2)

def modify (t : NodeTable) (name : String) (f : Node → Node) : NodeTable :=
  t.map (fun p => if p.1 = name then (p.1, f p.2) else p)

end NodeTable

structure EdgeSet where
  members : List Edge
  deriving DecidableEq, Repr

namespace EdgeSet

def empty : EdgeSet := ⟨[]⟩

def insert (s : EdgeSet) (e : Edge) : EdgeSet := ⟨e :: s.members⟩

def contains (s : EdgeSet) (e : Edge) : Bool := s.members.contains e

instance : Membership Edge EdgeSet := ⟨fun s e => e ∈ s.members⟩

instance (s : EdgeSet) (e : Edge) : Decidable (e ∈ s) :=
  inferInstanceAs (Decidable (e ∈ s.members))

theorem contains_iff {s : EdgeSet} {e : Edge} : s.contains e = true ↔ e ∈ s :=
  List.contains_iff_mem

theorem notMem_empty (e : Edge) : e ∉ empty := List.not_mem_nil

theorem mem_insert {s : EdgeSet} {e d : Edge} : d ∈ s.insert e ↔ d = e ∨ d ∈ s :=
  List.mem_cons

end EdgeSet

/-- An edge that was added stands in `edges` for its place and in `known` to be found. -/
structure Graph where
  table : NodeTable
  edges : List Edge
  known : EdgeSet
  scans : List Scan
  deriving DecidableEq, Repr

namespace Graph

def empty : Graph := ⟨[], [], .empty, []⟩

def nodes (g : Graph) : List Node := g.table.map (·.2)

def names (g : Graph) : List String := g.table.keys

def node? (g : Graph) (name : String) : Option Node := g.table.get? name

def ensure (g : Graph) (name : String) : Graph :=
  if g.names.contains name then g else { g with table := g.table ++ [(name, .placeholder name)] }

def lookup (g : Graph) (name : String) : Node := (g.node? name).getD (.placeholder name)

def update (g : Graph) (name : String) (f : Node → Node) : Graph :=
  { g with table := g.table.modify name f }

def setStereotype (g : Graph) (name : String) (s : Option Stereotype) : Graph :=
  (g.ensure name).update name (fun n => { n with stereotype := s })

def setPackage (g : Graph) (name : String) (p : Option String) : Graph :=
  (g.ensure name).update name (fun n => { n with package := p })

def addEdge (g : Graph) (e : Edge) : Graph :=
  let g := (g.ensure e.source).ensure e.target
  if g.known.contains e then g
  else { g with edges := g.edges ++ [e], known := g.known.insert e }

def addScan (g : Graph) (s : Scan) : Graph :=
  if g.scans.contains s then g else { g with scans := g.scans ++ [s] }

def outgoing (g : Graph) (name : String) : List Edge := g.edges.filter (fun e => e.source == name)

def placeholders (g : Graph) : List Node := g.nodes.filter Node.isPlaceholder

end Graph

def Node.isUnder (n : Node) (package : String) : Bool :=
  !n.isPlaceholder && n.package.any (fun p => Text.liesUnder p package)

namespace Graph

def coveredBy (g : Graph) (package : String) : List Node :=
  g.nodes.filter (fun n => n.isUnder package)

def isRegistered (g : Graph) (name : String) : Bool :=
  g.scans.any (fun s => s.source == name) ||
    g.edges.any (fun e => e.kind == .classImport && e.target == name)

def uncovered (g : Graph) : List Node :=
  if g.scans.isEmpty then []
  else g.nodes.filter (fun n =>
    !n.isPlaceholder && n.package.isSome && !g.isRegistered n.name &&
      !g.scans.any (fun s => n.isUnder s.package))

end Graph

end Wiring
