import Wiring.Entity
import Wiring.Graph.Basic
import Wiring.Notice

namespace Wiring

def Node.merge (n : Node) (s : Stereotype) (package : String) : Node :=
  ⟨n.name, some (n.stereotype.elim s (fun old => old.best s)), some (n.package.getD package)⟩

structure Role where
  className : String
  stereotype : Stereotype
  package : String
  deriving DecidableEq, Repr

def importLabel : String := "@Import"

def beanLabel : String := "@Bean"

def autowiredLabel (byConstructor : Bool) : String :=
  if byConstructor then "@Autowired (CI)" else "@Autowired"

inductive Change where
  | role (r : Role)
  | edge (e : Edge)
  | scan (s : Scan)
  deriving DecidableEq, Repr

def Entity.change (batchPackage : String) : Entity → Change
  | configuration c p => .role ⟨c, .configuration, if p.isEmpty then batchPackage else p⟩
  | component c s p => .role ⟨c, s, if p.isEmpty then batchPackage else p⟩
  | classImport source target => .edge ⟨source, target, .classImport, importLabel⟩
  | bean source target .. => .edge ⟨source, target, .bean, beanLabel⟩
  | autowired source target byConstructor _ =>
    .edge ⟨source, target, .autowired, autowiredLabel byConstructor⟩
  | scan source package => .scan ⟨source, package⟩

namespace Graph

def addRole (g : Graph) (r : Role) : Graph :=
  (g.ensure r.className).update r.className (fun n => n.merge r.stereotype r.package)

def change (g : Graph) : Change → Graph
  | .role r => g.addRole r
  | .edge e => g.addEdge e
  | .scan s => (g.ensure s.source).addScan s

def apply (g : Graph) (batchPackage : String) (e : Entity) : Graph :=
  g.change (e.change batchPackage)

def roleNotices (n : Node) (r : Role) : List Notice :=
  (match n.package with
    | some p => if p = r.package then [] else [.twoPackages r.className p r.package]
    | none => []) ++
  (match n.stereotype with
    | some old =>
      if r.stereotype.rank < old.rank then [.stereotypeRaised r.className r.stereotype old] else []
    | none => [])

def changeNotices (g : Graph) : Change → List Notice
  | .role r => roleNotices (g.lookup r.className) r
  | .edge _ | .scan _ => []

def applyBatch (g : Graph) (b : Batch Entity) : Graph :=
  b.entities.foldl (fun g e => g.apply b.package e) g

def build (batches : List (Batch Entity)) : Graph := batches.foldl applyBatch empty

end Graph

end Wiring
