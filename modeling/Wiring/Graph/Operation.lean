import Wiring.Graph.Offer

namespace Wiring

inductive Operation where
  | ensure (name : String)
  | setStereotype (name : String) (stereotype : Option Stereotype)
  | setPackage (name : String) (package : Option String)
  | addEdge (e : Edge)
  | addScan (s : Scan)
  | offer (batchPackage : String) (o : Offer)

namespace Graph

def step (g : Graph) : Operation → Graph × Option Unsupported
  | .ensure name => (g.ensure name, none)
  | .setStereotype name s => (g.setStereotype name s, none)
  | .setPackage name p => (g.setPackage name p, none)
  | .addEdge e => (g.addEdge e, none)
  | .addScan s => (g.addScan s, none)
  | .offer batchPackage o => g.applyOffer batchPackage o

def run (g : Graph) (ops : List Operation) : Graph := ops.foldl (fun g op => (g.step op).1) g

end Graph

end Wiring
