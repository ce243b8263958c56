import Wiring.Graph.Offer
import Wiring.Source

namespace Wiring

def Scanned.batch (c : Config) (s : Scanned) : Batch Entity := ⟨s.path, s.package, s.entities c⟩

namespace Source

def analyze (c : Config) (s : Source) : Batch Entity × List Notice :=
  match s.scan with
  | .ok scanned =>
    let batch := scanned.batch c
    (batch, scanned.classifiedNotices ++ [.classified s.path batch.entities.length])
  | .error e => (⟨s.path, s.package, []⟩, [.unscannableSource e.message])

def batch (c : Config) (s : Source) : Batch Entity := (s.analyze c).1

end Source

namespace Analysis

def graph (c : Config) (sources : List Source) : Graph := Graph.build (sources.map (Source.batch c))

def notices (c : Config) (sources : List Source) : List Notice :=
  let g := graph c sources
  sources.flatMap (fun s => (s.analyze c).2) ++
    Graph.buildNotices (sources.map (Source.batch c)) ++ [.graphBuilt g.nodes.length g.edges.length]

end Analysis

end Wiring
