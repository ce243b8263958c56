import Wiring.Dot
import Wiring.Files.Disk
import Wiring.Notice
import Wiring.Statistics

namespace Wiring.Export

open Files

def documents (c : Config) (g : Graph) : List (String × String) :=
  [("components.dot", Dot.render c g), ("dependency_graph.json", g.toJson.render),
   ("statistics.json", g.statistics.toJson.render)]

def writeAll (folder : Path) (d : Disk) : List (String × String) → Disk × Option FileError
  | [] => (d, none)
  | (name, text) :: rest =>
    match d.write (folder.child name) (.text text) with
    | .ok d => writeAll folder d rest
    | .error e => (d, some e)

def results (c : Config) (g : Graph) (folder : Path) (d : Disk) : Disk × Option FileError :=
  match d.makeFolders folder with
  | .error e => (d, some e)
  | .ok d => writeAll folder d (documents c g)

def page (g : Graph) (path : Path) (d : Disk) : Disk × Option FileError :=
  match d.makeFolders path.parent with
  | .error e => (d, some e)
  | .ok d =>
    match d.write path (.page g.toPage) with
    | .error e => (d, some e)
    | .ok d => (d, none)

end Wiring.Export
