import Wiring.Analysis
import Wiring.Files.Disk
import Wiring.Files.Encoding
import Wiring.Files.Glob

namespace Wiring

open Files

def Files.Content.sourceText : Content → String
  | bytes b => decode b
  | text s => s
  | page _ => ""

structure ProjectError where
  root : Path
  deriving DecidableEq, Repr

def ProjectError.message (e : ProjectError) : String :=
  s!"Project path {e.root.render} does not exist"

namespace Project

def isPattern (c : Char) : Bool := c == '*' || c == '?' || c == '['

def hasExtension (extension name : String) : Bool :=
  if extension.toList.any isPattern then
    Glob.matchAtoms (.star :: Glob.atomsUpTo extension.length extension.toList) name.toList
  else extension.toList.isSuffixOf name.toList

def isSkipped (skipDirs names : List String) : Bool :=
  names.dropLast.any (fun n => skipDirs.contains n)

def takes (c : Config) (names : List String) : Bool :=
  hasExtension c.extension (names.getLast?.getD "") && !isSkipped c.skipDirs names

def relativePath (names : List String) : String := "/".intercalate names

def sourceOf (path : String) (content : Content) : Source :=
  ⟨path, "", Text.CodePoint.ofString content.sourceText⟩

def sourcesBelow (c : Config) (children : List (String × Entry)) : List Source :=
  ((((filesOfAll children).filter (fun f => takes c f.1)).map
    (fun f => (relativePath f.1, f.2))).mergeSort (fun a b => Text.precedes a.1 b.1)).map
    (fun f => sourceOf f.1 f.2)

def sources (c : Config) (d : Disk) (root : Path) : Except ProjectError (List Source) :=
  match d.locate root with
  | .found _ (.folder children) => .ok (sourcesBelow c children)
  | .found _ (.file content) => .ok [sourceOf root.name content]
  | .missing | .notFolder => .error ⟨root⟩

def opening (root : Path) (sources : List Source) : List Notice :=
  [.projectStarted root.render, .filesFound sources.length] ++
    if sources.isEmpty then [.noFiles] else []

def analyze (c : Config) (d : Disk) (root : Path) : Except ProjectError Graph × List Notice :=
  match sources c d root with
  | .error e => (.error e, [.projectStarted root.render])
  | .ok ss => (.ok (Analysis.graph c ss), opening root ss ++ Analysis.notices c ss)

end Project

end Wiring
