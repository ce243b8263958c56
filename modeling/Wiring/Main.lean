import Wiring.Command.Run
import Wiring.Page.Document

namespace Wiring

open Files

def placeOf (names : List String) : String := "/" ++ "/".intercalate names

def look (names : List String) : IO (Option Entry) := do
  match ← (IO.FS.Handle.mk (placeOf names) .read).toBaseIO with
  | .error _ => return none
  | .ok h =>
    match ← h.readBinToEnd.toBaseIO with
    | .ok b => return some (.file (.bytes b))
    | .error _ => return some (.folder [])

def fetch (d : Disk) (names : List String) : IO Disk := do
  if (d.entryAt? names).isSome then return d
  match ← look names with
  | some e => return d.put names e
  | none => return d

def survey (d : Disk) (names : List String) : List String → IO Disk
  | [] => fetch d names
  | s :: segments => do
    survey (← fetch d names) (if s == ".." then names.dropLast else names ++ [s]) segments

def surveyPath (d : Disk) (p : Path) : IO Disk :=
  survey d (if p.isAbsolute then [] else d.working) p.segments

def Command.Request.paths (r : Command.Request) : List Path :=
  let folders := (Command.wanted r.output).toList
  let documents := ["components.dot", "dependency_graph.json", "statistics.json"]
  Path.ofString r.path :: folders.flatMap (fun p => documents.map p.child) ++
    (Command.wanted r.html).toList

def surveyRequest (working : List String) (r : Command.Request) : IO Disk := do
  let listing ← (← IO.getStdin).lines
  (r.paths ++ listing.toList.map Path.ofString).foldlM surveyPath ⟨[], working⟩

def Files.Content.document? : Content → Option String
  | .bytes _ => none
  | .text s => some s
  | .page p => some p.document

def save (names : List String) (content : Content) : IO Unit := do
  match content.document? with
  | none => pure ()
  | some text =>
    IO.FS.createDirAll (placeOf names.dropLast)
    IO.FS.writeFile (placeOf names) text

def perform (working arguments : List String) (setting : Option String) : IO Command.Outcome := do
  match Command.read arguments with
  | .ok r => return Command.run arguments setting (← surveyRequest working r)
  | .error _ => return Command.run arguments setting ⟨[], working⟩

end Wiring

def main (arguments : List String) : IO UInt32 := do
  let working := (Wiring.Files.Path.ofString (toString (← IO.currentDir))).segments
  let o ← Wiring.perform working arguments (← IO.getEnv "SPRING_VISUALIZER_LOG")
  for n in o.log do
    IO.eprintln s!"{n.level.name}: {n.message}"
  IO.print o.output
  IO.eprint o.errors
  for f in o.disk.written do
    Wiring.save f.1 f.2
  return UInt32.ofNat o.status
