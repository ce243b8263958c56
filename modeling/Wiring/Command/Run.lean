import Wiring.Command.Arguments
import Wiring.Export
import Wiring.Project

namespace Wiring.Command

open Files

def program : String := "spring-visualizer"

def usage : String :=
  s!"usage: {program} [-h] [-f FEATURES] [-o OUTPUT] [--html HTML]\n" ++
  "                         [-w WORKERS] [-v]\n" ++
  "                         path\n"

def help : String :=
  usage ++
  "\n" ++
  "Render the Spring component graph of a Java source tree as Graphviz DOT\n" ++
  "\n" ++
  "positional arguments:\n" ++
  "  path                  Directory to scan for Java files\n" ++
  "\n" ++
  "options:\n" ++
  "  -h, --help            show this help message and exit\n" ++
  "  -f FEATURES, --features FEATURES\n" ++
  "                        Comma separated relations to include, any of:\n" ++
  "                        autowired, bean, componentscan, import\n" ++
  "  -o OUTPUT, --output OUTPUT\n" ++
  "                        Write DOT, JSON graph and statistics into this\n" ++
  "                        directory\n" ++
  "  --html HTML           Also write an interactive HTML graph to this file\n" ++
  "  -w WORKERS, --workers WORKERS\n" ++
  "                        Files analyzed in parallel\n" ++
  "  -v, --verbose         Enable debug logging\n"

structure Outcome where
  status : Nat
  output : String
  errors : String
  disk : Disk
  log : List Notice

def capital (c : Char) : Char :=
  if c = 'ı' then 'I' else if c = 'ſ' then 'S' else c.toUpper

def levelOfName (name : String) : Option Level :=
  match String.ofList (name.toList.map capital) with
  | "NOTSET" => none
  | "WARN" => some .warning
  | "FATAL" => some .critical
  | s => some ((Level.ofName? s).getD .warning)

def logLevel (verbose : Bool) (setting : Option String) : Option Level :=
  if verbose then some .debug else setting.elim (some .warning) levelOfName

def logged (level : Option Level) (log : List Notice) : List Notice :=
  level.elim log (fun l => Notice.fromLevel l log)

def configOf (r : Request) : Except ConfigError Config := do
  let s ← Setup.empty.withFeatures (r.features.splitOn ",")
  let s ← s.withWorkers r.workers
  return s.build

def wanted (path : Option String) : Option Path :=
  (path.filter (fun p => !p.isEmpty)).map Path.ofString

structure Task where
  write : Disk → Disk × Option FileError
  notice : Notice

def tasks (c : Config) (g : Graph) (r : Request) : List Task :=
  (wanted r.output).toList.map (fun p => ⟨Export.results c g p, .resultsExported p.render⟩) ++
  (wanted r.html).toList.map (fun p => ⟨Export.page g p, .pageExported p.render⟩)

def carryOut (d : Disk) : List Task → Disk × List Notice × Option FileError
  | [] => (d, [], none)
  | t :: ts =>
    match t.write d with
    | (d, some e) => (d, [], some e)
    | (d, none) =>
      let (d, log, e) := carryOut d ts
      (d, t.notice :: log, e)

def summary (g : Graph) : List Notice :=
  let s := g.statistics
  [.components s.tags, .relations s.kinds] ++
  (if s.unresolved.isEmpty then [] else [.unresolved s.unresolved]) ++
  (if s.uncovered.isEmpty then [] else [.uncovered s.uncovered])

def deliver (c : Config) (g : Graph) (r : Request) (d : Disk) (log : List Notice) : Outcome :=
  match carryOut d (tasks c g r) with
  | (d, notices, none) => ⟨0, Dot.render c g, "", d, log ++ notices ++ summary g⟩
  | (d, notices, some e) =>
    ⟨1, Dot.render c g, s!"error: cannot write results: {e.message}\n", d, log ++ notices⟩

def analyze (c : Config) (r : Request) (d : Disk) : Outcome :=
  match Project.analyze c d (Path.ofString r.path) with
  | (.error e, log) => ⟨1, "", s!"error: {e.message}\n", d, log ++ [.refused e.message]⟩
  | (.ok g, log) => deliver c g r d log

def perform (r : Request) (d : Disk) : Outcome :=
  match configOf r with
  | .error e => ⟨2, "", s!"error: {e.message}\n", d, [.refused e.message]⟩
  | .ok c => analyze c r d

def run (arguments : List String) (setting : Option String) (d : Disk) : Outcome :=
  match read arguments with
  | .error .help => ⟨0, help, "", d, []⟩
  | .error (.refused r) => ⟨2, "", usage ++ s!"{program}: error: {r.message}\n", d, []⟩
  | .ok r =>
    let o := perform r d
    { o with log := logged (logLevel r.verbose setting) o.log }

end Wiring.Command
