import Wiring.Annotation.Fault
import Wiring.Java.Unit
import Wiring.Stereotype

namespace Wiring

inductive Level where
  | debug
  | info
  | warning
  | error
  | critical
  deriving DecidableEq, Repr

namespace Level

def name : Level → String
  | debug => "DEBUG"
  | info => "INFO"
  | warning => "WARNING"
  | error => "ERROR"
  | critical => "CRITICAL"

def rank : Level → Nat
  | debug => 1
  | info => 2
  | warning => 3
  | error => 4
  | critical => 5

def all : List Level := [debug, info, warning, error, critical]

def ofName? (s : String) : Option Level := all.find? (fun l => l.name == s)

end Level

abbrev Counts := List (String × Nat)

namespace Counts

def add (counts : Counts) (name : String) : Counts :=
  if counts.any (fun p => p.1 == name) then
    counts.map (fun p => if p.1 == name then (p.1, p.2 + 1) else p)
  else counts ++ [(name, 1)]

def ofNames (names : List String) : Counts := names.foldl add []

def shown (counts : Counts) : String :=
  "\x7b" ++ ", ".intercalate
    (counts.map (fun p => Text.quoted p.1.toList ++ ": " ++ toString p.2)) ++ "\x7d"

end Counts

inductive Notice where
  | damagedSource (path : String)
  | namelessType (path : String) (line : Nat) (kind : Java.TypeKind)
  | skippedType (path : String) (line : Nat) (name : String) (cause : Annotation.Malformed)
  | skippedMember (path : String) (line : Nat) (kind : Java.MemberKind) (className : String)
      (cause : Annotation.Malformed)
  | unscannableSource (reason : String)
  | noReturnType (className method : String)
  | unknownScanClass (name className : String)
  | classified (path : String) (count : Nat)
  | applying (count : Nat) (path : String)
  | twoPackages (className first second : String)
  | stereotypeRaised (className : String) (new old : Stereotype)
  | projectStarted (root : String)
  | filesFound (count : Nat)
  | noFiles
  | graphBuilt (nodes edges : Nat)
  | resultsExported (directory : String)
  | pageExported (path : String)
  | refused (reason : String)
  | components (tags : Counts)
  | relations (kinds : Counts)
  | unresolved (names : List String)
  | uncovered (names : List String)
  deriving DecidableEq, Repr

namespace Notice

def level : Notice → Level
  | damagedSource .. | skippedType .. | skippedMember .. | unscannableSource .. | twoPackages ..
  | noFiles => .warning
  | namelessType .. | noReturnType .. | unknownScanClass .. | classified .. | applying ..
  | stereotypeRaised .. => .debug
  | projectStarted .. | filesFound .. | graphBuilt .. | resultsExported .. | pageExported ..
  | components .. | relations .. | unresolved .. | uncovered .. => .info
  | refused .. => .error

def message : Notice → String
  | damagedSource path => s!"Syntax errors in {path}; damaged declarations are skipped"
  | namelessType path line kind => s!"{path}:{line}: {kind.name} without a name"
  | skippedType path line name cause => s!"{path}:{line}: skipping class {name}: {cause.message}"
  | skippedMember path line kind className cause =>
    s!"{path}:{line}: skipping {kind.name} in {className}: {cause.message}"
  | unscannableSource reason => reason
  | noReturnType className method =>
    s!"Ignoring @Bean method {className}.{method} without a return type"
  | unknownScanClass name className =>
    s!"Cannot resolve package of {name} in @ComponentScan on {className}"
  | classified path count => s!"{path}: {count} entities"
  | applying count path => s!"Applying {count} entities from {path}"
  | twoPackages className first second =>
    s!"{className} is declared in {first} and {second}; both map to one node"
  | stereotypeRaised className new old => s!"{className}: {new.label} overrides {old.label}"
  | projectStarted root => s!"Starting to parse Java project at {root}"
  | filesFound count => s!"Found {count} Java files"
  | noFiles => "No Java files found"
  | graphBuilt nodes edges => s!"Built component graph with {nodes} nodes and {edges} edges"
  | resultsExported directory => s!"Exported results to {directory}"
  | pageExported path => s!"Exported component graph to {path}"
  | refused reason => reason
  | components tags => "Components: " ++ tags.shown
  | relations kinds => "Relations: " ++ kinds.shown
  | unresolved names => "Unresolved classes: " ++ ", ".intercalate names
  | uncovered names => "Components outside every component scan: " ++ ", ".intercalate names

end Notice

def Notice.fromLevel (least : Level) (log : List Notice) : List Notice :=
  log.filter (fun n => least.rank ≤ n.level.rank)

end Wiring
