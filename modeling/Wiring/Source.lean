import Wiring.Java.Outline
import Wiring.Java.Walk
import Wiring.Text.CodePoint

namespace Wiring

open Java (Finding)

/-- A package that is not empty wins over the one the text declares. -/
structure Source where
  path : String
  package : String
  text : List Text.CodePoint

structure ScanError where
  path : String
  cause : Text.Unencodable
  deriving DecidableEq, Repr

def ScanError.message (e : ScanError) : String := s!"Cannot scan {e.path}: {e.cause.message}"

structure Scanned where
  path : String
  package : String
  damaged : Bool
  findings : List Finding

namespace Scanned

def declarations (s : Scanned) : List Declaration := s.findings.filterMap Finding.declaration?

def opening (s : Scanned) : List Notice := if s.damaged then [.damagedSource s.path] else []

def notices (s : Scanned) : List Notice := s.opening ++ s.findings.filterMap Finding.notice?

def classifiedNotices (s : Scanned) : List Notice :=
  s.opening ++ s.findings.flatMap (fun f =>
    match f with
    | .declared d => d.notices
    | .noticed n => [n])

def entities (c : Config) (s : Scanned) : List Entity :=
  s.declarations.flatMap (Declaration.entities c)

end Scanned

namespace Source

def scanUnit (path package : String) (u : Java.Unit) : Scanned :=
  let package := if package.isEmpty then String.ofList u.package else package
  ⟨path, package, u.damaged, u.findings path package⟩

def scan (s : Source) : Except ScanError Scanned :=
  match Text.encode s.text with
  | .ok text => .ok (scanUnit s.path s.package (Java.Unit.ofText text))
  | .error cause => .error ⟨s.path, cause⟩

end Source

end Wiring
