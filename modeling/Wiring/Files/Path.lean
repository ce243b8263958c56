namespace Wiring.Files

/-- The anchor is empty for a relative path, else one slash, or two if exactly two start the
path. -/
structure Path where
  anchor : String
  segments : List String
  deriving DecidableEq, Repr

namespace Path

def leadingSlashes (s : String) : Nat := (s.toList.takeWhile (· == '/')).length

def ofString (s : String) : Path where
  anchor := match leadingSlashes s with
    | 0 => ""
    | 2 => "//"
    | _ => "/"
  segments := (s.splitOn "/").filter (fun t => t != "" && t != ".")

def isAbsolute (p : Path) : Bool := !p.anchor.isEmpty

def render (p : Path) : String :=
  if p.anchor.isEmpty && p.segments.isEmpty then "."
  else p.anchor ++ "/".intercalate p.segments

def child (p : Path) (name : String) : Path := { p with segments := p.segments ++ [name] }

def parent (p : Path) : Path := { p with segments := p.segments.dropLast }

def name (p : Path) : String := p.segments.getLast?.getD ""

end Path

end Wiring.Files
