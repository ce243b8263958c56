namespace Wiring.Files.Glob

inductive Atom where
  | star
  | any
  | one (c : Char)
  | set (negated : Bool) (ranges : List (Char × Char))
  deriving DecidableEq, Repr

def setRanges : List Char → List (Char × Char)
  | a :: '-' :: b :: r => (a, b) :: setRanges r
  | c :: r => (c, c) :: setRanges r
  | [] => []

def setBody? (s : List Char) : Option (List Char × List Char) :=
  let (mark, s) := if s.head? = some '!' then (['!'], s.tail) else ([], s)
  let (first, s) := if s.head? = some ']' then ([']'], s.tail) else ([], s)
  match s.dropWhile (· ≠ ']') with
  | _ :: r => some (mark ++ first ++ s.takeWhile (· ≠ ']'), r)
  | [] => none

def atomsUpTo : Nat → List Char → List Atom
  | 0, _ => []
  | _, [] => []
  | n + 1, '*' :: r => .star :: atomsUpTo n r
  | n + 1, '?' :: r => .any :: atomsUpTo n r
  | n + 1, '[' :: r =>
    match setBody? r with
    | some ('!' :: body, rest) => .set true (setRanges body) :: atomsUpTo n rest
    | some (body, rest) => .set false (setRanges body) :: atomsUpTo n rest
    | none => .one '[' :: atomsUpTo n r
  | n + 1, c :: r => .one c :: atomsUpTo n r

def Atom.matchesChar (a : Atom) (c : Char) : Bool :=
  match a with
  | star | any => true
  | one d => c == d
  | set negated ranges => negated != ranges.any (fun r => r.1 ≤ c && c ≤ r.2)

def matchAtoms : List Atom → List Char → Bool
  | [], s => s.isEmpty
  | .star :: as, s => go as s
  | a :: as, c :: s => a.matchesChar c && matchAtoms as s
  | _ :: _, [] => false
where
  go (as : List Atom) : List Char → Bool
    | [] => matchAtoms as []
    | c :: s => matchAtoms as (c :: s) || go as s

end Wiring.Files.Glob
