import Mathlib.Data.List.Basic

/-!
A reader of DOT documents: the text is cut into tokens, and the tokens are read as statements.
White space and comments separate tokens. An identifier is a bare word that is no keyword, or any
text in quotes, where a quote and a backslash are written with a backslash before them.
-/

namespace Wiring.Dot

inductive Token where
  | id (name : String)
  | keyword (name : String)
  | mark (c : Char)
  | arrow
  deriving DecidableEq, Repr

def isWhite (c : Char) : Bool := c == ' ' || c == '\t' || c == '\n' || c == '\r'

def isLetter (c : Char) : Bool := ('a' ≤ c && c ≤ 'z') || ('A' ≤ c && c ≤ 'Z') || c == '_'

def isWordPart (c : Char) : Bool := isLetter c || ('0' ≤ c && c ≤ '9')

def marks : List Char := ['{', '}', '[', ']', '=', ';', ',']

def keywords : List String := ["node", "edge", "graph", "digraph", "subgraph", "strict"]

def word (w : List Char) : Token :=
  let small := String.ofList (w.map Char.toLower)
  if small ∈ keywords then .keyword small else .id (String.ofList w)

def unquote? : List Char → Option (List Char × List Char)
  | [] => none
  | '"' :: r => some ([], r)
  | '\\' :: '"' :: r => (unquote? r).map (fun p => ('"' :: p.1, p.2))
  | '\\' :: '\\' :: r => (unquote? r).map (fun p => ('\\' :: p.1, p.2))
  | c :: r => (unquote? r).map (fun p => (c :: p.1, p.2))

theorem unquote?_shorter {s t r : List Char} (h : unquote? s = some (t, r)) :
    r.length < s.length := by
  fun_induction unquote? s generalizing t with
  | case1 => cases h
  | case2 r' =>
    cases h
    exact Nat.lt_succ_self _
  | case3 s ih | case4 s ih | case5 c s _ _ _ ih =>
    obtain ⟨p, hp, he⟩ := Option.map_eq_some_iff.mp h
    cases he
    have := ih hp
    simp only [List.length_cons]
    omega

/-- The tokens of a text; there are none if a character belongs to no token. -/
def tokens (s : List Char) : Option (List Token) :=
  match s with
  | [] => some []
  | c :: r =>
    if isWhite c then tokens r
    else if isLetter c then
      (tokens (r.dropWhile isWordPart)).map (word (c :: r.takeWhile isWordPart) :: ·)
    else if c ∈ marks then (tokens r).map (.mark c :: ·)
    else if c = '"' then
      match _h : unquote? r with
      | none => none
      | some (name, rest) => (tokens rest).map (.id (String.ofList name) :: ·)
    else if c = '-' then
      if r.head? = some '>' then (tokens r.tail).map (.arrow :: ·) else none
    else if c = '/' then
      if r.head? = some '/' then tokens (r.tail.dropWhile (· ≠ '\n')) else none
    else none
termination_by s.length
decreasing_by
  · exact Nat.lt_succ_self _
  · exact Nat.lt_succ_of_le (List.dropWhile_suffix _).length_le
  · exact Nat.lt_succ_self _
  · exact Nat.lt_succ_of_lt (unquote?_shorter _h)
  · exact Nat.lt_succ_of_le (List.tail_suffix r).length_le
  · exact Nat.lt_succ_of_le ((List.dropWhile_suffix _).trans (List.tail_suffix r)).length_le

abbrev Attributes := List (String × String)

inductive Statement where
  | node (id : String) (attributes : Attributes)
  | edge (source target : String) (attributes : Attributes)
  deriving DecidableEq, Repr

structure Document where
  name : String
  statements : List Statement
  deriving DecidableEq, Repr

def attributes? : List Token → Option (Attributes × List Token)
  | .mark ']' :: ts => some ([], ts)
  | .id key :: .mark '=' :: .id value :: .mark ',' :: ts =>
    (attributes? ts).map (fun p => ((key, value) :: p.1, p.2))
  | .id key :: .mark '=' :: .id value :: ts =>
    (attributes? ts).map (fun p => ((key, value) :: p.1, p.2))
  | _ => none

def bracketed? : List Token → Option (Attributes × List Token)
  | .mark '[' :: ts => attributes? ts
  | ts => some ([], ts)

def statement? : List Token → Option (Statement × List Token)
  | .id source :: .arrow :: .id target :: ts =>
    (bracketed? ts).map (fun p => (.edge source target p.1, p.2))
  | .id name :: ts => (bracketed? ts).map (fun p => (.node name p.1, p.2))
  | _ => none

theorem attributes?_shorter {ts rest : List Token} {as : Attributes}
    (h : attributes? ts = some (as, rest)) : rest.length < ts.length := by
  fun_induction attributes? ts generalizing as with
  | case1 ts =>
    cases h
    exact Nat.lt_succ_self _
  | case2 key value ts ih | case3 key value ts _ ih =>
    obtain ⟨p, hp, he⟩ := Option.map_eq_some_iff.mp h
    cases he
    have := ih hp
    simp only [List.length_cons]
    omega
  | case4 => cases h

theorem bracketed?_le {ts rest : List Token} {as : Attributes}
    (h : bracketed? ts = some (as, rest)) : rest.length ≤ ts.length := by
  unfold bracketed? at h
  split at h
  · have := attributes?_shorter h
    simp only [List.length_cons]
    omega
  · cases h
    exact Nat.le_refl _

theorem statement?_shorter {ts rest : List Token} {st : Statement}
    (h : statement? ts = some (st, rest)) : rest.length < ts.length := by
  revert h
  fun_cases statement? ts with
  | case1 source target ts | case2 name ts _ =>
    intro h
    obtain ⟨p, hp, he⟩ := Option.map_eq_some_iff.mp h
    cases he
    have := bracketed?_le hp
    simp only [List.length_cons]
    omega
  | case3 =>
    intro h
    cases h

def statements? (ts : List Token) : Option (List Statement) :=
  match ts with
  | .mark '}' :: rest => if rest = [] then some [] else none
  | .mark ';' :: rest => statements? rest
  | ts =>
    match _h : statement? ts with
    | none => none
    | some (st, rest) => (statements? rest).map (st :: ·)
termination_by ts.length
decreasing_by
  · exact Nat.lt_succ_self _
  · exact statement?_shorter _h

def document? : List Token → Option Document
  | .keyword "digraph" :: .id name :: .mark '{' :: ts => (statements? ts).map (⟨name, ·⟩)
  | _ => none

def read (s : String) : Option Document := (tokens s.toList).bind document?

end Wiring.Dot
