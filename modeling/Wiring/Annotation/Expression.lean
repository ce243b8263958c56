import Wiring.Annotation.Basic
import Wiring.Annotation.Lexeme

namespace Wiring.Annotation

open Wiring.Text

def closer? : Char → Option Char
  | '(' => some ')'
  | '[' => some ']'
  | '{' => some '}'
  | _ => none

def isStop (c : Char) : Bool := c == ',' || c == ')' || c == '}'

def isCloser (c : Char) : Bool := c == ')' || c == ']' || c == '}'

def addFront (t : List Char) : List (List Char) → List (List Char)
  | [] => [t]
  | p :: ps => (t ++ p) :: ps

/-- The pieces between the comments of an expression, and the text after it. The first argument
holds the closers of the brackets that are open, innermost first. -/
def pieces (closers : List Char) : List Char → Except Fault (List (List Char) × List Char)
  | [] =>
    match closers with
    | [] => .ok ([[]], [])
    | q :: _ => .error (.missingCloser q)
  | c :: r =>
    match _h : comment? (c :: r) with
    | some (.error e) => .error e
    | some (.ok rest) => (pieces closers rest).map (fun p => ([] :: p.1, p.2))
    | none =>
      if c == '"' || c == '\'' then
        match _hl : literalBody? c r with
        | none => .error .openLiteral
        | some (body, rest) => (pieces closers rest).map (fun p => (addFront (c :: body) p.1, p.2))
      else match closer? c with
        | some q => (pieces (q :: closers) r).map (fun p => (addFront [c] p.1, p.2))
        | none =>
          -- the closer of an open bracket is looked for before the end of the value
          if closers.head? = some c then
            (pieces closers.tail r).map (fun p => (addFront [c] p.1, p.2))
          else if closers.isEmpty && isStop c then .ok ([[]], c :: r)
          else if isCloser c then .error (.unbalanced c)
          else (pieces closers r).map (fun p => (addFront [c] p.1, p.2))
termination_by s => s.length
decreasing_by
  · exact comment?_shorter _h
  · have := literalBody?_shorter _hl
    simp only [List.length_cons]; omega
  all_goals simp

def joinPieces (ps : List (List Char)) : List Char :=
  [' '].intercalate ((ps.map trim).filter (fun p => !p.isEmpty))

def keywords : List String := ["true", "false", "null"]

def classify (e : List Char) : Value :=
  match dottedName? e with
  | some (segs, []) =>
    if 2 ≤ segs.length && segs.getLast? == some "class".toList then
      .reference (joinDots segs.dropLast) true
    else if keywords.contains (String.ofList e) then .literal (String.ofList e)
    else .reference (joinDots segs) false
  | _ => .literal (String.ofList e)

structure Step (s : List Char) where
  value : Value
  rest : List Char
  shorter : rest.length < s.length

theorem map_pieces_eq_ok {closers s t : List Char} {f : List (List Char) → List (List Char)}
    {ps : List (List Char)} {r : List Char}
    (h : (pieces closers t).map (fun p => (f p.1, p.2)) = .ok (ps, r))
    (ih : ∀ ps r, pieces closers t = .ok (ps, r) → r.length < t.length ∨ ps = [[]] ∧ r = t)
    (ht : t.length < s.length) : r.length < s.length := by
  cases hp : pieces closers t with
  | error e => simp [hp, Except.map] at h
  | ok p =>
    simp only [hp, Except.map, Except.ok.injEq, Prod.mk.injEq] at h
    have := ih p.1 p.2 hp
    rw [← h.2]
    rcases this with h₁ | ⟨_, h₁⟩
    · omega
    · rw [h₁]; exact ht

theorem pieces_shorter {closers s : List Char} {ps : List (List Char)} {r : List Char}
    (h : pieces closers s = .ok (ps, r)) : r.length < s.length ∨ ps = [[]] ∧ r = s := by
  fun_induction pieces closers s generalizing ps r with
  | case1 => simp_all
  | case2 => cases h
  | case3 => cases h
  | case4 closers c t rest hc ih =>
    exact .inl (map_pieces_eq_ok h (fun _ _ => ih) (comment?_shorter hc))
  | case5 => cases h
  | case6 closers c t hc hq body rest hl ih =>
    have := literalBody?_shorter hl
    exact .inl (map_pieces_eq_ok h (fun _ _ => ih) (by simp only [List.length_cons]; omega))
  | case7 closers c t hc hq q hq' ih => exact .inl (map_pieces_eq_ok h (fun _ _ => ih) (by simp))
  | case8 closers c t hc hq hq' hh ih => exact .inl (map_pieces_eq_ok h (fun _ _ => ih) (by simp))
  | case9 closers c t => simp only [Except.ok.injEq, Prod.mk.injEq] at h; simp [h]
  | case10 => cases h
  | case11 closers c t hc hq hq' hh hs hk ih =>
    exact .inl (map_pieces_eq_ok h (fun _ _ => ih) (by simp))

theorem joinPieces_empty : joinPieces [[]] = [] := rfl

def expression (s : List Char) : Except Fault (Step s) :=
  match h : pieces [] s with
  | .error e => .error e
  | .ok (ps, r) =>
    if he : joinPieces ps = [] then .error .missingValue
    else .ok ⟨classify (joinPieces ps), r, (pieces_shorter h).resolve_right
      (fun hp => he (hp.1 ▸ joinPieces_empty))⟩

end Wiring.Annotation
