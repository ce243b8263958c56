import Wiring.Annotation.Expression

/-!
Reading an annotation from its source text, such as `@Import({A.class, B.class})`. A value in
braces is a list, a string that makes up a whole value is a string, and any other value is an
expression.
-/

namespace Wiring.Annotation

open Wiring.Text

def endsValue : List Char → Bool
  | [] => true
  | c :: _ => isStop c

def Step.cast {s t : List Char} (st : Step t) (h : t.length ≤ s.length) : Step s :=
  ⟨st.value, st.rest, Nat.lt_of_lt_of_le st.shorter h⟩

structure ListStep (s : List Char) where
  items : List Value
  rest : List Char
  shorter : rest.length < s.length

mutual

def value (s : List Char) : Except Fault (Step s) :=
  match h : skipLayout s with
  | .error e => .error e
  | .ok [] => .error .missingValue
  | .ok (c :: r) =>
    if c = '{' then
      match items r with
      | .error e => .error e
      | .ok l => .ok ⟨.list l.items, l.rest, by
          have := skipLayout_le h; have := l.shorter; simp only [List.length_cons] at *; omega⟩
    else if c = '"' then
      match hl : stringLiteral (c :: r) with
      | .error e => .error e
      | .ok (v, rest) =>
        match skipLayout rest with
        | .error e => .error e
        | .ok after =>
          if endsValue after then .ok ⟨.string (String.ofList v), rest, by
            have := skipLayout_le h; have := stringLiteral_shorter hl; omega⟩
          -- more than a string: all of it is read again, as an expression
          else (expression (c :: r)).map (fun st => st.cast (skipLayout_le h))
    else (expression (c :: r)).map (fun st => st.cast (skipLayout_le h))
termination_by (s.length, 0)
decreasing_by
  have := skipLayout_le h
  simp only [List.length_cons] at this
  exact Prod.Lex.left _ _ (by omega)

def items (s : List Char) : Except Fault (ListStep s) :=
  match h : skipLayout s with
  | .error e => .error e
  | .ok [] => .error .missingBrace
  | .ok (c :: r) =>
    if c = '}' then .ok ⟨[], r, by
      have := skipLayout_le h; simp only [List.length_cons] at this; omega⟩
    else
      match value (c :: r) with
      | .error e => .error e
      | .ok st =>
        match hr : skipLayout st.rest with
        | .error e => .error e
        | .ok [] => .error .missingBrace
        | .ok (d :: rest) =>
          if d = ',' then
            match items rest with
            | .error e => .error e
            | .ok l => .ok ⟨st.value :: l.items, l.rest, by
                have := skipLayout_le h; have := skipLayout_le hr; have := st.shorter
                have := l.shorter; simp only [List.length_cons] at *; omega⟩
          else if d = '}' then .ok ⟨[st.value], rest, by
            have := skipLayout_le h; have := skipLayout_le hr; have := st.shorter
            simp only [List.length_cons] at *; omega⟩
          else .error (.betweenItems (d :: rest))
termination_by (s.length, 1)
decreasing_by
  · have := skipLayout_le h
    rcases Nat.lt_or_eq_of_le this with h₁ | h₁
    · exact Prod.Lex.left _ _ h₁
    · rw [h₁]; exact Prod.Lex.right _ (by omega)
  · have := skipLayout_le h; have := skipLayout_le hr; have := st.shorter
    simp only [List.length_cons] at *
    exact Prod.Lex.left _ _ (by omega)

end

def key? (s : List Char) : Option (List Char × List Char) :=
  match segment? s with
  | none => none
  | some (k, r) =>
    match r.dropWhile isBlank with
    | '=' :: rest => if rest.head? = some '=' then none else some (k, rest)
    | _ => none

theorem key?_shorter {s k r : List Char} (h : key? s = some (k, r)) : r.length < s.length := by
  simp only [key?] at h
  split at h
  · cases h
  · next k' t ht =>
    have h₁ := segment?_shorter ht
    have h₂ := length_dropWhile_le isBlank t
    split at h
    · next u hu =>
      split at h
      · cases h
      · simp only [Option.some.injEq, Prod.mk.injEq] at h
        rw [hu] at h₂
        simp only [List.length_cons] at h₂
        rw [← h.2]; omega
    · cases h

def argument (s : List Char) : Except Fault (Option (List Char) × Step s) :=
  match h : key? s with
  | none => (value s).map (fun st => (none, st))
  | some (k, r) => (value r).map (fun st => (some k, st.cast (Nat.le_of_lt (key?_shorter h))))

structure Arguments where
  positional : List Value
  named : List (String × Value)

def Arguments.add (k : Option (List Char)) (v : Value) (a : Arguments) : Arguments :=
  match k with
  | none => { a with positional := v :: a.positional }
  | some k => { a with named := (String.ofList k, v) :: a.named }

def arguments (s : List Char) : Except Fault (Arguments × List Char) :=
  match _hs : skipLayout s with
  | .error e => .error e
  | .ok s₁ =>
    match argument s₁ with
    | .error e => .error e
    | .ok (k, st) =>
      match _hr : skipLayout st.rest with
      | .error e => .error e
      | .ok [] => .error .missingParenthesis
      | .ok (c :: r) =>
        if c = ')' then .ok (Arguments.add k st.value ⟨[], []⟩, r)
        else if c = ',' then (arguments r).map (fun p => (p.1.add k st.value, p.2))
        else .error (.betweenArguments (c :: r))
termination_by s.length
decreasing_by
  have := skipLayout_le _hs; have := skipLayout_le _hr; have := st.shorter
  simp only [List.length_cons] at *; omega

def argumentList (s : List Char) : Except Fault (Arguments × List Char) :=
  match skipLayout s with
  | .error e => .error e
  | .ok (')' :: r) => .ok (⟨[], []⟩, r)
  | .ok r => arguments r

def ofTrimmed (s : List Char) : Except Fault Annotation :=
  match s with
  | '@' :: r =>
    match dottedName? (r.dropWhile isBlank) with
    | none => .error .noName
    | some (segs, rest) => do
      match ← skipLayout rest with
      | [] => return ⟨joinDots segs, [], []⟩
      | '(' :: r =>
        let (args, rest) ← argumentList r
        match ← skipLayout rest with
        | [] => return ⟨joinDots segs, args.positional, args.named⟩
        | rest => throw (.trailing rest)
      | c :: _ => throw (.afterName c)
  | _ => .error .noName

def read (s : List Char) : Except Malformed Annotation :=
  match ofTrimmed (trim s) with
  | .ok a => .ok a
  | .error fault => .error ⟨trim s, fault⟩

def readAll (tokens : List (List Char)) : Except Malformed (List Annotation) := tokens.mapM read

end Wiring.Annotation
