import Wiring.Annotation.Reader

namespace Wiring.Annotation

open Wiring.Text

def Step.answer {s : List Char} (st : Step s) : Value × List Char := (st.value, st.rest)

def ListStep.answer {s : List Char} (k : ListStep s) : List Value × List Char := (k.items, k.rest)

def readExpression (s : List Char) : Except Fault (Value × List Char) :=
  (expression s).map Step.answer

def readValue (s : List Char) : Except Fault (Value × List Char) := (value s).map Step.answer

def readItems (s : List Char) : Except Fault (List Value × List Char) :=
  (items s).map ListStep.answer

def readArgument (s : List Char) : Except Fault (Option (List Char) × Value × List Char) :=
  (argument s).map (fun p => (p.1, p.2.answer))

theorem map_cast {s t : List Char} (x : Except Fault (Step t)) (h : t.length ≤ s.length) :
    (x.map (fun st => st.cast h)).map Step.answer = x.map Step.answer := by
  cases x with
  | error e => rfl
  | ok st => rfl

theorem readExpression_eq (s : List Char) :
    readExpression s = match pieces [] s with
      | .error e => .error e
      | .ok (ps, r) =>
        if joinPieces ps = [] then .error .missingValue else .ok (classify (joinPieces ps), r) := by
  rw [readExpression, expression]
  split
  · next e h => simp only [h]; rfl
  · next ps r h =>
    simp only [h]
    split
    · rfl
    · rfl

theorem readValue_eq (s : List Char) :
    readValue s = match skipLayout s with
      | .error e => .error e
      | .ok [] => .error .missingValue
      | .ok (c :: r) =>
        if c = '{' then (readItems r).map (fun p => (.list p.1, p.2))
        else if c = '"' then
          match stringLiteral (c :: r) with
          | .error e => .error e
          | .ok (v, rest) =>
            match skipLayout rest with
            | .error e => .error e
            | .ok after =>
              if endsValue after then .ok (.string (String.ofList v), rest)
              else readExpression (c :: r)
        else readExpression (c :: r) := by
  rw [readValue, value]
  split
  · next e h => simp only [h]; rfl
  · next h => simp only [h]; rfl
  · next c r h =>
    simp only [h]
    split
    · rw [readItems]
      cases items r with
      | error e => rfl
      | ok k => rfl
    · split
      · split
        · next e hl => simp only [hl]; rfl
        · next v rest hl =>
          simp only [hl]
          cases skipLayout rest with
          | error e => rfl
          | ok after =>
            dsimp only
            split
            · rfl
            · exact map_cast _ _
      · exact map_cast _ _

theorem readItems_eq (s : List Char) :
    readItems s = match skipLayout s with
      | .error e => .error e
      | .ok [] => .error .missingBrace
      | .ok (c :: r) =>
        if c = '}' then .ok ([], r)
        else
          match readValue (c :: r) with
          | .error e => .error e
          | .ok (v, after) =>
            match skipLayout after with
            | .error e => .error e
            | .ok [] => .error .missingBrace
            | .ok (d :: rest) =>
              if d = ',' then (readItems rest).map (fun p => (v :: p.1, p.2))
              else if d = '}' then .ok ([v], rest)
              else .error (.betweenItems (d :: rest)) := by
  rw [readItems, items]
  split
  · next e h => simp only [h]; rfl
  · next h => simp only [h]; rfl
  · next c r h =>
    simp only [h]
    split
    · rfl
    · rw [readValue]
      cases value (c :: r) with
      | error e => rfl
      | ok st =>
        rw [show (Except.ok st).map Step.answer = .ok (st.value, st.rest) from rfl]
        dsimp only
        split
        · next e hr => simp only [hr]; rfl
        · next hr => simp only [hr]; rfl
        · next d rest hr =>
          simp only [hr]
          split
          · rw [readItems]
            cases items rest with
            | error e => rfl
            | ok k => rfl
          · split
            · rfl
            · rfl

theorem readArgument_eq (s : List Char) :
    readArgument s = match key? s with
      | none => (readValue s).map (fun p => (none, p))
      | some (k, r) => (readValue r).map (fun p => (some k, p)) := by
  rw [readArgument, argument]
  split
  · next h =>
    simp only [h, readValue]
    cases value s with
    | error e => rfl
    | ok st => rfl
  · next k r h =>
    simp only [h, readValue]
    cases value r with
    | error e => rfl
    | ok st => rfl

theorem arguments_eq (s : List Char) :
    arguments s = match skipLayout s with
      | .error e => .error e
      | .ok u =>
        match readArgument u with
        | .error e => .error e
        | .ok (k, v, after) =>
          match skipLayout after with
          | .error e => .error e
          | .ok [] => .error .missingParenthesis
          | .ok (c :: r) =>
            if c = ')' then .ok (Arguments.add k v ⟨[], []⟩, r)
            else if c = ',' then (arguments r).map (fun p => (p.1.add k v, p.2))
            else .error (.betweenArguments (c :: r)) := by
  rw [arguments]
  split
  · next e h => simp only [h]
  · next u h =>
    simp only [h, readArgument]
    cases argument u with
    | error e => rfl
    | ok p =>
      obtain ⟨k, st⟩ := p
      dsimp only [Except.map, Step.answer]
      split
      · next e hr => simp only [hr]
      · next hr => simp only [hr]
      · next c r hr => simp only [hr]

end Wiring.Annotation
