import Wiring.Annotation.Reader

/-!
A reader of annotations that walks over the text by positions. Unlike the reader that is given what
is left of the text, a walk could ask for a character where there is none, step over the end of the
text, or go on for ever. So it is told how many steps it may take, one within the other.
-/

namespace Wiring.Annotation

open Wiring.Text

inductive Failure where
  | malformed (m : Malformed)
  | outside (pos : Nat)
  deriving DecidableEq, Repr

/-- A walk that has not ended when its steps are used up is `none`. -/
abbrev Walk := ExceptT Failure Option

def unfinished {α : Type} : Walk α := ExceptT.mk none

section Walks

variable (text : List Char)

def fail {α : Type} (f : Fault) : Walk α := throw (.malformed ⟨text, f⟩)

def charAt (pos : Nat) : Walk Char :=
  match text[pos]? with
  | some c => pure c
  | none => throw (.outside pos)

def slice (start stop : Nat) : List Char := (text.take stop).drop start

def startsWith (mark : List Char) (pos : Nat) : Bool := mark.isPrefixOf (text.drop pos)

def find? (mark : List Char) (pos : Nat) : Option Nat :=
  (List.range' pos (text.length - pos)).find? (startsWith text mark)

def atComment (pos : Nat) : Bool := startsWith text ['/', '/'] pos || startsWith text ['/', '*'] pos

def walkComment (pos : Nat) : Walk Nat :=
  if startsWith text ['/', '/'] pos then
    match find? text ['\n'] pos with
    | none => pure text.length
    | some stop => pure (stop + 1)
  else
    match find? text ['*', '/'] (pos + 2) with
    | none => fail text .openComment
    | some stop => pure (stop + 2)

def walkLayout : Nat → Nat → Walk Nat
  | 0, _ => unfinished
  | n + 1, pos => do
    if pos < text.length then
      if isBlank (← charAt text pos) then walkLayout n (pos + 1)
      else if atComment text pos then walkLayout n (← walkComment text pos)
      else pure pos
    else pure pos

def walkLiteralBody (mark : Char) : Nat → Nat → Walk Nat
  | 0, _ => unfinished
  | n + 1, pos => do
    if pos < text.length then
      let c ← charAt text pos
      if c = '\\' then walkLiteralBody mark n (pos + 2)
      else if c = mark then pure (pos + 1)
      else walkLiteralBody mark n (pos + 1)
    else fail text .openLiteral

def walkLiteral (n pos : Nat) : Walk Nat := do
  walkLiteralBody text (← charAt text pos) n (pos + 1)

def walkStringBody : Nat → List Char → Nat → Walk (List Char × Nat)
  | 0, _, _ => unfinished
  | n + 1, value, pos => do
    if pos < text.length then
      let c ← charAt text pos
      if c = '\\' ∧ pos + 1 < text.length then
        let d ← charAt text (pos + 1)
        walkStringBody n (value ++ [unescape d]) (pos + 2)
      else if c = '"' then pure (value, pos + 1)
      else walkStringBody n (value ++ [c]) (pos + 1)
    else fail text .openString

def walkString (n pos : Nat) : Walk (List Char × Nat) :=
  if startsWith text ['"', '"', '"'] pos then
    match find? text ['"', '"', '"'] (pos + 3) with
    | none => fail text .openTextBlock
    | some stop => pure (slice text (pos + 3) stop, stop + 3)
  else walkStringBody text n [] (pos + 1)

def endPieces (start : Nat) (done : List (List Char)) (closers : List Char) (pos : Nat) :
    Walk (List (List Char) × Nat) :=
  match closers with
  | q :: _ => fail text (.missingCloser q)
  | [] => pure (done ++ [slice text start pos], pos)

def walkPieces : Nat → Nat → List (List Char) → List Char → Nat → Walk (List (List Char) × Nat)
  | 0, _, _, _, _ => unfinished
  | n + 1, start, done, closers, pos => do
    if pos < text.length then
      let c ← charAt text pos
      if atComment text pos then
        let next ← walkComment text pos
        walkPieces n next (done ++ [slice text start pos]) closers next
      else if c = '"' ∨ c = '\'' then
        walkPieces n start done closers (← walkLiteral text n pos)
      else
        match closer? c with
        | some q => walkPieces n start done (q :: closers) (pos + 1)
        | none =>
          if closers.head? = some c then walkPieces n start done closers.tail (pos + 1)
          else if closers = [] ∧ isStop c then endPieces text start done closers pos
          else if isCloser c then fail text (.unbalanced c)
          else walkPieces n start done closers (pos + 1)
    else endPieces text start done closers pos

def walkExpression (n pos : Nat) : Walk (Value × Nat) := do
  let (ps, stop) ← walkPieces text n pos [] [] pos
  if joinPieces ps = [] then fail text .missingValue
  else pure (classify (joinPieces ps), stop)

def atValueEnd (n pos : Nat) : Walk Bool := do
  let pos ← walkLayout text n pos
  if text.length ≤ pos then pure true else pure (isStop (← charAt text pos))

mutual

def walkValue : Nat → Nat → Walk (Value × Nat)
  | 0, _ => unfinished
  | n + 1, pos => do
    let pos ← walkLayout text n pos
    if text.length ≤ pos then fail text .missingValue
    else
      let c ← charAt text pos
      if c = '{' then walkItems n [] (pos + 1)
      else if c = '"' then
        let (value, stop) ← walkString text n pos
        if ← atValueEnd text n stop then pure (.string (String.ofList value), stop)
        else walkExpression text n pos
      else walkExpression text n pos

def walkItems : Nat → List Value → Nat → Walk (Value × Nat)
  | 0, _, _ => unfinished
  | n + 1, done, pos => do
    let pos ← walkLayout text n pos
    if text.length ≤ pos then fail text .missingBrace
    else if (← charAt text pos) = '}' then pure (.list done, pos + 1)
    else
      let (v, pos) ← walkValue n pos
      let pos ← walkLayout text n pos
      if text.length ≤ pos then walkItems n (done ++ [v]) pos
      else
        let c ← charAt text pos
        if c = ',' then walkItems n (done ++ [v]) (pos + 1)
        else if c = '}' then walkItems n (done ++ [v]) pos
        else fail text (.betweenItems (text.drop pos))

end

def keyAt? (pos : Nat) : Option (List Char × Nat) :=
  (key? (text.drop pos)).map (fun p => (p.1, text.length - p.2.length))

def Arguments.append (as bs : Arguments) : Arguments :=
  ⟨as.positional ++ bs.positional, as.named ++ bs.named⟩

def walkArgument (n pos : Nat) : Walk (Arguments × Nat) := do
  match keyAt? text pos with
  | some (key, stop) =>
    let (v, stop) ← walkValue text n (← walkLayout text n stop)
    pure (⟨[], [(String.ofList key, v)]⟩, stop)
  | none =>
    let (v, stop) ← walkValue text n pos
    pure (⟨[v], []⟩, stop)

def walkArguments : Nat → Arguments → Nat → Walk (Arguments × Nat)
  | 0, _, _ => unfinished
  | n + 1, done, pos => do
    let pos ← walkLayout text n pos
    let (argument, pos) ← walkArgument text n pos
    let done := done.append argument
    let pos ← walkLayout text n pos
    if text.length ≤ pos then fail text .missingParenthesis
    else
      let c ← charAt text pos
      if c = ')' then pure (done, pos + 1)
      else if c = ',' then walkArguments n done (pos + 1)
      else fail text (.betweenArguments (text.drop pos))

def walkArgumentList (n pos : Nat) : Walk (Arguments × Nat) := do
  let pos ← walkLayout text n pos
  if pos < text.length then
    if (← charAt text pos) = ')' then pure (⟨[], []⟩, pos + 1)
    else walkArguments text n ⟨[], []⟩ pos
  else walkArguments text n ⟨[], []⟩ pos

def nameAt? : Option (List (List Char) × Nat) :=
  match text with
  | '@' :: r =>
    (dottedName? (r.dropWhile isBlank)).map (fun p => (p.1, text.length - p.2.length))
  | _ => none

def walkTrimmed (n : Nat) : Walk Annotation :=
  match nameAt? text with
  | none => fail text .noName
  | some (segs, stop) => do
    let pos ← walkLayout text n stop
    if pos = text.length then pure ⟨joinDots segs, [], []⟩
    else
      let c ← charAt text pos
      if c = '(' then
        let (args, pos) ← walkArgumentList text n (pos + 1)
        let pos ← walkLayout text n pos
        if pos = text.length then pure ⟨joinDots segs, args.positional, args.named⟩
        else fail text (.trailing (text.drop pos))
      else fail text (.afterName c)

end Walks

def walk (n : Nat) (s : List Char) : Walk Annotation := walkTrimmed (trim s) n

end Wiring.Annotation
