import Wiring.Config
import Wiring.Text.Integer
import Wiring.Text.Quoted

/-!
The arguments of the command line. Options may stand anywhere before `--`, long options may be
shortened as long as they stay distinct, and short options may be joined.
-/

namespace Wiring.Command

open Wiring.Text

inductive Switch where
  | help
  | features
  | output
  | html
  | workers
  | verbose
  deriving DecidableEq, Repr

namespace Switch

def spellings : Switch → List String
  | help => ["-h", "--help"]
  | features => ["-f", "--features"]
  | output => ["-o", "--output"]
  | html => ["--html"]
  | workers => ["-w", "--workers"]
  | verbose => ["-v", "--verbose"]

def all : List Switch := [help, features, output, html, workers, verbose]

def takesValue : Switch → Bool
  | help | verbose => false
  | features | output | html | workers => true

def table : List (String × Switch) := all.flatMap (fun s => s.spellings.map (fun t => (t, s)))

def ofSpelling? (s : String) : Option Switch := (table.find? (fun p => p.1 == s)).map (·.2)

def shown (s : Switch) : String := "/".intercalate s.spellings

end Switch

inductive Refusal where
  | expectedValue (s : Switch)
  | unexpectedValue (s : Switch) (value : String)
  | noInteger (s : Switch) (value : String)
  | ambiguous (argument : String) (candidates : List String)
  | noPath
  | unrecognized (arguments : List String)
  deriving DecidableEq, Repr

def Refusal.message : Refusal → String
  | expectedValue s => s!"argument {s.shown}: expected one argument"
  | unexpectedValue s value =>
    s!"argument {s.shown}: ignored explicit argument {quoted value.toList}"
  | noInteger s value => s!"argument {s.shown}: invalid int value: {quoted value.toList}"
  | ambiguous argument candidates =>
    s!"ambiguous option: {argument} could match " ++ ", ".intercalate candidates
  | noPath => "the following arguments are required: path"
  | unrecognized arguments => "unrecognized arguments: " ++ " ".intercalate arguments

/-- A switch as it stands on the command line: its spelling, and the value joined to it with the
sign between them, `=` or nothing. -/
structure Spelled where
  switch : Switch
  spelling : String
  joined : Option (String × String)
  deriving DecidableEq, Repr

inductive Word where
  | plain (text : String)
  | separator
  | switch (text : String) (s : Spelled)
  | unknown (text : String)
  deriving DecidableEq, Repr

namespace Word

def text : Word → String
  | plain t => t
  | separator => "--"
  | switch t _ => t
  | unknown t => t

def isNegativeNumber (s : List Char) : Bool :=
  let isDigit (c : Char) : Bool := (digitValue? c).isSome
  match (if s.getLast? = some '\n' then s.dropLast else s) with
  | '-' :: r =>
    let fraction := r.dropWhile isDigit
    match fraction with
    | [] => !r.isEmpty
    | '.' :: d => !d.isEmpty && d.all isDigit
    | _ => false
  | _ => false

def splitEquals (s : List Char) : String × Option String :=
  (String.ofList (s.takeWhile (· ≠ '=')),
    match s.dropWhile (· ≠ '=') with
    | _ :: r => some (String.ofList r)
    | [] => none)

def candidates (s : List Char) : List Spelled :=
  match s with
  | '-' :: '-' :: _ =>
    let (front, value) := splitEquals s
    (Switch.table.filter (fun p => front.toList.isPrefixOf p.1.toList)).map
      (fun p => ⟨p.2, p.1, value.map (fun v => ("=", v))⟩)
  | '-' :: c :: r =>
    ((Switch.ofSpelling? (String.ofList ['-', c])).map
      (fun w => (⟨w, String.ofList ['-', c], some ("", String.ofList r)⟩ : Spelled))).toList
  | _ => []

def classify (s : String) : Except Refusal Word :=
  if s.toList.head? ≠ some '-' then .ok (.plain s)
  else match Switch.ofSpelling? s with
    | some w => .ok (.switch s ⟨w, s, none⟩)
    | none =>
      if s = "-" then .ok (.plain s)
      else
        let (front, value) := splitEquals s.toList
        match value, Switch.ofSpelling? front with
        | some v, some w => .ok (.switch s ⟨w, front, some ("=", v)⟩)
        | _, _ =>
          match candidates s.toList with
          | [c] => .ok (.switch s c)
          | [] =>
            if isNegativeNumber s.toList || s.toList.contains ' ' then .ok (.plain s)
            else .ok (.unknown s)
          | cs => .error (.ambiguous s (cs.map (·.spelling)))

def classifyAll : List String → Except Refusal (List Word)
  | [] => .ok []
  | s :: rest =>
    if s = "--" then .ok (.separator :: rest.map .plain)
    else do
      let w ← classify s
      return w :: (← classifyAll rest)

def isSwitch : Word → Bool
  | switch .. | unknown _ => true
  | plain _ | separator => false

end Word

structure Request where
  path : String
  features : String
  output : Option String
  html : Option String
  workers : Int
  verbose : Bool
  deriving DecidableEq, Repr

structure Partly where
  path : Option String
  request : Request
  extras : List String

def defaultFeatures : String := ",".intercalate (Config.default.features.map Feature.name)

def Partly.start : Partly := ⟨none, ⟨"", defaultFeatures, none, none, 1, false⟩, []⟩

inductive Stop where
  | help
  | refused (r : Refusal)
  deriving DecidableEq, Repr

namespace Partly

def setValue (p : Partly) (s : Switch) (value : String) : Except Stop Partly :=
  match s with
  | .features => .ok { p with request := { p.request with features := value } }
  | .output => .ok { p with request := { p.request with output := some value } }
  | .html => .ok { p with request := { p.request with html := some value } }
  | .workers =>
    match readInteger value.toList with
    | some n => .ok { p with request := { p.request with workers := n } }
    | none => .error (.refused (.noInteger s value))
  | .help | .verbose => .ok p

def setFlag (p : Partly) (s : Switch) : Except Stop Partly :=
  match s with
  | .help => .error .help
  | .verbose => .ok { p with request := { p.request with verbose := true } }
  | _ => .ok p

def setFlags (p : Partly) (flags : List Switch) : Except Stop Partly := flags.foldlM setFlag p

def addExtras (p : Partly) (extras : List String) : Partly :=
  { p with extras := p.extras ++ extras }

end Partly

inductive Tail where
  | value (s : Switch) (value : String)
  | flag (s : Switch)
  | extra (text : String)
  deriving DecidableEq, Repr

def unjoin : Nat → (spelling : String) → Switch → (sign value : String) →
    Except Refusal (List Switch × Tail)
  | 0, _, s, _, value => .error (.unexpectedValue s value)
  | n + 1, spelling, s, sign, value =>
    if s.takesValue then .ok ([], .value s value)
    else
      match value.toList with
      | c :: r =>
        if spelling.toList.drop 1 |>.head? |>.elim true (· == '-') then
          .error (.unexpectedValue s value)
        else if sign ≠ "" || c = '-' then .error (.unexpectedValue s value)
        else
          let next := String.ofList ['-', c]
          match Switch.ofSpelling? next with
          | none => .ok ([s], .extra (String.ofList ('-' :: c :: r)))
          | some s' =>
            match r with
            | [] => .ok ([s], .flag s')
            | '=' :: v => (unjoin n next s' "=" (String.ofList v)).map (fun p => (s :: p.1, p.2))
            | _ => (unjoin n next s' "" (String.ofList r)).map (fun p => (s :: p.1, p.2))
      | [] => .error (.unexpectedValue s value)

def applySwitch (p : Partly) (s : Switch) (rest : List Word) : Except Stop (Partly × List Word) :=
  if s.takesValue then
    match rest with
    | .plain v :: rest => do return (← p.setValue s v, rest)
    | _ => .error (.refused (.expectedValue s))
  else do return (← p.setFlag s, rest)

def applySpelled (p : Partly) (s : Spelled) (rest : List Word) :
    Except Stop (Partly × List Word) :=
  match s.joined with
  | none => applySwitch p s.switch rest
  | some (sign, value) =>
    match unjoin (value.length + 1) s.spelling s.switch sign value with
    | .error r => .error (.refused r)
    | .ok (flags, .value w v) => do return (← (← p.setFlags flags).setValue w v, rest)
    | .ok (flags, .extra t) => do return ((← (p.addExtras [t]).setFlags flags), rest)
    | .ok (flags, .flag w) =>
      if w.takesValue then
        match rest with
        | .plain v :: rest => do return (← (← p.setFlags flags).setValue w v, rest)
        | _ => .error (.refused (.expectedValue w))
      else do return (← p.setFlags (flags ++ [w]), rest)

def takePath (p : Partly) (ws : List Word) : Partly × List Word :=
  if p.path.isSome then (p, ws)
  else match ws with
    | .separator :: .plain t :: rest => ({ p with path := some t }, rest)
    | .plain t :: .separator :: rest => ({ p with path := some t }, rest)
    | .plain t :: rest => ({ p with path := some t }, rest)
    | ws => (p, ws)

def readWords : Nat → Partly → List Word → Except Stop Partly
  | 0, p, _ => .ok p
  | n + 1, p, ws =>
    match ws with
    | .switch _ s :: rest => do
      let (p, rest) ← applySpelled p s rest
      readWords n p rest
    | .unknown t :: rest => readWords n (p.addExtras [t]) rest
    | [] => .ok p
    | ws =>
      let (p', rest) := takePath p ws
      if rest.length < ws.length then readWords n p' rest
      else
        let idle := ws.takeWhile (fun w => !w.isSwitch)
        readWords n (p.addExtras (idle.map Word.text)) (ws.dropWhile (fun w => !w.isSwitch))

def read (arguments : List String) : Except Stop Request :=
  match Word.classifyAll arguments with
  | .error r => .error (.refused r)
  | .ok ws =>
    match readWords (ws.length + 1) .start ws with
    | .error s => .error s
    | .ok p =>
      match p.path with
      | none => .error (.refused .noPath)
      | some path =>
        if p.extras.isEmpty then .ok { p.request with path := path }
        else .error (.refused (.unrecognized p.extras))

end Wiring.Command
