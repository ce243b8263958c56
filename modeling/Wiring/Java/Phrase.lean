import Wiring.Java.Tree

namespace Wiring.Java

def reserved : List String :=
  ["abstract", "assert", "boolean", "break", "byte", "case", "catch", "char", "class", "continue",
   "default", "do", "double", "else", "enum", "extends", "final", "finally", "float", "for", "if",
   "implements", "import", "instanceof", "int", "interface", "long", "native", "new", "package",
   "private", "protected", "public", "return", "short", "static", "strictfp", "super", "switch",
   "synchronized", "this", "throw", "throws", "transient", "try", "void", "volatile", "while",
   "true", "false", "null"]

def basicTypes : List String :=
  ["boolean", "byte", "char", "double", "float", "int", "long", "short", "void"]

namespace Tree

def isWord : Tree → Bool
  | leaf t => t.kind == .word
  | group .. => false

def isName (t : Tree) : Bool := t.isWord && !reserved.contains t.first.text

def isTypeWord (t : Tree) : Bool := t.isName || (t.isWord && basicTypes.contains t.first.text)

def isParens (t : Tree) : Bool := t.isGroup "("

def isBraces (t : Tree) : Bool := t.isGroup "\x7b"

def isBrackets : Tree → Bool
  | leaf _ => false
  | group left body _ => left.text == "[" && body.isEmpty

end Tree

def startsWith (p : Tree → Bool) (ts : List Tree) : Bool := ts.head?.elim false p

abbrev Split := List Tree × List Tree

def nameTail : List Tree → Split
  | d :: w :: ts =>
    if d.isToken "." && w.isName then let s := nameTail ts; (d :: w :: s.1, s.2)
    else ([], d :: w :: ts)
  | ts => ([], ts)

def dottedName? : List Tree → Option Split
  | [] => none
  | w :: ts => if w.isName then let s := nameTail ts; some (w :: s.1, s.2) else none

def annotation? : List Tree → Option Split
  | [] => none
  | a :: ts =>
    if a.isToken "@" then
      match dottedName? ts with
      | none => none
      | some (name, g :: rest) =>
        if g.isParens then some (a :: name ++ [g], rest) else some (a :: name, g :: rest)
      | some (name, []) => some (a :: name, [])
    else none

def modifierWords : List String :=
  ["public", "protected", "private", "abstract", "static", "final", "strictfp", "default",
   "synchronized", "native", "transient", "volatile"]

def isModifierWord (t : Tree) : Bool := t.isWord && modifierWords.contains t.first.text

def followsSealed (t : Tree) : Bool :=
  isModifierWord t || t.isToken "class" || t.isToken "interface" || t.isToken "@"

def modifier? (ts : List Tree) : Option (Bool × Split) :=
  match annotation? ts with
  | some s => some (true, s)
  | none =>
    match ts with
    | t :: rest =>
      if isModifierWord t || (t.isToken "sealed" && startsWith followsSealed rest) then
        some (false, [t], rest)
      else if t.isToken "non" then
        match rest with
        | d :: s :: rest =>
          if d.isToken "-" && s.isToken "sealed" then some (false, [t, d, s], rest) else none
        | _ => none
      else none
    | [] => none

structure Modifiers where
  trees : List Tree
  annotations : List (List Char)
  rest : List Tree

def modifiersUpTo : Nat → List Tree → Modifiers
  | 0, ts => ⟨[], [], ts⟩
  | n + 1, ts =>
    match modifier? ts with
    | none => ⟨[], [], ts⟩
    | some (marked, phrase, rest) =>
      let more := modifiersUpTo n rest
      let own := if marked then [(Tree.text phrase).toList] else []
      ⟨phrase ++ more.trees, own ++ more.annotations, more.rest⟩

def modifiers (ts : List Tree) : Modifiers := modifiersUpTo ts.length ts

def annotationsUpTo : Nat → List Tree → Split
  | 0, ts => ([], ts)
  | n + 1, ts =>
    match annotation? ts with
    | none => ([], ts)
    | some (phrase, rest) => let s := annotationsUpTo n rest; (phrase ++ s.1, s.2)

def annotations (ts : List Tree) : Split := annotationsUpTo ts.length ts

def bracketsUpTo : Nat → List Tree → Split
  | 0, ts => ([], ts)
  | n + 1, ts =>
    match annotations ts with
    | (marks, b :: rest) =>
      if b.isBrackets then let s := bracketsUpTo n rest; (marks ++ b :: s.1, s.2) else ([], ts)
    | (_, []) => ([], ts)

def brackets (ts : List Tree) : Split := bracketsUpTo ts.length ts

mutual

def typeUpTo : Nat → List Tree → Option Split
  | 0, _ => none
  | n + 1, ts =>
    match ts with
    | w :: rest =>
      if w.isTypeWord then let s := typeTailUpTo n rest; some (w :: s.1, s.2) else none
    | [] => none

def typeTailUpTo : Nat → List Tree → Split
  | 0, ts => ([], ts)
  | n + 1, ts =>
    match ts with
    | t :: rest =>
      if t.isToken "<" then
        match argumentsUpTo n rest with
        | some s => let s' := typeTailUpTo n s.2; (t :: s.1 ++ s'.1, s'.2)
        -- a `<` that opens no type arguments ends the type
        | none => ([], ts)
      else if t.isToken "." then
        match annotations rest with
        | (marks, w :: rest) =>
          if w.isName then let s := typeTailUpTo n rest; (t :: marks ++ w :: s.1, s.2)
          else ([], ts)
        | (_, []) => ([], ts)
      else brackets ts
    | [] => ([], [])

def argumentsUpTo : Nat → List Tree → Option Split
  | 0, _ => none
  | n + 1, ts =>
    match ts with
    | t :: rest =>
      if t.isToken ">" then some ([t], rest)
      else match argumentUpTo n ts with
        | some (arg, c :: rest) =>
          if c.isToken ">" then some (arg ++ [c], rest)
          else if c.isToken "," && !startsWith (Tree.isToken ">") rest then
            (argumentsUpTo n rest).map (fun s => (arg ++ c :: s.1, s.2))
          else none
        | _ => none
    | [] => none

def argumentUpTo : Nat → List Tree → Option Split
  | 0, _ => none
  | n + 1, ts =>
    match annotations ts with
    | (marks, q :: rest) =>
      if q.isToken "?" then
        match rest with
        | b :: rest' =>
          if b.isToken "extends" || b.isToken "super" then
            match annotations rest' with
            | (more, rest') =>
              (typeUpTo n rest').map (fun s => (marks ++ q :: b :: more ++ s.1, s.2))
          else some (marks ++ [q], rest)
        | [] => some (marks ++ [q], rest)
      else (typeUpTo n (q :: rest)).map (fun s => (marks ++ s.1, s.2))
    | (_, []) => none

end

def type? (ts : List Tree) : Option Split := typeUpTo (2 * Tree.sizeAll ts + 2) ts

def typeArguments? (ts : List Tree) : Option Split :=
  match ts with
  | t :: rest =>
    if t.isToken "<" then
      (argumentsUpTo (2 * Tree.sizeAll ts + 2) rest).map (fun s => (t :: s.1, s.2))
    else none
  | [] => none

def angles (depth : Nat) : List Tree → Option Split
  | [] => none
  | t :: ts =>
    if t.isToken ";" || t.isBraces then none
    else
      let inner := if t.isToken "<" then depth + 1 else if t.isToken ">" then depth - 1 else depth
      if inner = 0 then some ([t], ts) else (angles inner ts).map (fun s => (t :: s.1, s.2))

def typeParameters (ts : List Tree) : Split :=
  if startsWith (Tree.isToken "<") ts then (angles 0 ts).getD ([], ts) else ([], ts)

def initialUpTo : Nat → List Tree → Split
  | 0, ts => ([], ts)
  | _, [] => ([], [])
  | n + 1, t :: ts =>
    if t.isToken "," || t.isToken ";" then ([], t :: ts)
    else match typeArguments? (t :: ts) with
      | some (phrase, rest) => let s := initialUpTo n rest; (phrase ++ s.1, s.2)
      | none => let s := initialUpTo n ts; (t :: s.1, s.2)

def initial (ts : List Tree) : Split := initialUpTo ts.length ts

end Wiring.Java
