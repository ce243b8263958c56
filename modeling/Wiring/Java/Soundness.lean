import Wiring.Java.Phrase

/-!
A light check of statements and expressions. It finds operators without an operand, operands
without an operator and statements without an end, and it never complains about sound Java.
-/

namespace Wiring.Java

inductive Nest where
  | top
  | parens
  | brackets
  | block
  | array
  | constants
  deriving DecidableEq, Repr

def openOperators : List String :=
  ["=", "+", "-", "*", "/", "%", "&", "|", "^", "!", "~", "==", "!=", "<=", "&&", "||", "+=", "-=",
   "*=", "/=", "&=", "|=", "^=", "%=", "<<=", ".", "->", "::", "<"]

def contextual : List String :=
  ["record", "sealed", "permits", "var", "yield", "when", "non", "open", "module", "with"]

namespace Tree

def isPlainWord (t : Tree) : Bool := t.isName && !contextual.contains t.first.text

def isOpenOperator : Tree → Bool
  | leaf t => t.kind == .mark && openOperators.contains t.text
  | group .. => false

def endsStatement (t : Tree) : Bool := t.isToken ";" || t.isBraces || t.isToken ":"

end Tree

/-- Where the check stands in a row of trees: the tree before, the number of plain words just
read, whether the name of an annotation is being read, and whether an enum was announced. -/
structure Spot where
  before : Option Tree
  words : Nat
  namesMark : Bool
  inEnum : Bool

namespace Spot

def start : Spot := ⟨none, 0, false, false⟩

def beforeIs (s : Spot) (p : Tree → Bool) : Bool := s.before.elim false p

def continuesName (s : Spot) (t : Tree) : Bool :=
  s.namesMark &&
    if s.beforeIs (fun b => b.isToken "@" || b.isToken ".") then t.isName else t.isToken "."

def fits (nest : Nest) (s : Spot) (t : Tree) : Bool :=
  if s.continuesName t then true
  else if t.isToken ";" || t.isToken "," then
    !s.beforeIs Tree.isOpenOperator && (nest == .constants || !s.beforeIs (Tree.isToken ","))
  else if s.namesMark then true
  else if t.isLiteral then
    !s.beforeIs (fun b => b.isLiteral || b.isPlainWord)
  else if t.isWord then
    (!s.beforeIs Tree.isLiteral || t.isToken "instanceof" || t.isToken "when") &&
      !(t.isPlainWord && s.words == 2)
  else true

def step (s : Spot) (t : Tree) : Spot :=
  let namesMark := t.isToken "@" || s.continuesName t
  let inEnum := t.isToken "enum" || (s.inEnum && !t.endsStatement)
  let words := if t.isPlainWord && !namesMark then (if s.namesMark then 1 else s.words + 1)
    else 0
  if s.namesMark && t.isParens then ⟨none, 0, false, inEnum⟩
  else ⟨some t, words, namesMark, inEnum⟩

def nest (outer : Nest) (s : Spot) (t : Tree) : Nest :=
  if t.isParens then .parens
  else if !t.isBraces then .brackets
  else if s.inEnum then .constants
  else if s.beforeIs (fun b => b.isToken "=" || b.isToken "default" || b.isGroup "[") then .array
  else if (outer == .array || outer == .parens) &&
      (s.before.isNone || s.beforeIs (Tree.isToken ",")) then .array
  else .block

def ends (nest : Nest) (s : Spot) : Bool :=
  match nest with
  | .top | .constants => true
  | .block => s.before.isNone && !s.namesMark || s.beforeIs Tree.endsStatement
  | .parens => !s.beforeIs (fun b => b.isOpenOperator || b.isToken ",")
  | .brackets | .array => !s.beforeIs Tree.isOpenOperator

end Spot

mutual

def Tree.isSound (nest : Nest) : Tree → Bool
  | .leaf _ => true
  | .group _ body _ => soundFrom nest .start body

def soundFrom (nest : Nest) (s : Spot) : List Tree → Bool
  | [] => s.ends nest
  | t :: ts => s.fits nest t && t.isSound (s.nest nest t) && soundFrom nest (s.step t) ts

end

def Tree.isSoundBlock (t : Tree) : Bool := t.isSound .block

def isSoundRow (ts : List Tree) : Bool := soundFrom .top .start ts

def arePairsUpTo : Nat → List Tree → Bool
  | 0, _ => false
  | n + 1, ts =>
    match ts with
    | key :: sign :: rest =>
      key.isName && sign.isToken "=" &&
        match rest.dropWhile (fun t => !t.isToken ",") with
        | [] => true
        | _ :: rest => arePairsUpTo n rest
    | _ => false

def Tree.holdsArguments : Tree → Bool
  | .leaf _ => false
  | .group left body right =>
    (!body.any (Tree.isToken ",") || arePairsUpTo body.length body) &&
      (Tree.group left body right).isSound .parens

def Modifiers.isSound (m : Modifiers) : Bool :=
  m.trees.all (fun t => !t.isParens || t.holdsArguments)

end Wiring.Java
