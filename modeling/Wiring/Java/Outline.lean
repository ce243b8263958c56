import Wiring.Java.Soundness
import Wiring.Java.Unit

/-!
The outline of a Java file: its package, and its types with their members, from the trees of its
text. What cannot be read is damage and is passed over; a missing semicolon is supplied.
-/

namespace Wiring.Java

def commentUpTo : Nat → List Char → Option (List Char)
  | 0, _ => none
  | n + 1, s =>
    match layout? s with
    | none => none
    | some p => if p.text.head? = some '/' then some p.text else commentUpTo n p.rest

def firstComment? (layout : String) : Option (List Char) :=
  commentUpTo (layout.length + 1) layout.toList

/-- The type of a parameter that takes any number of values. A comment between its modifiers and
its type is taken for the type. -/
def variadicType (m : Modifiers) (type : List Tree) : List Char :=
  let comment := if m.trees.isEmpty then none else type.head?.bind (fun t => firstComment? t.lead)
  comment.getD (Tree.text type).toList

def isReceiver : List Tree → Bool
  | t :: d :: ts => t.isToken "this" || (t.isName && d.isToken "." && isReceiver ts)
  | [t] => t.isToken "this"
  | [] => false

def formalOf (start : Option Tree) (m : Modifiers) (type : List Char) (name : Tree) : Formal :=
  ⟨name.first.text, type, start.elim 0 Tree.line, m.annotations⟩

def formal? (ts : List Tree) : Option (List Formal × List Tree) :=
  let m := modifiers ts
  match type? m.rest with
  | none => none
  | some (type, rest) =>
    let (_, afterMarks) := annotations rest
    if startsWith (Tree.isToken "...") afterMarks then
      match annotations afterMarks.tail with
      | (_, name :: rest) =>
        if name.isName then
          some ([formalOf ts.head? m (variadicType m type) name], (brackets rest).2)
        else none
      | (_, []) => none
    else if isReceiver (rest.takeWhile (fun t => !t.isToken ",")) then
      some ([], rest.dropWhile (fun t => !t.isToken ","))
    else match rest with
      | name :: rest =>
        if name.isName then
          some ([formalOf ts.head? m (Tree.text type).toList name], (brackets rest).2)
        else none
      | [] => none

def formalsUpTo : Nat → List Tree → List Formal × Bool
  | 0, _ => ([], true)
  | n + 1, ts =>
    let marked := (modifiers ts).isSound
    match formal? ts with
    | some (fs, []) => (fs, marked)
    | some (fs, c :: rest) =>
      let (more, sound) := formalsUpTo n rest
      (fs ++ more, marked && c.isToken "," && !rest.isEmpty && sound)
    | none =>
      match ts.dropWhile (fun t => !t.isToken ",") with
      | [] => ([], false)
      | _ :: rest => ((formalsUpTo n rest).1, false)

def formals (t : Tree) : List Formal × Bool :=
  match t with
  | .leaf _ => ([], false)
  | .group _ [] _ => ([], true)
  | .group _ body _ => formalsUpTo body.length body

structure Reading (α : Type) where
  value : α
  rest : List Tree
  sound : Bool

def semicolon {α : Type} (value : α) (sound : Bool) (ts : List Tree) : Reading α :=
  if startsWith (Tree.isToken ";") ts then ⟨value, ts.tail, sound⟩ else ⟨value, ts, false⟩

def afterInitial (ts : List Tree) : List Tree × Bool :=
  if startsWith (Tree.isToken "=") ts then
    let (value, rest) := initial ts.tail
    (rest, !value.isEmpty && isSoundRow (ts.take 1 ++ value ++ rest.take 1))
  else (ts, true)

def declaratorsUpTo : Nat → List Tree → Reading (List String)
  | 0, ts => ⟨[], ts, false⟩
  | _, [] => ⟨[], [], false⟩
  | n + 1, name :: ts =>
    if name.isName then
      let (rest, sound) := afterInitial (brackets ts).2
      if startsWith (Tree.isToken ",") rest then
        let more := declaratorsUpTo n rest.tail
        ⟨name.first.text :: more.value, more.rest, sound && more.sound⟩
      else ⟨[name.first.text], rest, sound⟩
    else ⟨[], name :: ts, false⟩

def declarators (ts : List Tree) : Reading (List String) := declaratorsUpTo ts.length ts

def afterFormals (ts : List Tree) : List Tree :=
  let ts := (brackets ts).2
  if startsWith (Tree.isToken "throws") ts then
    ts.dropWhile (fun t => !t.isToken ";" && !t.isBraces)
  else ts

def withBody (m : Member) (sound bodyless : Bool) (ts : List Tree) : Reading (Option Member) :=
  match ts with
  | t :: rest =>
    if t.isBraces then ⟨some m, rest, sound && t.isSoundBlock⟩
    else if t.isToken ";" then ⟨some m, rest, sound && bodyless⟩
    else ⟨some m, ts, false⟩
  | [] => ⟨some m, [], false⟩

def constructor? (line : Nat) (m : Modifiers) (ts : List Tree) : Option (Reading (Option Member)) :=
  match ts with
  | name :: g :: rest =>
    if name.isName && g.isParens then
      let (fs, sound) := formals g
      some (withBody (.constructor line m.annotations fs) sound false (afterFormals rest))
    else if name.isName && g.isBraces then some ⟨none, rest, g.isSoundBlock⟩
    else none
  | _ => none

def typed? (constant : Bool) (line : Nat) (m : Modifiers) (ts : List Tree) :
    Option (Reading (Option Member)) :=
  match type? ts with
  | some (type, name :: rest) =>
    let text := (Tree.text type).toList
    if name.isName && startsWith Tree.isParens rest then
      let (fs, sound) := (rest.head?.map formals).getD ([], false)
      some (withBody (.method line m.annotations text name.first.text fs) sound true
        (afterFormals rest.tail))
    else if name.isName then
      let vs := declarators (name :: rest)
      some (semicolon (some (.field constant line m.annotations text vs.value)) vs.sound vs.rest)
    else none
  | _ => none

def member (constant : Bool) (line : Nat) (m : Modifiers) : Reading (Option Member) :=
  let own := (annotations (typeParameters m.rest).2).2
  if startsWith Tree.isBraces m.rest then
    ⟨none, m.rest.tail, m.rest.head?.all Tree.isSoundBlock⟩
  else match constructor? line m own with
    | some r => r
    | none => (typed? constant line m own).getD ⟨none, m.rest.tail, false⟩

def typeStart? (ts : List Tree) : Option (Option TypeKind × List Tree) :=
  match ts with
  | t :: rest =>
    if t.isToken "class" then some (some .classType, rest)
    else if t.isToken "interface" then some (some .interface, rest)
    else if t.isToken "enum" then some (some .enum, rest)
    -- `record` is a name elsewhere, so the head of a record has to follow
    else if t.isToken "record" then
      match rest with
      | name :: g :: _ =>
        if name.isName && (g.isParens || g.isToken "<") then some (some .record, rest) else none
      | _ => none
    else if t.isToken "@" then
      match rest with
      | i :: rest => if i.isToken "interface" then some (none, rest) else none
      | [] => none
    else none
  | [] => none

def bodyTrees (kind : TypeKind) : Tree → List Tree
  | .leaf _ => []
  | .group _ body _ =>
    match kind with
    | .enum => (body.dropWhile (fun t => !t.isToken ";")).tail
    | _ => body

def areConstantsUpTo : Nat → List Tree → Bool
  | 0, ts => ts.isEmpty
  | n + 1, ts =>
    let m := modifiers ts
    match ts, m.rest with
    | [], _ => true
    | _, [] => false
    | _, name :: rest =>
      let rest := if startsWith Tree.isParens rest then rest.tail else rest
      let rest := if startsWith Tree.isBraces rest then rest.tail else rest
      m.isSound && name.isName &&
        match rest with
        | [] => true
        | c :: rest => c.isToken "," && areConstantsUpTo n rest

def areConstants (ts : List Tree) : Bool :=
  soundFrom .constants .start ts &&
    (areConstantsUpTo ts.length ts || (startsWith (Tree.isToken ",") ts && ts.tail.isEmpty))

def constantsSound (kind : TypeKind) : Tree → Bool
  | .leaf _ => true
  | .group _ body _ =>
    match kind with
    | .enum => areConstants (body.takeWhile (fun t => !t.isToken ";"))
    | _ => true

def afterTypesUpTo : Nat → List Tree → Option (List Tree)
  | 0, _ => none
  | n + 1, ts =>
    match type? (annotations ts).2 with
    | none => none
    | some (_, []) => some []
    | some (_, c :: rest) => if c.isToken "," then afterTypesUpTo n rest else some (c :: rest)

def areClausesUpTo : Nat → List Tree → Bool
  | 0, ts => ts.isEmpty
  | _, [] => true
  | n + 1, t :: ts =>
    (t.isToken "extends" || t.isToken "implements" || t.isToken "permits") &&
      (afterTypesUpTo ts.length ts).elim false (areClausesUpTo n)

def isSoundHead (kind : TypeKind) (ts : List Tree) : Bool :=
  let ts := (typeParameters ts).2
  match kind, ts with
  | .record, g :: rest => (formals g).2 && areClausesUpTo rest.length rest
  | _, ts => areClausesUpTo ts.length ts

structure Outline where
  items : List Item
  sound : Bool

namespace Outline

def empty : Outline := ⟨[], true⟩

def add (items : List Item) (sound : Bool) (o : Outline) : Outline :=
  ⟨items ++ o.items, sound && o.sound⟩

end Outline

def typeName (ts : List Tree) : String × List Tree :=
  match ts with
  | t :: rest => if t.isName then (t.first.text, rest) else ("", ts)
  | [] => ("", [])

def splitBody (ts : List Tree) : Option (List Tree × Tree × List Tree) :=
  let inHead (t : Tree) := !t.isBraces && !t.isToken ";"
  match ts.dropWhile inHead with
  | t :: rest => if t.isBraces then some (ts.takeWhile inHead, t, rest) else none
  | [] => none

def itemsUpTo : Nat → (constant : Bool) → List Tree → Outline
  | 0, _, _ => .empty
  | _, _, [] => .empty
  | n + 1, constant, t :: ts =>
    if t.isToken ";" then itemsUpTo n constant ts
    else
      let m := modifiers (t :: ts)
      match typeStart? m.rest with
      | some (kind?, rest) =>
        let (name, rest) := typeName rest
        match splitBody rest with
        | none => (itemsUpTo n constant rest).add [] false
        | some (head, body, rest) =>
          match kind? with
          | none => (itemsUpTo n constant rest).add [] true
          | some kind =>
            let inner := itemsUpTo n (kind == .interface) (bodyTrees kind body)
            let item := Item.type ⟨kind, name, t.line, m.annotations⟩ inner.items
            (itemsUpTo n constant rest).add [item]
              (inner.sound && constantsSound kind body && !name.isEmpty && m.isSound &&
                isSoundHead kind head)
      | none =>
        if m.rest.isEmpty then ⟨[], false⟩
        else
          let r := member constant t.line m
          (itemsUpTo n constant r.rest).add (r.value.toList.map Item.member)
            (r.sound && m.isSound)

def afterImport (ts : List Tree) : Reading PUnit :=
  let ts := if startsWith (Tree.isToken "static") ts then ts.tail else ts
  match dottedName? ts with
  | none => ⟨⟨⟩, ts, false⟩
  | some (_, d :: s :: rest) =>
    semicolon ⟨⟩ true (if d.isToken "." && s.isToken "*" then rest else d :: s :: rest)
  | some (_, rest) => semicolon ⟨⟩ true rest

def statement : List Tree → List Tree × List Tree
  | [] => ([], [])
  | t :: ts =>
    if t.isToken ";" || t.isBraces then ([t], ts)
    else let s := statement ts; (t :: s.1, s.2)

def statementSound (ts : List Tree) : Bool :=
  isSoundRow ts && (ts.getLast?.elim false (fun t => t.isToken ";" || t.isBraces))

def isModule : List Tree → Bool
  | t :: s :: ts =>
    (t.isToken "module" && s.isName) ||
      (t.isToken "open" && s.isToken "module" && startsWith Tree.isName ts)
  | _ => false

/-- The package and the items of a file; the first argument bounds the number of trees. -/
def fileUpTo : Nat → List Tree → Option (List Char) × Outline
  | 0, _ => (none, .empty)
  | _, [] => (none, .empty)
  | n + 1, t :: ts =>
    if t.isToken ";" then fileUpTo n ts
    else
      let m := modifiers (t :: ts)
      let go (items : List Item) (sound : Bool) (rest : List Tree) :=
        let (package, o) := fileUpTo n rest
        (package, o.add items sound)
      match typeStart? m.rest with
      | some (kind?, rest) =>
        let (name, rest) := typeName rest
        match splitBody rest with
        | none => go [] false rest
        | some (head, body, rest) =>
          match kind? with
          | none => go [] true rest
          | some kind =>
            let inner := itemsUpTo (Tree.sizeAll (t :: ts)) (kind == .interface)
              (bodyTrees kind body)
            go [.type ⟨kind, name, t.line, m.annotations⟩ inner.items]
              (inner.sound && constantsSound kind body && !name.isEmpty && m.isSound &&
                isSoundHead kind head) rest
      | none =>
        match m.rest with
        | [] => (none, ⟨[], false⟩)
        | k :: rest =>
          if k.isToken "package" then
            match dottedName? rest with
            | none => go [] false rest
            | some (name, rest) =>
              let r := semicolon () true rest
              -- of several declarations of a package the first one counts
              let (_, o) := go [] r.sound r.rest
              (some (Tree.text name).toList, o)
          else if k.isToken "import" then
            let r := afterImport rest
            go [] r.sound r.rest
          else if isModule (k :: rest) then
            go [] true ((k :: rest).dropWhile (fun t => !t.isBraces)).tail
          else
            let (own, rest) := statement (k :: rest)
            go [] (statementSound own) rest

def Unit.ofText (s : List Char) : Unit :=
  let lexed := lex s
  let grown := Tree.ofTokens lexed.tokens
  let (package, o) := fileUpTo grown.trees.length grown.trees
  ⟨package.getD [], o.items, lexed.damaged || grown.damaged || !o.sound⟩

end Wiring.Java
