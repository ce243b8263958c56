import Wiring.Java.Letter

namespace Wiring.Java

inductive TokenKind where
  | word
  | number
  | string
  | mark
  deriving DecidableEq, Repr

structure Token where
  kind : TokenKind
  lead : String
  text : String
  line : Nat
  deriving DecidableEq, Repr

namespace Token

def join : List Token → String
  | [] => ""
  | t :: ts => ts.foldl (fun s u => s ++ u.lead ++ u.text) t.text

end Token

structure Piece where
  text : List Char
  rest : List Char
  damaged : Bool

namespace Piece

def block (seen : List Char) : List Char → Piece
  | [] => ⟨seen.reverse, [], true⟩
  | '*' :: '/' :: r => ⟨('/' :: '*' :: seen).reverse, r, false⟩
  | c :: r => block (c :: seen) r

def quoted (mark : Char) (limit : Option Char) (seen : List Char) : List Char → Piece
  | [] => ⟨seen.reverse, [], true⟩
  | '\\' :: c :: r => quoted mark limit (c :: '\\' :: seen) r
  | c :: r =>
    if c = mark then ⟨(c :: seen).reverse, r, false⟩
    else if limit = some c then ⟨seen.reverse, c :: r, true⟩
    else quoted mark limit (c :: seen) r

def character (s : List Char) : Piece := quoted '\'' (some '\n') [] s

def string (s : List Char) : Piece :=
  let p := quoted '"' none [] s
  if p.damaged then quoted '"' (some '\n') [] s else p

def textBlock (seen : List Char) : List Char → Piece
  | [] => ⟨seen.reverse, [], true⟩
  | '"' :: '"' :: '"' :: r => ⟨('"' :: '"' :: '"' :: seen).reverse, r, false⟩
  | '\\' :: c :: r => textBlock (c :: '\\' :: seen) r
  | c :: r => textBlock (c :: seen) r

def span (p : Char → Bool) (s : List Char) : Piece := ⟨s.takeWhile p, s.dropWhile p, false⟩

def after (front : List Char) (p : Piece) : Piece := { p with text := front ++ p.text }

end Piece

def layout? : List Char → Option Piece
  | '/' :: '/' :: r => some ((Piece.span (· ≠ '\n') r).after ['/', '/'])
  | '/' :: '*' :: r => some ((Piece.block [] r).after ['/', '*'])
  | c :: r => if isSpace c then some ((Piece.span isSpace r).after [c]) else none
  | [] => none

def longMarks : List (List Char) :=
  ["...", "<<=", "->", "::", "++", "--", "&&", "||", "==", "!=", "<=", "+=", "-=", "*=", "/=",
   "&=", "|=", "^=", "%="].map String.toList

def singleMarks : List Char := "()[]\x7b\x7d;,.@=><!~?:+-*/&|^%".toList

def isExponent (hexadecimal : Bool) (c : Char) : Bool :=
  if hexadecimal then c == 'p' || c == 'P' else c == 'e' || c == 'E'

def number (hexadecimal : Bool) (seen : List Char) : List Char → Piece
  | [] => ⟨seen.reverse, [], false⟩
  | c :: r =>
    if c == '+' || c == '-' then
      if (seen.head?.elim false (isExponent hexadecimal)) then number hexadecimal (c :: seen) r
      else ⟨seen.reverse, c :: r, false⟩
    else if c.isAlphanum || c == '_' || c == '.' then number hexadecimal (c :: seen) r
    else ⟨seen.reverse, c :: r, false⟩

def isHexadecimal : List Char → Bool
  | '0' :: c :: _ => c == 'x' || c == 'X'
  | _ => false

def lexeme? : List Char → Option (TokenKind × Piece)
  | [] => none
  | '"' :: '"' :: '"' :: r => some (.string, (Piece.textBlock [] r).after ['"', '"', '"'])
  | c :: r =>
    if c == '"' then some (.string, (Piece.string r).after [c])
    else if c == '\'' then some (.string, (Piece.character r).after [c])
    else if isLetter c then some (.word, (Piece.span isLetterOrMark r).after [c])
    else if c.isDigit || (c == '.' && r.head?.elim false Char.isDigit) then
      some (.number, number (isHexadecimal (c :: r)) [] (c :: r))
    else match longMarks.find? (fun m => m.isPrefixOf (c :: r)) with
      | some m => some (.mark, ⟨m, (c :: r).drop m.length, false⟩)
      | none => if singleMarks.contains c then some (.mark, ⟨[c], r, false⟩) else none

structure Lexed where
  tokens : List Token
  damaged : Bool

def linesIn (s : List Char) : Nat := s.count '\n'

/-- Reads tokens; `lead` is the layout since the last token and `line` the current line. The
first argument bounds the number of steps, each of which takes at least one character. -/
def lexFrom : Nat → (lead : List Char) → (line : Nat) → List Char → Lexed
  | 0, _, _, _ => ⟨[], false⟩
  | _, _, _, [] => ⟨[], false⟩
  | n + 1, lead, line, c :: r =>
    match layout? (c :: r) with
    | some p =>
      let more := lexFrom n (lead ++ p.text) (line + linesIn p.text) p.rest
      ⟨more.tokens, p.damaged || more.damaged⟩
    | none =>
      match lexeme? (c :: r) with
      | some (kind, p) =>
        let more := lexFrom n [] (line + linesIn p.text) p.rest
        ⟨⟨kind, String.ofList lead, String.ofList p.text, line⟩ :: more.tokens,
          p.damaged || more.damaged⟩
      -- no token starts with such a character, so it is passed over with the layout
      | none => ⟨(lexFrom n (lead ++ [c]) line r).tokens, true⟩

def lex (s : List Char) : Lexed :=
  match s with
  | '\ufeff' :: r => lexFrom (r.length + 1) ['\ufeff'] 1 r
  | _ => lexFrom (s.length + 1) [] 1 s

end Wiring.Java
