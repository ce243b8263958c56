import Wiring.Java.Token

namespace Wiring.Java

inductive Tree where
  | leaf (t : Token)
  | group (left : Token) (body : List Tree) (right : Option Token)

namespace Tree

mutual

def tokens : Tree → List Token
  | leaf t => [t]
  | group left body right => left :: tokensAll body ++ right.toList

def tokensAll : List Tree → List Token
  | [] => []
  | t :: ts => t.tokens ++ tokensAll ts

end

def text (ts : List Tree) : String := Token.join (tokensAll ts)

mutual

def size : Tree → Nat
  | leaf _ => 1
  | group _ body _ => 1 + sizeAll body

def sizeAll : List Tree → Nat
  | [] => 0
  | t :: ts => t.size + sizeAll ts

end

def first : Tree → Token
  | leaf t => t
  | group left _ _ => left

def line (t : Tree) : Nat := t.first.line

def lead (t : Tree) : String := t.first.lead

def isToken (s : String) : Tree → Bool
  | leaf t => t.kind != .string && t.text == s
  | group .. => false

def isGroup (left : String) : Tree → Bool
  | leaf _ => false
  | group t _ _ => t.text == left

def isLiteral : Tree → Bool
  | leaf t => t.kind == .string || t.kind == .number
  | group .. => false

end Tree

def closer? : String → Option String
  | "(" => some ")"
  | "[" => some "]"
  | "\x7b" => some "\x7d"
  | _ => none

def isCloser (s : String) : Bool := s == ")" || s == "]" || s == "\x7d"

structure Frame where
  left : Token
  before : List Tree

def Frame.close (f : Frame) (body : List Tree) (right : Option Token) : List Tree :=
  .group f.left body.reverse right :: f.before

def closeUpTo (t : Token) : List Frame → List Tree → List Frame × List Tree × Bool
  | [], body => ([], body, true)
  | f :: fs, body =>
    if closer? f.left.text == some t.text then (fs, f.close body (some t), false)
    else
      let (frames, trees, _) := closeUpTo t fs (f.close body none)
      (frames, trees, true)

structure Grown where
  trees : List Tree
  damaged : Bool

def closeAll : List Frame → List Tree → List Tree
  | [], body => body.reverse
  | f :: fs, body => closeAll fs (f.close body none)

def grow (frames : List Frame) (body : List Tree) (damaged : Bool) : List Token → Grown
  | [] => ⟨closeAll frames body, damaged || !frames.isEmpty⟩
  | t :: ts =>
    if t.kind != .mark then grow frames (.leaf t :: body) damaged ts
    else if (closer? t.text).isSome then grow (⟨t, body⟩ :: frames) [] damaged ts
    else if isCloser t.text then
      if frames.any (fun f => closer? f.left.text == some t.text) then
        let (frames, body, broken) := closeUpTo t frames body
        grow frames body (damaged || broken) ts
      else grow frames body true ts
    else grow frames (.leaf t :: body) damaged ts

def Tree.ofTokens (ts : List Token) : Grown := grow [] [] false ts

end Wiring.Java
