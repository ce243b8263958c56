import Wiring.Text.Quoted

namespace Wiring.Text

inductive CodePoint where
  | scalar (c : Char)
  | surrogate (code : Nat)
  deriving DecidableEq, Repr

namespace CodePoint

def ofNat (n : Nat) : CodePoint :=
  if 0xd800 ≤ n && n ≤ 0xdfff then surrogate n else scalar (Char.ofNat n)

def isSurrogate : CodePoint → Bool
  | scalar _ => false
  | surrogate _ => true

def ofString (s : String) : List CodePoint := s.toList.map scalar

end CodePoint

structure Unencodable where
  first : Nat
  last : Nat
  code : Nat
  deriving DecidableEq, Repr

namespace Unencodable

def message (u : Unencodable) : String :=
  if u.first = u.last then
    "'utf-8' codec can't encode character '\\u" ++ String.ofList (hex 4 u.code) ++
      s!"' in position {u.first}: surrogates not allowed"
  else
    s!"'utf-8' codec can't encode characters in position {u.first}-{u.last}: " ++
      "surrogates not allowed"

end Unencodable

def encodeFrom (seen : Nat) : List CodePoint → Except Unencodable (List Char)
  | [] => .ok []
  | .scalar c :: rest => (encodeFrom (seen + 1) rest).map (c :: ·)
  | .surrogate code :: rest =>
    .error ⟨seen, seen + (rest.takeWhile CodePoint.isSurrogate).length, code⟩

def encode (s : List CodePoint) : Except Unencodable (List Char) := encodeFrom 0 s

theorem encodeFrom_scalars (seen : Nat) (s : List Char) :
    encodeFrom seen (s.map .scalar) = .ok s := by
  induction s generalizing seen with
  | nil => rfl
  | cons c s ih => simp [encodeFrom, ih, Except.map]

theorem encode_ofString (s : String) : encode (CodePoint.ofString s) = .ok s.toList :=
  encodeFrom_scalars 0 s.toList

end Wiring.Text
