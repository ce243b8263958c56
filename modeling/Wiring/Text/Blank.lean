import Wiring.Text.Ranges

namespace Wiring.Text

def blankRanges : List (Nat × Nat) :=
  [(0x9, 0xd), (0x1c, 0x20), (0x85, 0x85), (0xa0, 0xa0), (0x1680, 0x1680), (0x2000, 0x200a),
   (0x2028, 0x2029), (0x202f, 0x202f), (0x205f, 0x205f), (0x3000, 0x3000)]

def isBlank (c : Char) : Bool := within blankRanges c

def dropTail (p : Char → Bool) (s : List Char) : List Char := (s.reverse.dropWhile p).reverse

def trim (s : List Char) : List Char := dropTail isBlank (s.dropWhile isBlank)

def squeeze (s : List Char) : List Char := s.filter (fun c => !isBlank c)

theorem squeeze_append (s t : List Char) : squeeze (s ++ t) = squeeze s ++ squeeze t := by
  simp [squeeze]

theorem isBlank_of_mem_squeeze {c : Char} {s : List Char} (h : c ∈ squeeze s) :
    isBlank c = false := by
  simpa using (List.mem_filter.mp h).2

end Wiring.Text
