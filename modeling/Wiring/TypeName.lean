import Wiring.Text.Blank
import Wiring.Text.Dotted
import Wiring.Text.Word

namespace Wiring.TypeName

open Wiring.Text

def isMark (c : Char) : Bool := isWord c || c == '.' || c == '$'

/-- The text after an argument list, if one starts here. The list ends at its first `)`. -/
def afterArguments (s : List Char) : List Char :=
  match s with
  | '(' :: r =>
    match r.dropWhile (· ≠ ')') with
    | _ :: rest => rest
    | [] => s
  | _ => s

theorem afterArguments_le (s : List Char) : (afterArguments s).length ≤ s.length := by
  unfold afterArguments
  split
  · next r =>
    have := (List.dropWhile_sublist (fun c : Char => c ≠ ')') (l := r)).length_le
    split
    · next d rest h =>
      rw [h] at this
      simp only [List.length_cons] at *
      omega
    · exact Nat.le_refl _
  · exact Nat.le_refl _

def dropAnnotations : List Char → List Char
  | [] => []
  | c :: r =>
    if c == '@' && (r.head?.elim false isMark) then
      dropAnnotations (afterArguments ((r.dropWhile isMark).dropWhile isBlank))
    else c :: dropAnnotations r
termination_by s => s.length
decreasing_by
  · have h₁ := afterArguments_le ((r.dropWhile isMark).dropWhile isBlank)
    have h₂ := (List.dropWhile_sublist isBlank (l := r.dropWhile isMark)).length_le
    have h₃ := (List.dropWhile_sublist isMark (l := r)).length_le
    simp only [List.length_cons]
    omega
  · simp

def dropBrackets : List Char → List Char
  | [] => []
  | '[' :: ']' :: r => dropBrackets r
  | c :: r => c :: dropBrackets r

def dropEllipsis : List Char → List Char
  | [] => []
  | '.' :: '.' :: '.' :: r => dropEllipsis r
  | c :: r => c :: dropEllipsis r

def simple (s : List Char) : List Char :=
  lastSegment (dropEllipsis (dropBrackets (squeeze ((dropAnnotations s).takeWhile (· ≠ '<')))))

end Wiring.TypeName
