import Wiring.Annotation.Fault
import Wiring.Text.Blank
import Wiring.Text.Word

namespace Wiring.Annotation

open Wiring.Text

def isNameStart (c : Char) : Bool := c.isAlpha || c == '_' || c == '$'

def isNamePart (c : Char) : Bool := isWord c || c == '$'

def segment? : List Char → Option (List Char × List Char)
  | [] => none
  | c :: r =>
    if isNameStart c then some (c :: r.takeWhile isNamePart, r.dropWhile isNamePart) else none

theorem length_dropWhile_le (p : Char → Bool) (s : List Char) :
    (s.dropWhile p).length ≤ s.length := (List.dropWhile_sublist p).length_le

theorem segment?_shorter {s seg r : List Char} (h : segment? s = some (seg, r)) :
    r.length < s.length := by
  cases s with
  | nil => simp [segment?] at h
  | cons c t =>
    have := length_dropWhile_le isNamePart t
    simp only [segment?] at h
    split at h
    · simp only [Option.some.injEq, Prod.mk.injEq] at h
      rw [← h.2]; simp only [List.length_cons]; omega
    · cases h

def dotSegment? (s : List Char) : Option (List Char × List Char) :=
  match s.dropWhile isBlank with
  | '.' :: r => segment? (r.dropWhile isBlank)
  | _ => none

theorem dotSegment?_shorter {s seg r : List Char} (h : dotSegment? s = some (seg, r)) :
    r.length < s.length := by
  have h₁ := length_dropWhile_le isBlank s
  simp only [dotSegment?] at h
  split at h
  · next t ht =>
    have h₂ := length_dropWhile_le isBlank t
    have h₃ := segment?_shorter h
    rw [ht] at h₁
    simp only [List.length_cons] at h₁
    omega
  · cases h

def dotSegments (s : List Char) : List (List Char) × List Char :=
  match _h : dotSegment? s with
  | none => ([], s)
  | some (seg, r) => let (segs, rest) := dotSegments r; (seg :: segs, rest)
termination_by s.length
decreasing_by exact dotSegment?_shorter _h

def dottedName? (s : List Char) : Option (List (List Char) × List Char) :=
  match segment? s with
  | none => none
  | some (seg, r) => let (segs, rest) := dotSegments r; some (seg :: segs, rest)

def joinDots (segs : List (List Char)) : String := String.ofList (['.'].intercalate segs)

def afterLine (s : List Char) : List Char := (s.dropWhile (· ≠ '\n')).drop 1

def afterBlock? : List Char → Option (List Char)
  | [] => none
  | '*' :: '/' :: r => some r
  | _ :: r => afterBlock? r

theorem afterLine_le (s : List Char) : (afterLine s).length ≤ s.length := by
  have := length_dropWhile_le (· ≠ '\n') s
  simp only [afterLine, List.length_drop]
  omega

theorem afterBlock?_le {s r : List Char} (h : afterBlock? s = some r) : r.length ≤ s.length := by
  fun_induction afterBlock? s with
  | case1 => simp at h
  | case2 t => simp only [Option.some.injEq] at h; subst h; simp only [List.length_cons]; omega
  | case3 c t _ ih => have := ih h; simp only [List.length_cons]; omega

def comment? : List Char → Option (Except Fault (List Char))
  | '/' :: '/' :: r => some (.ok (afterLine r))
  | '/' :: '*' :: r => some ((afterBlock? r).elim (.error .openComment) .ok)
  | _ => none

theorem comment?_shorter {s r : List Char} (h : comment? s = some (.ok r)) :
    r.length < s.length := by
  unfold comment? at h
  split at h
  · next t =>
    have := afterLine_le t
    simp only [Option.some.injEq, Except.ok.injEq] at h
    subst h; simp only [List.length_cons]; omega
  · next t =>
    cases hb : afterBlock? t with
    | none => simp [hb] at h
    | some u =>
      have := afterBlock?_le hb
      simp only [hb, Option.elim_some, Option.some.injEq, Except.ok.injEq] at h
      subst h; simp only [List.length_cons]; omega
  · cases h

def skipLayout : List Char → Except Fault (List Char)
  | [] => .ok []
  | c :: r =>
    if isBlank c then skipLayout r
    else match _h : comment? (c :: r) with
      | none => .ok (c :: r)
      | some (.error e) => .error e
      | some (.ok rest) => skipLayout rest
termination_by s => s.length
decreasing_by
  · simp
  · exact comment?_shorter _h

theorem skipLayout_le {s r : List Char} (h : skipLayout s = .ok r) : r.length ≤ s.length := by
  fun_induction skipLayout s with
  | case1 => simp_all
  | case2 c t hb ih => have := ih h; simp only [List.length_cons]; omega
  | case3 c t hb hc => simp only [Except.ok.injEq] at h; subst h; exact Nat.le_refl _
  | case4 c t hb e hc => cases h
  | case5 c t hb rest hc ih => have := ih h; have := comment?_shorter hc; omega

def unescape : Char → Char
  | 'n' => '\n'
  | 't' => '\t'
  | 'r' => '\r'
  | 'b' => '\x08'
  | 'f' => '\x0c'
  | '0' => '\x00'
  | c => c

def stringBody? : List Char → Option (List Char × List Char)
  | [] => none
  | '"' :: r => some ([], r)
  | '\\' :: c :: r => (stringBody? r).map (fun p => (unescape c :: p.1, p.2))
  | c :: r => (stringBody? r).map (fun p => (c :: p.1, p.2))

def textBlock? : List Char → Option (List Char × List Char)
  | [] => none
  | '"' :: '"' :: '"' :: r => some ([], r)
  | c :: r => (textBlock? r).map (fun p => (c :: p.1, p.2))

def literalBody? (mark : Char) : List Char → Option (List Char × List Char)
  | [] => none
  | '\\' :: c :: r => (literalBody? mark r).map (fun p => ('\\' :: c :: p.1, p.2))
  | c :: r =>
    if c = mark then some ([c], r) else (literalBody? mark r).map (fun p => (c :: p.1, p.2))

def stringLiteral : List Char → Except Fault (List Char × List Char)
  | '"' :: '"' :: '"' :: r => (textBlock? r).elim (.error .openTextBlock) .ok
  | s => (stringBody? s.tail).elim (.error .openString) .ok

theorem stringBody?_shorter {s v r : List Char} (h : stringBody? s = some (v, r)) :
    r.length < s.length := by
  fun_induction stringBody? s generalizing v with
  | case1 => cases h
  | case2 t => simp only [Option.some.injEq, Prod.mk.injEq] at h; simp [h.2]
  | case3 c t ih | case4 c t _ _ ih =>
    obtain ⟨p, hp, he⟩ := Option.map_eq_some_iff.mp h
    cases he
    have := ih hp
    simp only [List.length_cons]; omega

theorem textBlock?_shorter {s v r : List Char} (h : textBlock? s = some (v, r)) :
    r.length < s.length := by
  fun_induction textBlock? s generalizing v with
  | case1 => cases h
  | case2 t =>
    simp only [Option.some.injEq, Prod.mk.injEq] at h
    rw [← h.2]; simp only [List.length_cons]; omega
  | case3 c t _ ih =>
    obtain ⟨p, hp, he⟩ := Option.map_eq_some_iff.mp h
    cases he
    have := ih hp
    simp only [List.length_cons]; omega

theorem literalBody?_shorter {mark : Char} {s v r : List Char}
    (h : literalBody? mark s = some (v, r)) : r.length < s.length := by
  fun_induction literalBody? mark s generalizing v with
  | case1 => cases h
  | case3 c t => simp only [Option.some.injEq, Prod.mk.injEq] at h; simp [h.2]
  | case2 c t ih | case4 c t _ _ ih =>
    obtain ⟨p, hp, he⟩ := Option.map_eq_some_iff.mp h
    cases he
    have := ih hp
    simp only [List.length_cons]; omega

theorem stringLiteral_shorter {s v r : List Char} (h : stringLiteral s = .ok (v, r)) :
    r.length < s.length := by
  unfold stringLiteral at h
  split at h
  · next t =>
    cases hb : textBlock? t with
    | none => simp [hb] at h
    | some p =>
      simp only [hb, Option.elim_some, Except.ok.injEq] at h
      have := textBlock?_shorter (h ▸ hb)
      simp only [List.length_cons]; omega
  · cases hb : stringBody? s.tail with
    | none => simp [hb] at h
    | some p =>
      simp only [hb, Option.elim_some, Except.ok.injEq] at h
      have := stringBody?_shorter (h ▸ hb)
      simp only [List.length_tail] at this
      omega

end Wiring.Annotation
