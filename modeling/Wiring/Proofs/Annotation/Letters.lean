import Mathlib.Data.List.Basic
import Wiring.Proofs.Annotation.Notation

namespace Wiring.Text

def codes (ranges : List (Nat × Nat)) : List Nat :=
  ranges.flatMap (fun r => List.range' r.1 (r.2 + 1 - r.1))

theorem mem_codes_of_within {ranges : List (Nat × Nat)} {c : Char} (h : within ranges c = true) :
    c.toNat ∈ codes ranges := by
  obtain ⟨r, hr, hlo, hhi⟩ := within_iff.mp h
  apply List.mem_flatMap.mpr
  refine ⟨r, hr, ?_⟩
  rw [List.mem_range'_1]
  omega

theorem isWord_of_isBlank {c : Char} (h : isBlank c = true) : isWord c = false := by
  have hall : ∀ n ∈ codes blankRanges, isWord (Char.ofNat n) = false := by decide +kernel
  have hc := hall c.toNat (mem_codes_of_within h)
  rwa [Char.ofNat_toNat] at hc

theorem toNat_lt_of_isAlpha {c : Char} (h : c.isAlpha = true) : c.toNat < 128 := by
  have hcases : c.isUpper = true ∨ c.isLower = true := Bool.or_eq_true_iff.mp h
  rcases hcases with hu | hl
  · have hz : c.val ≤ 'Z'.val := (of_decide_eq_true hu).2
    have h90 : c.toNat ≤ 90 := UInt32.le_iff_toNat_le.mp hz
    omega
  · have hz : c.val ≤ 'z'.val := of_decide_eq_true (Bool.and_eq_true_iff.mp hl).2
    have h122 : c.toNat ≤ 122 := UInt32.le_iff_toNat_le.mp hz
    omega

end Wiring.Text

namespace Wiring.Annotation

open Wiring.Text

theorem isNamePart_of_isNameStart {c : Char} (h : isNameStart c = true) : isNamePart c = true := by
  simp only [isNameStart, Bool.or_eq_true, beq_iff_eq] at h
  rcases h with (h | rfl) | rfl
  · have hw := isWord_of_isAlphanum (toNat_lt_of_isAlpha h) (by simp [Char.isAlphanum, h])
    simp [isNamePart, hw]
  · decide
  · decide

theorem isNamePart_of_isBlank {c : Char} (h : isBlank c = true) : isNamePart c = false := by
  have hd : c ≠ '$' := by
    rintro rfl
    exact absurd h (by decide)
  simp [isNamePart, isWord_of_isBlank h, hd]

theorem isBlank_of_isNamePart {c : Char} (h : isNamePart c = true) : isBlank c = false := by
  cases hb : isBlank c with
  | false => rfl
  | true => exact absurd h (by simp [isNamePart_of_isBlank hb])

theorem eq_of_isStop {c : Char} (h : isStop c = true) : c = ',' ∨ c = ')' ∨ c = '}' := by
  simpa [isStop, or_assoc] using h

theorem mark_spec : ∀ c ∈ '=' :: '.' :: marks, isNamePart c = false ∧ isBlank c = false := by
  have hall : ('=' :: '.' :: marks).all (fun c => !isNamePart c && !isBlank c) = true := by
    decide +kernel
  intro c hc
  simpa using List.all_eq_true.mp hall c hc

theorem ne_mark_of_isNamePart {c m : Char} (h : isNamePart c = true)
    (hm : m ∈ '=' :: '.' :: marks) : c ≠ m := by
  rintro rfl
  exact absurd h (by simp [(mark_spec c hm).1])

theorem ne_mark_of_isBlank {c m : Char} (h : isBlank c = true) (hm : m ∈ '=' :: '.' :: marks) :
    c ≠ m := by
  rintro rfl
  exact absurd h (by simp [(mark_spec c hm).2])

end Wiring.Annotation
