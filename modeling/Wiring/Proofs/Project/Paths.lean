import Mathlib.Data.String.Basic
import Wiring.Project

namespace Wiring

namespace Text

theorem precedesList_iff {s t : List Char} : precedesList s t = true ↔ ¬ t < s := by
  induction s generalizing t with
  | nil => simp [precedesList]
  | cons a s ih =>
    cases t with
    | nil => simp [precedesList]
    | cons b t =>
      have hcode : a.toNat = b.toNat ↔ a = b := Char.toNat_inj
      have horder : a.toNat < b.toNat ↔ a < b := UInt32.lt_iff_toNat_lt.symm
      rw [precedesList, Bool.or_eq_true, Bool.and_eq_true, decide_eq_true_eq, beq_iff_eq, hcode,
        horder, ih, List.cons_lt_cons_iff]
      rcases lt_trichotomy a b with hlt | rfl | hgt
      · simp [hlt, hlt.not_gt, hlt.ne']
      · simp
      · simp [hgt, hgt.not_gt, hgt.ne']

theorem precedes_iff {s t : String} : precedes s t = true ↔ s ≤ t := by
  rw [precedes, precedesList_iff, ← String.lt_iff_toList_lt, not_lt]

end Text

namespace Project

def IsPath (names : List String) : Prop := names ≠ [] ∧ ∀ n ∈ names, '/' ∉ n.toList

theorem relativePath_inj {names others : List String} (h : IsPath names) (h' : IsPath others)
    (he : relativePath names = relativePath others) : names = others := by
  have hsplit : ∀ {names : List String}, IsPath names →
      (relativePath names).toList.splitOn '/' = names.map String.toList := by
    intro names h
    have hslash : "/".toList = ['/'] := by decide
    rw [relativePath, String.toList_intercalate, hslash]
    apply List.splitOn_intercalate
    · intro l hl
      obtain ⟨n, hn, rfl⟩ := List.mem_map.mp hl
      exact h.2 n hn
    · simpa using h.1
  have hlists : names.map String.toList = others.map String.toList := by
    rw [← hsplit h, ← hsplit h', he]
  exact List.map_injective_iff.mpr (fun _ _ => String.toList_inj.mp) hlists

end Project

end Wiring
