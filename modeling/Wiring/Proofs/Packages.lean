import Wiring.Proofs.Split
import Wiring.Text.Dotted

namespace Wiring.Text

def segments (package : String) : List String := package.splitOn "."

variable {p q r : String}

theorem segments_eq (package : String) :
    segments package = (package.toList.splitOn '.').map String.ofList :=
  splitOn_singleton package '.'

theorem segments_ne_nil (package : String) : segments package ≠ [] := by
  rw [segments_eq, ne_eq, List.map_eq_nil_iff]
  exact List.splitOn_ne_nil '.' package.toList

theorem intercalate_segments (package : String) : ".".intercalate (segments package) = package := by
  have hlists : (segments package).map String.toList = package.toList.splitOn '.' := by
    rw [segments_eq, List.map_map]
    exact (List.map_congr_left (fun _ _ => String.toList_ofList)).trans (List.map_id _)
  apply String.toList_inj.mp
  rw [String.toList_intercalate, hlists]
  exact List.intercalate_splitOn '.'

theorem segments_append (p rest : String) :
    segments (p ++ "." ++ rest) = segments p ++ segments rest := by
  have hdot : (p ++ "." ++ rest).toList = p.toList ++ '.' :: rest.toList := by simp
  rw [segments_eq, segments_eq, segments_eq, hdot, List.splitOn_append_cons_self, List.map_append]

theorem segments_prefix_iff :
    segments q <+: segments p ↔ p = q ∨ ∃ rest, p = q ++ "." ++ rest := by
  constructor
  · rintro ⟨more, h⟩
    have hp : p = ".".intercalate (segments q ++ more) := by rw [h, intercalate_segments]
    by_cases hmore : more = []
    · rw [hmore, List.append_nil, intercalate_segments] at hp
      exact .inl hp
    · rw [String.intercalate_append_of_ne_nil (segments_ne_nil q) hmore, intercalate_segments] at hp
      exact .inr ⟨_, hp⟩
  · rintro (rfl | ⟨rest, rfl⟩)
    · exact List.prefix_refl _
    · rw [segments_append]
      exact List.prefix_append _ _

theorem liesUnder_iff : liesUnder p q = true ↔ q = "" ∨ p = q ∨ ∃ rest, p = q ++ "." ++ rest := by
  have hprefix : q.toList ++ ['.'] <+: p.toList ↔ ∃ rest, p = q ++ "." ++ rest := by
    constructor
    · rintro ⟨rest, h⟩
      refine ⟨String.ofList rest, String.toList_inj.mp ?_⟩
      simpa using h.symm
    · rintro ⟨rest, rfl⟩
      exact ⟨rest.toList, by simp⟩
  rw [liesUnder, Bool.or_eq_true, Bool.or_eq_true, String.isEmpty_iff, beq_iff_eq,
    List.isPrefixOf_iff_prefix, hprefix, or_assoc]

theorem liesUnder_iff_segments : liesUnder p q = true ↔ q = "" ∨ segments q <+: segments p := by
  rw [liesUnder_iff, segments_prefix_iff]

theorem liesUnder_refl (p : String) : liesUnder p p = true := liesUnder_iff.mpr (.inr (.inl rfl))

theorem eq_empty_of_liesUnder_empty (h : liesUnder "" q = true) : q = "" := by
  rcases liesUnder_iff.mp h with hq | hq | ⟨rest, hq⟩
  · exact hq
  · exact hq.symm
  · simpa using congrArg String.toList hq

theorem liesUnder_trans (hpq : liesUnder p q = true) (hqr : liesUnder q r = true) :
    liesUnder p r = true := by
  rw [liesUnder_iff_segments] at hpq ⊢
  rcases hpq with rfl | hpq
  · exact .inl (eq_empty_of_liesUnder_empty hqr)
  · exact (liesUnder_iff_segments.mp hqr).imp_right (fun h => h.trans hpq)

theorem liesUnder_antisymm (hpq : liesUnder p q = true) (hqp : liesUnder q p = true) : p = q := by
  rcases liesUnder_iff_segments.mp hpq with rfl | hq
  · exact eq_empty_of_liesUnder_empty hqp
  · rcases liesUnder_iff_segments.mp hqp with rfl | hp
    · exact (eq_empty_of_liesUnder_empty hpq).symm
    · have hsegments : segments p = segments q := hp.eq_of_length_le hq.length_le
      rw [← intercalate_segments p, hsegments, intercalate_segments]

theorem liesUnder_append_iff (hq : q ≠ "") (rest : String) :
    liesUnder (q ++ rest) q = true ↔ rest = "" ∨ ∃ more, rest = "." ++ more := by
  simp [liesUnder_iff, hq, String.append_assoc]

end Wiring.Text
