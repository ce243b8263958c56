import Mathlib.Data.List.Basic
import Mathlib.Data.List.MinMax
import Wiring.Stereotype

namespace Wiring.Stereotype

theorem best_eq (s t : Stereotype) : best s t = s ∨ best s t = t := by
  unfold best
  split
  · exact .inr rfl
  · exact .inl rfl

theorem rank_best_le (s t : Stereotype) : (best s t).rank ≤ s.rank ∧ (best s t).rank ≤ t.rank := by
  unfold best
  split <;> omega

theorem foldl_best_mem (s : Stereotype) (ss : List Stereotype) : ss.foldl best s ∈ s :: ss := by
  induction ss generalizing s with
  | nil => exact List.mem_singleton.mpr rfl
  | cons t ss ih =>
    rcases List.mem_cons.mp (ih (best s t)) with h | h
    · rw [List.foldl_cons, h]
      rcases best_eq s t with hb | hb
      · rw [hb]; exact List.mem_cons_self
      · rw [hb]; exact List.mem_cons_of_mem _ List.mem_cons_self
    · exact List.mem_cons_of_mem _ (List.mem_cons_of_mem _ h)

theorem rank_foldl_best_le (s : Stereotype) (ss : List Stereotype) :
    ∀ t ∈ s :: ss, (ss.foldl best s).rank ≤ t.rank := by
  induction ss generalizing s with
  | nil =>
    intro t ht
    rw [List.mem_singleton.mp ht]
    exact Nat.le_refl _
  | cons u ss ih =>
    have hb := ih (best s u) _ List.mem_cons_self
    obtain ⟨hs, hu⟩ := rank_best_le s u
    intro t ht
    rcases List.mem_cons.mp ht with rfl | ht
    · exact Nat.le_trans hb hs
    · rcases List.mem_cons.mp ht with rfl | ht
      · exact Nat.le_trans hb hu
      · exact ih (best s u) t (List.mem_cons_of_mem _ ht)

theorem mostSpecific?_eq_none {l : List Stereotype} : mostSpecific? l = none ↔ l = [] := by
  cases l <;> simp [mostSpecific?]

theorem mostSpecific?_eq_some_iff {l : List Stereotype} {s : Stereotype} :
    mostSpecific? l = some s ↔ s ∈ l ∧ ∀ t ∈ l, s.rank ≤ t.rank := by
  cases l with
  | nil => simp [mostSpecific?]
  | cons u ss =>
    simp only [mostSpecific?, Option.some.injEq]
    constructor
    · rintro rfl
      exact ⟨foldl_best_mem u ss, rank_foldl_best_le u ss⟩
    · rintro ⟨hs, hle⟩
      apply rank_injective
      have h₁ := hle _ (foldl_best_mem u ss)
      have h₂ := rank_foldl_best_le u ss s hs
      omega

theorem mostSpecific?_eq_argmin (l : List Stereotype) : mostSpecific? l = l.argmin rank := by
  cases hl : l.argmin rank with
  | none => rw [mostSpecific?_eq_none, List.argmin_eq_none.mp hl]
  | some s =>
    rw [mostSpecific?_eq_some_iff]
    exact ⟨List.argmin_mem hl, fun t ht => List.le_of_mem_argmin ht hl⟩

section Given

variable {l : List Stereotype} (given : Stereotype → Prop)

theorem mostSpecific?_eq_some_iff_given (hl : ∀ s ∈ l, given s)
    (hgiven : ∀ s, given s → ∃ t ∈ l, t.rank ≤ s.rank) (s : Stereotype) :
    mostSpecific? l = some s ↔ given s ∧ ∀ t, given t → s.rank ≤ t.rank := by
  rw [mostSpecific?_eq_some_iff]
  constructor
  · rintro ⟨hs, hle⟩
    refine ⟨hl s hs, ?_⟩
    intro t ht
    obtain ⟨u, hu, hut⟩ := hgiven t ht
    exact (hle u hu).trans hut
  · rintro ⟨hs, hle⟩
    obtain ⟨u, hu, hus⟩ := hgiven s hs
    -- what is given and most specific has the rank of something in the list, so it is that
    have hsu : s.rank = u.rank := (hle u (hl u hu)).antisymm hus
    rw [rank_injective hsu]
    exact ⟨hu, fun t ht => hsu ▸ hle t (hl t ht)⟩

theorem mostSpecific?_eq_none_iff_given (hl : ∀ s ∈ l, given s)
    (hgiven : ∀ s, given s → ∃ t ∈ l, t.rank ≤ s.rank) :
    mostSpecific? l = none ↔ ∀ s, ¬ given s := by
  rw [mostSpecific?_eq_none, List.eq_nil_iff_forall_not_mem]
  constructor
  · intro h s hs
    obtain ⟨t, ht, _⟩ := hgiven s hs
    exact h t ht
  · intro h s hs
    exact h s (hl s hs)

end Given

theorem mostSpecific?_congr {l m : List Stereotype} (h : ∀ s, s ∈ l ↔ s ∈ m) :
    mostSpecific? l = mostSpecific? m := by
  apply Option.ext
  intro s
  simp only [mostSpecific?_eq_some_iff, h]

theorem mostSpecific?_perm {l m : List Stereotype} (h : l.Perm m) :
    mostSpecific? l = mostSpecific? m := mostSpecific?_congr (fun _ => h.mem_iff)

end Wiring.Stereotype
