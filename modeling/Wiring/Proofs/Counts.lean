import Mathlib.Algebra.BigOperators.Group.List.Lemmas
import Mathlib.Algebra.Ring.Nat
import Mathlib.Data.List.Induction
import Wiring.Notice
import Wiring.Proofs.Once

namespace Wiring.Counts

variable {names : List String} {name : String}

def get (c : Counts) (name : String) : Nat :=
  ((c.find? (fun p => p.1 == name)).map (·.2)).getD 0

def tally (names : List String) : Counts :=
  names.eraseDups.map (fun name => (name, names.count name))

theorem any_tally : (tally names).any (fun p => p.1 == name) = true ↔ name ∈ names := by
  simp [tally]

theorem tally_concat (names : List String) (name : String) :
    tally (names ++ [name]) = (tally names).add name := by
  have hkeys : (names ++ [name]).eraseDups = once names.eraseDups name := by
    rw [← gather_nil_eq_eraseDups, gather_append, gather_nil_eq_eraseDups]
    rfl
  rw [add, tally, hkeys]
  by_cases h : name ∈ names
  · rw [once_of_mem (List.mem_eraseDups.mpr h), if_pos (any_tally.mpr h), tally, List.map_map]
    apply List.map_congr_left
    intro other _
    by_cases he : other = name
    · simp [he]
    · simp [he, Ne.symm he]
  · rw [once_of_notMem (mt List.mem_eraseDups.mp h), if_neg (mt any_tally.mp h), tally,
      List.map_append]
    congr 1
    · apply List.map_congr_left
      intro other hother
      have hne : name ≠ other := by
        rintro rfl
        exact h (List.mem_eraseDups.mp hother)
      simp [hne]
    · simp [List.count_eq_zero_of_not_mem h]

theorem ofNames_eq (names : List String) : ofNames names = tally names := by
  induction names using List.reverseRecOn with
  | nil => rfl
  | append_singleton names name ih =>
    rw [tally_concat, ← ih, ofNames, List.foldl_concat]
    rfl

theorem sum_ofNames (names : List String) :
    ((ofNames names).map (·.2)).sum = names.length := by
  have hperm : names.eraseDups.Perm names.dedup := by
    rw [← gather_nil_eq_eraseDups]
    apply (List.perm_ext_iff_of_nodup (nodup_gather names .nil) names.nodup_dedup).mpr
    intro name
    simp [mem_gather]
  rw [ofNames_eq, tally, List.map_map]
  exact (hperm.map _).sum_eq.trans (List.sum_map_count_dedup_eq_length names)

theorem pos_of_mem_ofNames {p : String × Nat} (h : p ∈ ofNames names) : 0 < p.2 := by
  rw [ofNames_eq] at h
  obtain ⟨name, hname, rfl⟩ := List.mem_map.mp h
  exact List.count_pos_iff.mpr (List.mem_eraseDups.mp hname)

theorem get_ofNames (names : List String) (name : String) :
    (ofNames names).get name = names.count name := by
  rw [ofNames_eq, get, tally, List.find?_map, Option.map_map]
  cases h : names.eraseDups.find? ((fun p => p.1 == name) ∘ fun name => (name, names.count name)) with
  | none =>
    have hnot : name ∉ names := by
      intro hmem
      have hne := List.find?_eq_none.mp h name (List.mem_eraseDups.mpr hmem)
      simp at hne
    simp [List.count_eq_zero_of_not_mem hnot]
  | some other =>
    have he : other = name := by simpa using List.find?_some h
    simp [he]

theorem nodup_keys_ofNames (names : List String) : ((ofNames names).map (·.1)).Nodup := by
  have hkeys : (ofNames names).map (·.1) = names.eraseDups := by
    rw [ofNames_eq, tally, List.map_map]
    exact List.map_id _
  rw [hkeys, ← gather_nil_eq_eraseDups]
  exact nodup_gather names .nil

end Wiring.Counts
