import Mathlib.Data.List.Basic
import Wiring.Command.Run

namespace Wiring

open Wiring.Text

namespace Text

theorem lowerAfter_eq_nil {before s : List Char} : lowerAfter before s = [] ↔ s = [] := by
  cases s with
  | nil => simp [lowerAfter]
  | cons c rest =>
    have hsmall : (if c = 'Σ' then (if meetsCased before && !meetsCased rest then ['ς'] else ['σ'])
        else if c = 'İ' then ['i', Char.ofNat 0x307] else [lowerChar c]) ≠ [] := by
      split
      · split
        · exact List.cons_ne_nil _ _
        · exact List.cons_ne_nil _ _
      · split
        · exact List.cons_ne_nil _ _
        · exact List.cons_ne_nil _ _
    rw [lowerAfter]
    exact iff_of_false (fun h => hsmall (List.append_eq_nil_iff.mp h).1) (List.cons_ne_nil _ _)

end Text

namespace Feature

theorem ofName?_eq_none {name : String} : ofName? name = none ↔ name ∉ all.map Feature.name := by
  simp [ofName?, List.find?_eq_none, List.mem_map]

end Feature

namespace Setup

theorem normalName_eq_empty {s : String} : normalName s = "" ↔ trim s.toList = [] := by
  rw [normalName, lowercase, String.toList_ofList, ← @lowerAfter_eq_nil []]
  exact String.ofList_eq_empty_iff

theorem withFeatures_error_iff {s : Setup} {names : List String} :
    (∃ e, s.withFeatures names = .error e) ↔
      ∃ n ∈ names, trim n.toList ≠ [] ∧ normalName n ∉ Feature.all.map Feature.name := by
  have hunknown : (∃ e, s.withFeatures names = .error e) ↔
      ((names.map normalName).filter (fun n => !n.isEmpty)).filter
        (fun n => (Feature.ofName? n).isNone) ≠ [] := by
    rw [withFeatures]
    split
    · next h => simp [h]
    · next h => exact iff_of_true ⟨_, rfl⟩ h
  rw [hunknown]
  constructor
  · intro h
    obtain ⟨m, hm⟩ := List.exists_mem_of_ne_nil _ h
    obtain ⟨hm, hnone⟩ := List.mem_filter.mp hm
    obtain ⟨hm, hne⟩ := List.mem_filter.mp hm
    obtain ⟨n, hn, rfl⟩ := List.mem_map.mp hm
    refine ⟨n, hn, ?_, Feature.ofName?_eq_none.mp (Option.isNone_iff_eq_none.mp hnone)⟩
    intro hblank
    rw [normalName_eq_empty.mpr hblank] at hne
    cases hne
  · rintro ⟨n, hn, hblank, hnone⟩
    have hne : (normalName n).isEmpty = false := by
      rw [Bool.eq_false_iff, ne_eq, String.isEmpty_iff, normalName_eq_empty]
      exact hblank
    apply List.ne_nil_of_mem (a := normalName n)
    refine List.mem_filter.mpr ⟨List.mem_filter.mpr ⟨List.mem_map_of_mem hn, ?_⟩, ?_⟩
    · rw [hne]
      rfl
    · exact Option.isNone_iff_eq_none.mpr (Feature.ofName?_eq_none.mpr hnone)

theorem withWorkers_error_iff {s : Setup} {count : Int} :
    (∃ e, s.withWorkers count = .error e) ↔ count < 1 := by
  rw [withWorkers]
  split
  · next h => exact iff_of_true ⟨_, rfl⟩ h
  · next h => exact iff_of_false (fun ⟨_, he⟩ => nomatch he) h

end Setup

namespace Command

def Request.Misconfigured (r : Request) : Prop :=
  (∃ n ∈ r.features.splitOn ",", trim n.toList ≠ [] ∧
    Setup.normalName n ∉ Feature.all.map Feature.name) ∨ r.workers < 1

instance (r : Request) : Decidable r.Misconfigured := inferInstanceAs (Decidable (_ ∨ _))

theorem configOf_error_iff {r : Request} : (∃ e, configOf r = .error e) ↔ r.Misconfigured := by
  rw [Request.Misconfigured, ← Setup.withFeatures_error_iff (s := .empty), configOf]
  cases Setup.empty.withFeatures (r.features.splitOn ",") with
  | error e => exact iff_of_true ⟨e, rfl⟩ (.inl ⟨e, rfl⟩)
  | ok s =>
    rw [← Setup.withWorkers_error_iff (s := s)]
    have hdone : ¬ ∃ e, (Except.ok s : Except ConfigError Setup) = .error e :=
      fun ⟨_, h⟩ => nomatch h
    rw [or_iff_right hdone]
    show (∃ e, (do return (← s.withWorkers r.workers).build) = Except.error e) ↔ _
    cases s.withWorkers r.workers with
    | error e => exact iff_of_true ⟨e, rfl⟩ ⟨e, rfl⟩
    | ok s => exact iff_of_false (fun ⟨_, h⟩ => nomatch h) (fun ⟨_, h⟩ => nomatch h)

theorem configOf_ok {r : Request} (h : ¬ r.Misconfigured) : ∃ c, configOf r = .ok c := by
  cases hc : configOf r with
  | ok c => exact ⟨c, rfl⟩
  | error e => exact absurd (configOf_error_iff.mp ⟨e, hc⟩) h

end Command

end Wiring
