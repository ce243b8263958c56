import Mathlib.Data.List.Nodup

namespace Wiring

variable {α : Type} [DecidableEq α]

def once (l : List α) (a : α) : List α := if a ∈ l then l else l ++ [a]

def gather (l as : List α) : List α := as.foldl once l

theorem once_of_mem {l : List α} {a : α} (h : a ∈ l) : once l a = l := if_pos h

theorem once_of_notMem {l : List α} {a : α} (h : a ∉ l) : once l a = l ++ [a] := if_neg h

theorem mem_once {l : List α} {a b : α} : b ∈ once l a ↔ b ∈ l ∨ b = a := by
  by_cases ha : a ∈ l
  · rw [once_of_mem ha]
    constructor
    · exact .inl
    · rintro (h | rfl)
      · exact h
      · exact ha
  · rw [once_of_notMem ha, List.mem_append, List.mem_singleton]

theorem nodup_once {l : List α} {a : α} (h : l.Nodup) : (once l a).Nodup := by
  by_cases ha : a ∈ l
  · rw [once_of_mem ha]; exact h
  · rw [once_of_notMem ha, ← List.concat_eq_append]
    exact h.concat ha

omit [DecidableEq α] in
theorem prefix_of_eq {l m : List α} (h : l = m) : l <+: m := h ▸ List.prefix_rfl

theorem prefix_once (l : List α) (a : α) : l <+: once l a := by
  by_cases ha : a ∈ l
  · exact prefix_of_eq (once_of_mem ha).symm
  · rw [once_of_notMem ha]; exact List.prefix_append l [a]

theorem gather_nil (l : List α) : gather l [] = l := rfl

theorem gather_cons (l : List α) (a : α) (as : List α) :
    gather l (a :: as) = gather (once l a) as := rfl

theorem gather_append (l as bs : List α) : gather l (as ++ bs) = gather (gather l as) bs :=
  List.foldl_append

theorem mem_gather {l as : List α} {b : α} : b ∈ gather l as ↔ b ∈ l ∨ b ∈ as := by
  induction as generalizing l with
  | nil => simp [gather_nil]
  | cons a as ih => rw [gather_cons, ih, mem_once, List.mem_cons, or_assoc]

theorem nodup_gather {l : List α} (as : List α) (h : l.Nodup) : (gather l as).Nodup := by
  induction as generalizing l with
  | nil => exact h
  | cons a as ih => exact ih (nodup_once h)

theorem prefix_gather (l as : List α) : l <+: gather l as := by
  induction as generalizing l with
  | nil => exact List.prefix_refl l
  | cons a as ih => exact (prefix_once l a).trans (ih (once l a))

theorem gather_eq_append (l as : List α) :
    gather l as = l ++ (as.filter (fun a => a ∉ l)).eraseDups := by
  induction as generalizing l with
  | nil => simp [gather_nil]
  | cons a as ih =>
    rw [gather_cons, ih]
    by_cases ha : a ∈ l
    · simp [once_of_mem ha, ha]
    · have hrest : as.filter (fun b => b ∉ l ++ [a]) =
          (as.filter (fun b => b ∉ l)).filter (fun b => !b == a) := by
        rw [List.filter_filter]
        apply List.filter_congr
        intro b _
        by_cases hb : b = a <;> simp [hb]
      rw [once_of_notMem ha, hrest, List.filter_cons_of_pos (by simpa using ha), List.eraseDups_cons,
        List.append_assoc, List.singleton_append]

theorem gather_nil_eq_eraseDups (as : List α) : gather [] as = as.eraseDups := by
  simp [gather_eq_append]

theorem gather_congr {as bs : List α} (h : ∀ a, a ∈ as ↔ a ∈ bs) :
    (gather [] as).Perm (gather [] bs) := by
  apply (List.perm_ext_iff_of_nodup (nodup_gather as .nil) (nodup_gather bs .nil)).mpr
  intro a
  rw [mem_gather, mem_gather, h]

theorem gather_perm {as bs : List α} (h : as.Perm bs) : (gather [] as).Perm (gather [] bs) :=
  gather_congr (fun _ => h.mem_iff)

end Wiring
