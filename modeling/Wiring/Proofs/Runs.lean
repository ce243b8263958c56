import Mathlib.Data.List.Basic

namespace Wiring.Text

variable {α : Type} {p : α → Bool} {s r : List α}

theorem dropWhile_stop (h : ∀ c ∈ r.head?, p c = false) : r.dropWhile p = r := by
  cases r with
  | nil => rfl
  | cons c r => exact List.dropWhile_cons_of_neg (by simp [h c rfl])

theorem dropWhile_append_stop (hs : ∀ c ∈ s, p c = true) (hr : ∀ c ∈ r.head?, p c = false) :
    (s ++ r).dropWhile p = r := by
  rw [List.dropWhile_append_of_pos hs, dropWhile_stop hr]

theorem takeWhile_append_stop (hs : ∀ c ∈ s, p c = true) (hr : ∀ c ∈ r.head?, p c = false) :
    (s ++ r).takeWhile p = s := by
  have h := List.takeWhile_append_dropWhile (p := p) (l := s ++ r)
  rw [dropWhile_append_stop hs hr] at h
  exact List.append_cancel_right h

end Wiring.Text
