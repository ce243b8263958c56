namespace Wiring.Text

def precedesList : List Char → List Char → Bool
  | [], _ => true
  | _ :: _, [] => false
  | a :: s, b :: t => a.toNat < b.toNat || (a.toNat == b.toNat && precedesList s t)

theorem precedesList_total (s t : List Char) : precedesList s t || precedesList t s := by
  induction s generalizing t with
  | nil => simp [precedesList]
  | cons a s ih =>
    cases t with
    | nil => simp [precedesList]
    | cons b t =>
      rcases Nat.lt_trichotomy a.toNat b.toNat with h | h | h
      · simp [precedesList, h]
      · simpa [precedesList, h] using ih t
      · simp [precedesList, h]

theorem precedesList_trans {s t u : List Char} (hst : precedesList s t) (htu : precedesList t u) :
    precedesList s u := by
  induction s generalizing t u with
  | nil => simp [precedesList]
  | cons a s ih =>
    cases t with
    | nil => simp [precedesList] at hst
    | cons b t =>
      cases u with
      | nil => simp [precedesList] at htu
      | cons c u =>
        have hsu := @ih t u
        simp only [precedesList, Bool.or_eq_true, Bool.and_eq_true, decide_eq_true_eq,
          beq_iff_eq] at *
        rcases hst with hab | ⟨hab, hst⟩ <;> rcases htu with hbc | ⟨hbc, htu⟩
        · exact Or.inl (by omega)
        · exact Or.inl (by omega)
        · exact Or.inl (by omega)
        · exact Or.inr ⟨by omega, hsu hst htu⟩

def precedes (s t : String) : Bool := precedesList s.toList t.toList

end Wiring.Text
