import Wiring.Proofs.Annotation.Progress

namespace Wiring.Annotation

open Wiring.Text

variable {s r : List Char} {v : Value}

theorem readExpression_cases (h : readExpression s = .ok (v, r)) :
    ∃ ps, pieces [] s = .ok (ps, r) ∧ joinPieces ps ≠ [] ∧ v = classify (joinPieces ps) := by
  rw [readExpression_eq] at h
  split at h
  · cases h
  · next ps u hp =>
    split at h
    · cases h
    · next hne =>
      cases h
      exact ⟨ps, hp, hne, rfl⟩

theorem readValue_cases (h : readValue s = .ok (v, r)) :
    ∃ c u, skipLayout s = .ok (c :: u) ∧
      ((∃ vs, c = '{' ∧ readItems u = .ok (vs, r) ∧ v = .list vs) ∨
        (∃ x, c = '"' ∧ stringLiteral (c :: u) = .ok (x, r) ∧ v = .string (String.ofList x)) ∨
          (c ≠ '{' ∧ readExpression (c :: u) = .ok (v, r))) := by
  rw [readValue_eq] at h
  split at h
  · cases h
  · cases h
  · next c u hu =>
    refine ⟨c, u, hu, ?_⟩
    split at h
    · next hopen =>
      cases hitems : readItems u with
      | error f => rw [hitems] at h; cases h
      | ok p =>
        rw [hitems] at h
        cases h
        exact .inl ⟨p.1, hopen, rfl, rfl⟩
    · next hopen =>
      split at h
      · next hquote =>
        split at h
        · cases h
        · next x rest hx =>
          split at h
          · cases h
          · split at h
            · cases h
              exact .inr (.inl ⟨x, hquote, hx, rfl⟩)
            · exact .inr (.inr ⟨hopen, h⟩)
      · exact .inr (.inr ⟨hopen, h⟩)

theorem readItems_cases {vs : List Value} (h : readItems s = .ok (vs, r)) :
    ∃ c u, skipLayout s = .ok (c :: u) ∧
      ((c = '}' ∧ vs = [] ∧ r = u) ∨
        ∃ v after d rest, readValue (c :: u) = .ok (v, after) ∧ skipLayout after = .ok (d :: rest) ∧
          ((d = '}' ∧ vs = [v] ∧ r = rest) ∨
            ∃ ws, d = ',' ∧ readItems rest = .ok (ws, r) ∧ vs = v :: ws)) := by
  rw [readItems_eq] at h
  split at h
  · cases h
  · cases h
  · next c u hu =>
    refine ⟨c, u, hu, ?_⟩
    split at h
    · next hclose =>
      cases h
      exact .inl ⟨hclose, rfl, rfl⟩
    · split at h
      · cases h
      · next v after hv =>
        split at h
        · cases h
        · cases h
        · next d rest hrest =>
          refine .inr ⟨v, after, d, rest, hv, hrest, ?_⟩
          split at h
          · next hcomma =>
            cases hitems : readItems rest with
            | error f => rw [hitems] at h; cases h
            | ok p =>
              rw [hitems] at h
              cases h
              exact .inr ⟨p.1, hcomma, rfl, rfl⟩
          · split at h
            · next hclose =>
              cases h
              exact .inl ⟨hclose, rfl, rfl⟩
            · cases h

theorem readArgument_cases {k : Option (List Char)} (h : readArgument s = .ok (k, v, r)) :
    (k = none ∧ key? s = none ∧ readValue s = .ok (v, r)) ∨
      ∃ key u, k = some key ∧ key? s = some (key, u) ∧ readValue u = .ok (v, r) := by
  rw [readArgument_eq] at h
  split at h
  · next hk =>
    cases hv : readValue s with
    | error f => rw [hv] at h; cases h
    | ok p =>
      rw [hv] at h
      cases h
      exact .inl ⟨rfl, hk, rfl⟩
  · next key u hk =>
    cases hv : readValue u with
    | error f => rw [hv] at h; cases h
    | ok p =>
      rw [hv] at h
      cases h
      exact .inr ⟨key, u, rfl, hk, hv⟩

theorem arguments_cases {args : Arguments} (h : arguments s = .ok (args, r)) :
    ∃ u k v after c rest, skipLayout s = .ok u ∧ readArgument u = .ok (k, v, after) ∧
      skipLayout after = .ok (c :: rest) ∧
      ((c = ')' ∧ args = Arguments.add k v ⟨[], []⟩ ∧ r = rest) ∨
        ∃ others, c = ',' ∧ arguments rest = .ok (others, r) ∧ args = others.add k v) := by
  rw [arguments_eq] at h
  split at h
  · cases h
  · next u hu =>
    split at h
    · cases h
    · next k v after ha =>
      split at h
      · cases h
      · cases h
      · next c rest hrest =>
        refine ⟨u, k, v, after, c, rest, hu, ha, hrest, ?_⟩
        split at h
        · next hclose =>
          cases h
          exact .inl ⟨hclose, rfl, rfl⟩
        · split at h
          · next hcomma =>
            cases hothers : arguments rest with
            | error f => rw [hothers] at h; cases h
            | ok p =>
              rw [hothers] at h
              cases h
              exact .inr ⟨p.1, hcomma, rfl, rfl⟩
          · cases h

theorem argumentList_cases {args : Arguments} (h : argumentList s = .ok (args, r)) :
    (skipLayout s = .ok (')' :: r) ∧ args = ⟨[], []⟩) ∨
      ∃ u, skipLayout s = .ok u ∧ arguments u = .ok (args, r) := by
  rw [argumentList] at h
  split at h
  · cases h
  · next hu =>
    cases h
    exact .inl ⟨hu, rfl⟩
  · next u _ hu => exact .inr ⟨u, hu, h⟩

theorem ofTrimmed_cases {a : Annotation} (h : ofTrimmed s = .ok a) :
    ∃ t segs rest, s = '@' :: t ∧ dottedName? (t.dropWhile isBlank) = some (segs, rest) ∧
      ((skipLayout rest = .ok [] ∧ a = ⟨joinDots segs, [], []⟩) ∨
        ∃ u args after, skipLayout rest = .ok ('(' :: u) ∧ argumentList u = .ok (args, after) ∧
          skipLayout after = .ok [] ∧ a = ⟨joinDots segs, args.positional, args.named⟩) := by
  unfold ofTrimmed at h
  split at h
  · next t =>
    split at h
    · cases h
    · next segs rest hname =>
      refine ⟨t, segs, rest, rfl, hname, ?_⟩
      cases hrest : skipLayout rest with
      | error f => rw [hrest] at h; cases h
      | ok u =>
        rw [hrest] at h
        simp only [bind, Except.bind] at h
        split at h
        · cases h
          exact .inl ⟨rfl, rfl⟩
        · next u =>
          cases hargs : argumentList u with
          | error f => simp only [hargs] at h; cases h
          | ok p =>
            simp only [hargs] at h
            cases hafter : skipLayout p.2 with
            | error f => simp only [hafter] at h; cases h
            | ok after =>
              simp only [hafter] at h
              cases after with
              | nil =>
                cases h
                exact .inr ⟨u, p.1, p.2, rfl, hargs, hafter, rfl⟩
              | cons _ _ => cases h
        · cases h
  · cases h

def AreRead (items : List Item) : Prop := ∀ i ∈ items, ∃ u t, readArgument u = .ok (i.1, i.2, t)

theorem arguments_items {s r : List Char} {args : Arguments} (h : arguments s = .ok (args, r)) :
    ∃ items, AreRead items ∧ args = ⟨positionals items, keywordsOf items⟩ := by
  obtain ⟨u, k, v, after, c, rest, hu, ha, hrest, hnext⟩ := arguments_cases h
  rcases hnext with ⟨-, rfl, -⟩ | ⟨others, -, hothers, rfl⟩
  · refine ⟨[(k, v)], ?_, add_items (k, v) []⟩
    exact List.forall_mem_singleton.mpr ⟨u, after, ha⟩
  · have hle := skipLayout_le hu
    have hshorter : after.length < u.length := readArgument_shorter ha
    have hle' := skipLayout_le hrest
    obtain ⟨items, hread, rfl⟩ := arguments_items hothers
    refine ⟨(k, v) :: items, ?_, add_items (k, v) items⟩
    exact List.forall_mem_cons.mpr ⟨⟨u, after, ha⟩, hread⟩
termination_by s.length
decreasing_by
  rw [List.length_cons] at hle'
  omega

theorem argumentList_items {args : Arguments} (h : argumentList s = .ok (args, r)) :
    ∃ items, AreRead items ∧ args = ⟨positionals items, keywordsOf items⟩ := by
  rcases argumentList_cases h with ⟨-, rfl⟩ | ⟨u, -, hargs⟩
  · exact ⟨[], by simp [AreRead], rfl⟩
  · exact arguments_items hargs

theorem read_items {a : Annotation} (h : read s = .ok a) :
    ∃ items, AreRead items ∧ Interleaves items a := by
  rw [read] at h
  split at h
  · next b hb =>
    cases h
    obtain ⟨t, segs, rest, -, -, ⟨-, rfl⟩ | ⟨u, args, after, -, hargs, -, rfl⟩⟩ :=
      ofTrimmed_cases hb
    · exact ⟨[], by simp [AreRead], rfl, rfl⟩
    · obtain ⟨items, hread, rfl⟩ := argumentList_items hargs
      exact ⟨items, hread, rfl, rfl⟩
  · cases h

theorem read_of_walk {n : Nat} {a : Annotation} (hn : 2 * (trim s).length + 2 < n)
    (h : walk n s = pure a) : read s = .ok a := by
  have hagree := agree_trimmed hn
  rw [walk] at h
  rw [h] at hagree
  rw [read]
  cases hread : ofTrimmed (trim s) with
  | error f =>
    rw [hread] at hagree
    cases hagree
  | ok b =>
    rw [hread] at hagree
    cases hagree with
    | result h => rw [h]

theorem refused_of_walk {n : Nat} {f : Fault} (hn : 2 * (trim s).length + 2 < n)
    (h : walk n s = fail (trim s) f) : read s = .error ⟨trim s, f⟩ := by
  have hagree := agree_trimmed hn
  rw [walk] at h
  rw [h] at hagree
  rw [read]
  cases hread : ofTrimmed (trim s) with
  | error g =>
    rw [hread] at hagree
    cases hagree.eq_fail
    rfl
  | ok b =>
    rw [hread] at hagree
    obtain ⟨a, ha, -⟩ := hagree.exists_pure
    cases ha

end Wiring.Annotation
