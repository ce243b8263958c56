import Wiring.Proofs.Annotation.Positions
import Wiring.Proofs.Annotation.RoundTrip

/-!
Walks over values, arguments and whole annotations agree with the reader. So every walk ends, none
looks outside the text, and each that returns has moved on.
-/

namespace Wiring.Annotation

open Wiring.Text

variable {text s r : List Char} {n pos : Nat}

def Cuts (text : List Char) (start : Nat) (done : List (List Char)) (pos : Nat)
    (p : List (List Char) × Nat) (q : List (List Char) × List Char) : Prop :=
  (q.1 ≠ [] ∧ p.1 = done ++ addFront (slice text start pos) q.1) ∧ At text p.2 q.2

theorem Cuts.front {start stop : Nat} {done : List (List Char)} {t : List Char}
    {p : List (List Char) × Nat} {q : List (List Char) × List Char}
    (ht : slice text start stop = slice text start pos ++ t) (h : Cuts text start done stop p q) :
    Cuts text start done pos p (addFront t q.1, q.2) := by
  obtain ⟨⟨hne, hp⟩, hstop⟩ := h
  refine ⟨⟨?_, ?_⟩, hstop⟩
  · obtain ⟨u, us, hu⟩ := List.exists_cons_of_ne_nil hne
    rw [hu]
    exact List.cons_ne_nil _ _
  · rw [hp, ht, addFront_addFront]

theorem Cuts.comment {start next : Nat} {done : List (List Char)}
    {p : List (List Char) × Nat} {q : List (List Char) × List Char}
    (h : Cuts text next (done ++ [slice text start pos]) next p q) :
    Cuts text start done pos p ([] :: q.1, q.2) := by
  obtain ⟨⟨hne, hp⟩, hstop⟩ := h
  refine ⟨⟨List.cons_ne_nil _ _, ?_⟩, hstop⟩
  obtain ⟨u, us, hu⟩ := List.exists_cons_of_ne_nil hne
  rw [hp, hu, slice_self]
  simp [addFront]

theorem agree_endPieces {start : Nat} (done : List (List Char)) (h : At text pos s) :
    Agree text (Cuts text start done pos) (endPieces text start done [] pos) (.ok ([[]], s)) := by
  refine .result ⟨⟨List.cons_ne_nil _ _, ?_⟩, h⟩
  simp [addFront]

theorem ne_backslash_of_mark {c : Char} (hq : (c == '"' || c == '\'') = true) : c ≠ '\\' := by
  rintro rfl
  exact absurd hq (by decide)

section Signs

variable {start : Nat} {done : List (List Char)} {closers : List Char} {c : Char}

theorem walkPieces_mark (h : At text pos (c :: r)) (hc : comment? (c :: r) = none)
    (hq : (c == '"' || c == '\'') = true) :
    walkPieces text (n + 1) start done closers pos =
      walkLiteral text n pos >>= fun stop => walkPieces text n start done closers stop := by
  have hmark : c = '"' ∨ c = '\'' := by simpa using hq
  rw [walkPieces, if_pos h.lt, charAt_of_at h, pure_bind, if_neg (not_atComment h hc),
    if_pos hmark]

theorem walkPieces_open {q : Char} (h : At text pos (c :: r)) (hc : comment? (c :: r) = none)
    (hq : ¬ (c == '"' || c == '\'') = true) (hopen : closer? c = some q) :
    walkPieces text (n + 1) start done closers pos =
      walkPieces text n start done (q :: closers) (pos + 1) := by
  have hmark : ¬ (c = '"' ∨ c = '\'') := by simpa using hq
  rw [walkPieces, if_pos h.lt, charAt_of_at h, pure_bind, if_neg (not_atComment h hc),
    if_neg hmark, hopen]

theorem walkPieces_sign (h : At text pos (c :: r)) (hc : comment? (c :: r) = none)
    (hq : ¬ (c == '"' || c == '\'') = true) (hopen : closer? c = none) :
    walkPieces text (n + 1) start done closers pos =
      if closers.head? = some c then walkPieces text n start done closers.tail (pos + 1)
      else if closers = [] ∧ isStop c then endPieces text start done closers pos
      else if isCloser c then fail text (.unbalanced c)
      else walkPieces text n start done closers (pos + 1) := by
  have hmark : ¬ (c = '"' ∨ c = '\'') := by simpa using hq
  rw [walkPieces, if_pos h.lt, charAt_of_at h, pure_bind, if_neg (not_atComment h hc),
    if_neg hmark, hopen]

end Signs

theorem agree_pieces {start : Nat} (done : List (List Char)) (closers : List Char)
    (hstart : start ≤ pos) (hn : s.length < n) (h : At text pos s) :
    Agree text (Cuts text start done pos) (walkPieces text n start done closers pos)
      (pieces closers s) := by
  -- `start` stays where the piece at hand began, and moves only over a comment
  fun_induction pieces closers s generalizing n pos start done with
  | case1 =>
    obtain ⟨m, rfl, -⟩ := exists_succ hn
    rw [walkPieces, if_neg h.not_lt]
    exact agree_endPieces done h
  | case2 q closers =>
    obtain ⟨m, rfl, -⟩ := exists_succ hn
    rw [walkPieces, if_neg h.not_lt]
    exact .fault _
  | case3 closers c t e hc =>
    obtain ⟨m, rfl, -⟩ := exists_succ hn
    rw [walkPieces, if_pos h.lt, charAt_of_at h, pure_bind, if_pos (atComment_of_some h hc),
      (agree_comment h hc).eq_fail, fail_bind]
    exact .fault e
  | case4 closers c t rest hc ih =>
    obtain ⟨m, rfl, hm⟩ := exists_succ hn
    obtain ⟨next, hwalk, hnext⟩ := (agree_comment h hc).exists_pure
    rw [walkPieces, if_pos h.lt, charAt_of_at h, pure_bind, if_pos (atComment_of_some h hc),
      hwalk, pure_bind]
    have hrest := (comment?_shorter hc).trans_le hm
    exact (ih _ (Nat.le_refl _) hrest hnext).map (fun _ _ => Cuts.comment)
  | case5 closers c t hc hq hl =>
    obtain ⟨m, rfl, hm⟩ := exists_succ hn
    have hliteral := agree_literal (ne_backslash_of_mark hq) hm h
    rw [hl] at hliteral
    rw [walkPieces_mark h hc hq, hliteral.eq_fail, fail_bind]
    exact .fault _
  | case6 closers c t hc hq body rest hl ih =>
    obtain ⟨m, rfl, hm⟩ := exists_succ hn
    have hliteral := agree_literal (ne_backslash_of_mark hq) hm h
    rw [hl] at hliteral
    obtain ⟨stop, hwalk, hstop⟩ := hliteral.exists_pure
    rw [walkPieces_mark h hc hq, hwalk, pure_bind]
    have hrest := literalBody?_shorter hl
    rw [eq_append_of_literalBody? hl, ← List.cons_append] at h
    have heq : stop = pos + (c :: body).length := hstop.unique h.of_append
    apply (ih done (by omega) (hrest.trans hm) hstop).map
    exact fun _ _ => Cuts.front (heq ▸ slice_append hstart h)
  | case7 closers c t hc hq q hopen ih =>
    obtain ⟨m, rfl, hm⟩ := exists_succ hn
    rw [walkPieces_open h hc hq hopen]
    exact (ih done (by omega) hm h.cons).map (fun _ _ => Cuts.front (slice_cons hstart h))
  | case8 closers c t hc hq hopen hh ih =>
    obtain ⟨m, rfl, hm⟩ := exists_succ hn
    rw [walkPieces_sign h hc hq hopen, if_pos hh]
    exact (ih done (by omega) hm h.cons).map (fun _ _ => Cuts.front (slice_cons hstart h))
  | case9 closers c t hc hq hopen hh hs =>
    obtain ⟨m, rfl, -⟩ := exists_succ hn
    have hend : closers = [] ∧ isStop c = true := by simpa using hs
    rw [walkPieces_sign h hc hq hopen, if_neg hh, if_pos hend, hend.1]
    exact agree_endPieces done h
  | case10 closers c t hc hq hopen hh hs hk =>
    obtain ⟨m, rfl, -⟩ := exists_succ hn
    have hend : ¬ (closers = [] ∧ isStop c = true) := by simpa using hs
    rw [walkPieces_sign h hc hq hopen, if_neg hh, if_neg hend, if_pos hk]
    exact .fault _
  | case11 closers c t hc hq hopen hh hs hk ih =>
    obtain ⟨m, rfl, hm⟩ := exists_succ hn
    have hend : ¬ (closers = [] ∧ isStop c = true) := by simpa using hs
    rw [walkPieces_sign h hc hq hopen, if_neg hh, if_neg hend, if_neg hk]
    exact (ih done (by omega) hm h.cons).map (fun _ _ => Cuts.front (slice_cons hstart h))

theorem agree_expression (hn : s.length < n) (h : At text pos s) :
    Agree text (Reads text) (walkExpression text n pos) (readExpression s) := by
  rw [walkExpression, readExpression_eq]
  apply (agree_pieces [] [] (Nat.le_refl pos) hn h).bind
  · intro f hf
    rw [hf]
  · rintro q p hq ⟨⟨hne, hp⟩, hstop⟩
    have hsame : p.1 = q.1 := by
      obtain ⟨u, us, hu⟩ := List.exists_cons_of_ne_nil hne
      rw [hp, slice_self, hu]
      simp [addFront]
    rw [hq]
    dsimp only
    rw [hsame]
    split
    · exact .fault _
    · exact .result ⟨rfl, hstop⟩

theorem skipLayout_skipLayout (h : skipLayout s = .ok r) : skipLayout r = .ok r := by
  fun_induction skipLayout s with
  | case1 =>
    cases h
    exact skipLayout_nil
  | case2 c t hb ih => exact ih h
  | case3 c t hb hc =>
    cases h
    rw [skipLayout, if_neg hb]
    split
    · rfl
    · next he => rw [hc] at he; cases he
    · next he => rw [hc] at he; cases he
  | case4 => cases h
  | case5 c t hb rest hc ih => exact ih h

theorem agree_atValueEnd (hn : s.length < n) (h : At text pos s) :
    Agree text (fun b r => b = endsValue r) (atValueEnd text n pos) (skipLayout s) := by
  apply (agree_layout hn h).bind
  · intro f hf
    exact hf
  · intro r stop hr hstop
    rw [hr]
    apply agree_bind_charAt hstop
    · rintro rfl
      exact .result rfl
    · rintro c r rfl _
      exact .result rfl

theorem shorter_of_answer {x : Except Fault (Step s)} {v : Value}
    (h : x.map Step.answer = .ok (v, r)) : r.length < s.length := by
  cases x with
  | error f => cases h
  | ok st =>
    cases h
    exact st.shorter

theorem readItems_shorter {vs : List Value} (h : readItems s = .ok (vs, r)) :
    r.length < s.length := by
  rw [readItems] at h
  cases hs : items s with
  | error f => rw [hs] at h; cases h
  | ok st =>
    rw [hs] at h
    cases h
    exact st.shorter

def Lists (text : List Char) (done : List Value) (p : Value × Nat)
    (q : List Value × List Char) : Prop :=
  p.1 = .list (done ++ q.1) ∧ At text p.2 q.2

theorem Lists.cons {done : List Value} {v : Value} {p : Value × Nat} {q : List Value × List Char}
    (h : Lists text (done ++ [v]) p q) : Lists text done p (v :: q.1, q.2) := by
  obtain ⟨hlist, hstop⟩ := h
  refine ⟨?_, hstop⟩
  rw [hlist, List.append_assoc]
  rfl

theorem agree_closingBrace (done : List Value) (hn : r.length + 1 < n)
    (h : At text pos ('}' :: r)) :
    Agree text (Lists text done) (walkItems text (n + 1) done pos) (.ok ([], r)) := by
  have hstop := skipLayout_stop (by decide) (by decide) r (c := '}')
  rw [walkItems]
  apply (agree_layout hn h).bind
  · intro f hf
    rw [hstop] at hf
    cases hf
  · intro u start hu hstart
    rw [hstop] at hu
    cases hu
    rw [if_neg (Nat.not_le.mpr hstart.lt), charAt_of_at hstart, pure_bind, if_pos rfl]
    exact .result ⟨by rw [List.append_nil], hstart.cons⟩

theorem agree_openList {β : Type} (S : Value × Nat → β → Prop) (done : List Value) (hn : 0 < n)
    (h : At text pos []) :
    Agree text S (walkItems text (n + 1) done pos) (.error .missingBrace) := by
  rw [walkItems]
  apply (agree_layout hn h).bind
  · intro f hf
    rw [skipLayout_nil] at hf
    cases hf
  · intro u start hu hstart
    rw [skipLayout_nil] at hu
    cases hu
    rw [if_pos (Nat.le_of_eq hstart.eq_length.symm)]
    exact .fault _

theorem agree_quoted (hn : s.length + 1 < n) (h : At text pos ('"' :: s)) :
    Agree text (Reads text)
      (do
        let (value, stop) ← walkString text n pos
        if ← atValueEnd text n stop then pure (.string (String.ofList value), stop)
        else walkExpression text n pos)
      (match stringLiteral ('"' :: s) with
        | .error e => .error e
        | .ok (v, rest) =>
          match skipLayout rest with
          | .error e => .error e
          | .ok after =>
            if endsValue after then .ok (.string (String.ofList v), rest)
            else readExpression ('"' :: s)) := by
  apply (agree_string (Nat.lt_of_succ_lt hn) h).bind
  · intro f hf
    rw [hf]
  · rintro q p hq ⟨hvalue, hstop⟩
    have hrest := stringLiteral_shorter hq
    rw [List.length_cons] at hrest
    rw [hq]
    apply (agree_atValueEnd (hrest.trans hn) hstop).bind
    · intro f hf
      simp only [hf]
    · rintro after b hafter rfl
      simp only [hafter]
      split
      · exact .result ⟨by rw [hvalue], hstop⟩
      · exact agree_expression hn h

mutual

theorem agree_value {s : List Char} {n pos : Nat} (hn : 2 * s.length + 1 < n) (h : At text pos s) :
    Agree text (Reads text) (walkValue text n pos) (readValue s) := by
  -- two steps for each character are enough: an item takes one in its list, one as a value
  obtain ⟨m, rfl, hm⟩ := exists_succ hn
  rw [walkValue, readValue_eq]
  apply (agree_layout (by omega) h).bind
  · intro f hf
    rw [hf]
  · intro u start hu hstart
    have hle := skipLayout_le hu
    rw [hu]
    apply agree_bind_charAt hstart
    · rintro rfl
      exact .fault _
    · rintro c u rfl hc
      rw [List.length_cons] at hle
      dsimp only
      by_cases hbrace : c = '{'
      · rw [if_pos hbrace, if_pos hbrace]
        exact (agree_items [] (by omega) hc.cons).map (fun _ _ hlist => hlist)
      · rw [if_neg hbrace, if_neg hbrace]
        by_cases hquote : c = '"'
        · subst hquote
          exact agree_quoted (by omega) hc
        · rw [if_neg hquote, if_neg hquote]
          exact agree_expression (by rw [List.length_cons]; omega) hc
termination_by (s.length, 0)
decreasing_by
  rw [List.length_cons] at hle
  exact Prod.Lex.left _ _ (by omega)

theorem agree_items {s : List Char} {n pos : Nat} (done : List Value) (hn : 2 * s.length + 2 < n)
    (h : At text pos s) :
    Agree text (Lists text done) (walkItems text n done pos) (readItems s) := by
  obtain ⟨m, rfl, hm⟩ := exists_succ hn
  rw [walkItems, readItems_eq]
  apply (agree_layout (by omega) h).bind
  · intro f hf
    rw [hf]
  · intro u start hu hstart
    have hle := skipLayout_le hu
    rw [hu]
    apply agree_bind_charAt hstart
    · rintro rfl
      exact .fault _
    · rintro c u rfl hc
      dsimp only
      by_cases hbrace : c = '}'
      · rw [if_pos hbrace, if_pos hbrace]
        exact .result ⟨by rw [List.append_nil], hc.cons⟩
      · rw [if_neg hbrace, if_neg hbrace]
        apply (agree_value (by omega) hc).bind
        · intro f hf
          rw [hf]
        · rintro ⟨v, after⟩ ⟨_, stop⟩ hv ⟨rfl, hafter⟩
          have hshorter := shorter_of_answer hv
          have hlayout : after.length < m := by omega
          rw [hv]
          apply (agree_layout hlayout hafter).bind
          · intro f hf
            simp only [hf]
          · intro gap next hgap hnext
            have hle' : gap.length ≤ after.length := skipLayout_le hgap
            obtain ⟨k, rfl, hk⟩ := exists_succ hm
            simp only [hgap]
            apply agree_bind_charAt hnext
            · rintro rfl
              exact agree_openList _ _ (by omega) hnext
            · rintro d rest rfl hd
              rw [List.length_cons] at hle'
              dsimp only
              by_cases hcomma : d = ','
              · rw [if_pos hcomma, if_pos hcomma]
                exact (agree_items _ (by omega) hd.cons).map (fun _ _ => Lists.cons)
              · rw [if_neg hcomma, if_neg hcomma]
                by_cases hclose : d = '}'
                · subst hclose
                  exact (agree_closingBrace _ (by omega) hd).map (fun _ _ => Lists.cons)
                · rw [if_neg hclose, if_neg hclose, hd.drop]
                  exact .fault _
termination_by (s.length, 1)
decreasing_by
  · exact Prod.Lex.right' _ hle Nat.zero_lt_one
  · rw [List.length_cons] at hle'
    exact Prod.Lex.left _ _ (by omega)

end

theorem key?_suffix {k : List Char} (h : key? s = some (k, r)) : r <:+ s := by
  obtain ⟨w, -, -, -, rfl⟩ := key?_cases h
  exact ⟨k ++ w ++ ['='], by simp⟩

theorem dotSegments_suffix (s : List Char) : (dotSegments s).2 <:+ s := by
  fun_induction dotSegments s with
  | case1 s => exact List.suffix_refl s
  | case2 s seg r h segs rest he ih =>
    rw [he] at ih
    obtain ⟨_, v, w, _, _, hs⟩ := dotSegment?_eq_some h
    refine ih.trans ⟨v ++ '.' :: w ++ seg, ?_⟩
    rw [hs, List.append_assoc]

theorem dottedName?_suffix {segs : List (List Char)} (h : dottedName? s = some (segs, r)) :
    r <:+ s := by
  rw [dottedName?] at h
  split at h
  · cases h
  · next seg u hu =>
    obtain ⟨_, rfl⟩ := segment?_eq_some hu
    injection h with h
    have hr : (dotSegments u).2 = r := congrArg Prod.snd h
    exact hr ▸ (dotSegments_suffix u).trans (List.suffix_append seg u)

theorem readValue_of_skipLayout {u : List Char} (h : skipLayout s = .ok u) :
    readValue s = readValue u := by
  rw [readValue_eq, readValue_eq, h, skipLayout_skipLayout h]

theorem agree_argument (hn : 2 * s.length + 1 < n) (h : At text pos s) :
    Agree text (fun p q => p.1 = Arguments.add q.1 q.2.1 ⟨[], []⟩ ∧ At text p.2 q.2.2)
      (walkArgument text n pos) (readArgument s) := by
  rw [walkArgument, keyAt?, h.drop, readArgument_eq]
  cases hk : key? s with
  | none =>
    apply (agree_value hn h).bind
    · intro f hf
      simp only [hf]
      rfl
    · rintro q p hq ⟨hsame, hstop⟩
      simp only [hq]
      exact .result ⟨by rw [hsame]; rfl, hstop⟩
  | some p =>
    obtain ⟨k, r⟩ := p
    have hkey := (key?_suffix hk).length_le
    -- the walk skips the layout behind a key, the reader leaves it to the value
    apply (agree_layout (by omega) (h.of_suffix (key?_suffix hk))).bind
    · intro f hf
      simp only [readValue_eq, hf]
      rfl
    · intro u start hu hstart
      have hle := skipLayout_le hu
      simp only [readValue_of_skipLayout hu]
      apply (agree_value (by omega) hstart).bind
      · intro f hf
        rw [hf]
        rfl
      · rintro q p hq ⟨hsame, hstop⟩
        rw [hq]
        exact .result ⟨by rw [hsame]; rfl, hstop⟩

theorem readArgument_shorter {k : Option (List Char)} {v : Value}
    (h : readArgument s = .ok (k, v, r)) : r.length < s.length := by
  rw [readArgument] at h
  cases hs : argument s with
  | error f => rw [hs] at h; cases h
  | ok p =>
    rw [hs] at h
    cases h
    exact p.2.shorter

def Collects (text : List Char) (done : Arguments) (p : Arguments × Nat)
    (q : Arguments × List Char) : Prop :=
  p.1 = done.append q.1 ∧ At text p.2 q.2

theorem Arguments.append_add (done : Arguments) (k : Option (List Char)) (v : Value)
    (as : Arguments) :
    (done.append (Arguments.add k v ⟨[], []⟩)).append as = done.append (as.add k v) := by
  cases k <;> simp [append, add]

theorem Collects.add {done : Arguments} {k : Option (List Char)} {v : Value}
    {p : Arguments × Nat} {q : Arguments × List Char}
    (h : Collects text (done.append (Arguments.add k v ⟨[], []⟩)) p q) :
    Collects text done p (q.1.add k v, q.2) := by
  obtain ⟨hp, hstop⟩ := h
  exact ⟨by rw [hp, Arguments.append_add], hstop⟩

theorem agree_arguments {s : List Char} {n pos : Nat} (done : Arguments)
    (hn : 2 * s.length + 2 < n) (h : At text pos s) :
    Agree text (Collects text done) (walkArguments text n done pos) (arguments s) := by
  obtain ⟨m, rfl, hm⟩ := exists_succ hn
  rw [walkArguments, arguments_eq]
  apply (agree_layout (by omega) h).bind
  · intro f hf
    rw [hf]
  · intro u start hu hstart
    have hlayout := skipLayout_le hu
    rw [hu]
    apply (agree_argument (by omega) hstart).bind
    · intro f hf
      simp only [hf]
    · rintro ⟨k, v, after⟩ ⟨_, stop⟩ hargument ⟨rfl, hafter⟩
      have hargument' : after.length < u.length := readArgument_shorter hargument
      have hlayout' : after.length < m := by omega
      simp only [hargument]
      apply (agree_layout hlayout' hafter).bind
      · intro f hf
        simp only [hf]
      · intro gap next hgap hnext
        have hle' : gap.length ≤ after.length := skipLayout_le hgap
        simp only [hgap]
        apply agree_bind_charAt hnext
        · rintro rfl
          exact .fault _
        · rintro c rest rfl hc
          rw [List.length_cons] at hle'
          dsimp only
          by_cases hclose : c = ')'
          · rw [if_pos hclose, if_pos hclose]
            exact .result ⟨rfl, hc.cons⟩
          · rw [if_neg hclose, if_neg hclose]
            by_cases hcomma : c = ','
            · rw [if_pos hcomma, if_pos hcomma]
              exact (agree_arguments _ (by omega) hc.cons).map (fun _ _ => Collects.add)
            · rw [if_neg hcomma, if_neg hcomma, hc.drop]
              exact .fault _
termination_by s.length
decreasing_by
  rw [List.length_cons] at hle'
  omega

theorem agree_argumentList (hn : 2 * s.length + 2 < n) (h : At text pos s) :
    Agree text (Reads text) (walkArgumentList text n pos) (argumentList s) := by
  rw [walkArgumentList, argumentList]
  apply (agree_layout (by omega) h).bind
  · intro f hf
    rw [hf]
  · intro u start hu hstart
    have hle := skipLayout_le hu
    rw [hu]
    cases u with
    | nil =>
      rw [if_neg hstart.not_lt]
      exact agree_arguments ⟨[], []⟩ (by omega) hstart
    | cons c u =>
      rw [if_pos hstart.lt, charAt_of_at hstart, pure_bind]
      by_cases hclose : c = ')'
      · subst hclose
        rw [if_pos rfl]
        exact .result ⟨rfl, hstart.cons⟩
      · rw [if_neg hclose]
        split
        · next he => cases he
        · next he => cases he; exact absurd rfl hclose
        · next he =>
          cases he
          exact agree_arguments ⟨[], []⟩ (by omega) hstart

theorem nameAt?_eq_none (h : nameAt? text = none) : ofTrimmed text = .error .noName := by
  unfold nameAt? at h
  unfold ofTrimmed
  split
  · next r =>
    rw [Option.map_eq_none_iff.mp h]
  · rfl

theorem nameAt?_eq_some {segs : List (List Char)} (h : nameAt? text = some (segs, pos)) :
    ∃ r s, text = '@' :: r ∧ dottedName? (r.dropWhile isBlank) = some (segs, s) ∧
      At text pos s := by
  unfold nameAt? at h
  split at h
  · next r =>
    obtain ⟨⟨_, s⟩, hname, he⟩ := Option.map_eq_some_iff.mp h
    cases he
    have hsuffix : s <:+ '@' :: r :=
      ((dottedName?_suffix hname).trans (List.dropWhile_suffix _)).trans (List.suffix_cons '@' r)
    exact ⟨r, s, rfl, hname, (At.start _).of_suffix hsuffix⟩
  · cases h

theorem agree_trimmed (hn : 2 * text.length + 2 < n) :
    Agree text (fun a b => a = b) (walkTrimmed text n) (ofTrimmed text) := by
  rw [walkTrimmed]
  cases hname : nameAt? text with
  | none =>
    rw [nameAt?_eq_none hname]
    exact .fault _
  | some p =>
    obtain ⟨segs, stop⟩ := p
    obtain ⟨r, s, hr, hs, hstop⟩ := nameAt?_eq_some hname
    have hlength := hstop.length
    have htext : ofTrimmed text = ofTrimmed ('@' :: r) := congrArg ofTrimmed hr
    rw [htext, ofTrimmed, hs]
    dsimp only
    apply (agree_layout (by omega) hstop).bind_bind
    rintro pos (_ | ⟨c, u⟩) hpos
    · rw [if_pos hpos.eq_length]
      exact .result rfl
    · have hu := hpos.length
      rw [List.length_cons] at hu
      rw [if_neg (Nat.ne_of_lt hpos.lt), charAt_of_at hpos, pure_bind]
      by_cases hopen : c = '('
      · subst hopen
        rw [if_pos rfl]
        apply (agree_argumentList (by omega) hpos.cons).bind_bind
        rintro ⟨args, stop⟩ ⟨_, rest⟩ ⟨rfl, hrest⟩
        have hlayout : rest.length < n := by
          rw [hrest.length]
          omega
        apply (agree_layout hlayout hrest).bind_bind
        rintro pos (_ | ⟨d, v⟩) hpos
        · rw [if_pos hpos.eq_length]
          exact .result rfl
        · rw [if_neg (Nat.ne_of_lt hpos.lt), hpos.drop]
          exact .fault _
      · rw [if_neg hopen]
        split
        · next he => cases he
        · next he => cases he; exact absurd rfl hopen
        · next he => cases he; exact .fault _

def Enough (text : List Char) (n : Nat) : Prop := 2 * text.length + 2 < n

/-- Given enough steps the walk ends, and if it returns it has moved on, but not over the end of the
text. -/
def Advances (text : List Char) (pos : Nat) {α : Type} (stop : α → Nat) (x : Nat → Walk α) : Prop :=
  ∀ n, Enough text n →
    x n ≠ unfinished ∧ ∀ a, x n = pure a → pos < stop a ∧ stop a ≤ text.length

section Progress

variable {α β : Type} {R : α → β → Prop} {x : Walk α} {y : Except Fault β}

theorem fail_ends (f : Fault) : (fail text f : Walk α) ≠ unfinished := by
  rintro ⟨⟩

theorem Agree.ends (h : Agree text R x y) : x ≠ unfinished := by
  cases h with
  | result h => rintro ⟨⟩
  | fault f => exact fail_ends f

theorem advances_fail {stop : α → Nat} (f : Fault) :
    (fail text f : Walk α) ≠ unfinished ∧
      ∀ a, (fail text f : Walk α) = pure a → pos < stop a ∧ stop a ≤ text.length := by
  refine ⟨fail_ends f, ?_⟩
  rintro a ⟨⟩

theorem Agree.advances {stop : α → Nat} {rest : β → List Char} (h : Agree text R x y)
    (hpos : At text pos s) (hrest : ∀ a b, R a b → At text (stop a) (rest b))
    (hshorter : ∀ b, y = .ok b → (rest b).length < s.length) :
    x ≠ unfinished ∧ ∀ a, x = pure a → pos < stop a ∧ stop a ≤ text.length := by
  refine ⟨h.ends, ?_⟩
  cases h with
  | result h =>
    rintro a ⟨⟩
    exact ⟨hpos.lt_of_shorter (hrest _ _ h) (hshorter _ rfl), (hrest _ _ h).le⟩
  | fault f => rintro a ⟨⟩

end Progress

theorem at_drop (h : pos ≤ text.length) : At text pos (text.drop pos) := ⟨h, rfl⟩

theorem Enough.steps (h : Enough text n) (hat : At text pos s) : 2 * s.length + 2 < n := by
  have := hat.length
  unfold Enough at h
  omega

theorem walkLayout_behind (h : text.length ≤ pos) : walkLayout text (n + 1) pos = pure pos := by
  rw [walkLayout, if_neg (Nat.not_lt.mpr h)]

theorem advances_value (text : List Char) (pos : Nat) :
    Advances text pos Prod.snd (fun n => walkValue text n pos) := by
  intro n hn
  rcases Nat.le_total pos text.length with hpos | hpos
  · have hat := at_drop hpos
    have hagree := agree_value (Nat.lt_of_succ_lt (hn.steps hat)) hat
    exact hagree.advances hat (fun _ _ h => h.2) (fun _ => shorter_of_answer)
  · obtain ⟨m, rfl, hm⟩ := exists_succ hn
    obtain ⟨k, rfl, -⟩ := exists_succ hm
    dsimp only
    rw [walkValue, walkLayout_behind hpos, pure_bind, if_pos hpos]
    exact advances_fail _

theorem advances_items (text : List Char) (done : List Value) (pos : Nat) :
    Advances text pos Prod.snd (fun n => walkItems text n done pos) := by
  intro n hn
  rcases Nat.le_total pos text.length with hpos | hpos
  · have hat := at_drop hpos
    have hagree := agree_items done (hn.steps hat) hat
    exact hagree.advances hat (fun _ _ h => h.2) (fun _ => readItems_shorter)
  · obtain ⟨m, rfl, hm⟩ := exists_succ hn
    obtain ⟨k, rfl, -⟩ := exists_succ hm
    dsimp only
    rw [walkItems, walkLayout_behind hpos, pure_bind, if_pos hpos]
    exact advances_fail _

theorem advances_expression (text : List Char) (pos : Nat) :
    Advances text pos Prod.snd (fun n => walkExpression text n pos) := by
  intro n hn
  rcases Nat.le_total pos text.length with hpos | hpos
  · have hat := at_drop hpos
    have hsteps := hn.steps hat
    have hlt : (text.drop pos).length < n := by omega
    have hagree := agree_expression hlt hat
    exact hagree.advances hat (fun _ _ h => h.2) (fun _ => shorter_of_answer)
  · obtain ⟨m, rfl, -⟩ := exists_succ hn
    dsimp only
    rw [walkExpression, walkPieces, if_neg (Nat.not_lt.mpr hpos), endPieces, pure_bind, slice_self]
    exact advances_fail _

theorem advances_string (text : List Char) (pos : Nat) :
    Advances text pos Prod.snd (fun n => walkString text n pos) := by
  intro n hn
  rcases Nat.lt_or_ge pos text.length with hpos | hpos
  · obtain ⟨c, s, hat⟩ := exists_at hpos
    have hsteps := hn.steps hat.cons
    have hlt : s.length < n := by omega
    have hagree := agree_string hlt hat
    exact hagree.advances hat (fun _ _ h => h.2) (fun _ => stringLiteral_shorter)
  · obtain ⟨m, rfl, -⟩ := exists_succ hn
    dsimp only
    rw [walkString, startsWith, List.drop_of_length_le hpos, if_neg (by simp), walkStringBody,
      if_neg (by omega)]
    exact advances_fail _

theorem advances_literal (text : List Char) (pos : Nat) :
    Advances text pos id (fun n => walkLiteral text n pos) := by
  intro n hn
  dsimp only
  rcases Nat.lt_or_ge pos text.length with hpos | hpos
  · obtain ⟨c, r, hc⟩ := exists_at hpos
    have hsteps := hn.steps hc.cons
    rw [walkLiteral, charAt_of_at hc, pure_bind]
    refine ⟨walkLiteralBody_ends (by rw [← hc.cons.length]; omega), ?_⟩
    intro stop h
    obtain ⟨hlt, hle⟩ := walkLiteralBody_bounds h
    exact ⟨Nat.lt_of_succ_lt hlt, hle⟩
  · rw [walkLiteral, charAt, List.getElem?_eq_none hpos]
    constructor
    · rintro ⟨⟩
    · rintro stop ⟨⟩

theorem advances_comment (text : List Char) (pos : Nat) :
    Advances text pos id (fun _ => walkComment text pos) := by
  intro n _
  dsimp only
  rw [walkComment]
  split
  · next hline =>
    have hlength := (List.isPrefixOf_iff_prefix.mp hline).length_le
    rw [List.length_drop] at hlength
    simp only [List.length_cons, List.length_nil] at hlength
    cases hfind : find? text ['\n'] pos with
    | none =>
      refine ⟨by rintro ⟨⟩, ?_⟩
      rintro stop ⟨⟩
      exact ⟨by simp only [id]; omega, Nat.le_refl _⟩
    | some mark =>
      obtain ⟨hpos, hmark⟩ := find?_bounds (List.cons_ne_nil _ _) hfind
      refine ⟨by rintro ⟨⟩, ?_⟩
      rintro stop ⟨⟩
      exact ⟨Nat.lt_succ_of_le hpos, hmark⟩
  · cases hfind : find? text ['*', '/'] (pos + 2) with
    | none => exact advances_fail _
    | some mark =>
      obtain ⟨hpos, hmark⟩ := find?_bounds (List.cons_ne_nil _ _) hfind
      refine ⟨by rintro ⟨⟩, ?_⟩
      rintro stop ⟨⟩
      exact ⟨by simp only [id]; omega, hmark⟩

theorem walkLayout_bounds (hn : Enough text n) (hpos : pos ≤ text.length) :
    walkLayout text n pos ≠ unfinished ∧
      ∀ stop, walkLayout text n pos = pure stop → pos ≤ stop ∧ stop ≤ text.length := by
  have hat := at_drop hpos
  have hsteps := hn.steps hat
  have hlt : (text.drop pos).length < n := by omega
  have hlayout := agree_layout hlt hat
  refine ⟨hlayout.ends, ?_⟩
  intro stop h
  cases hs : skipLayout (text.drop pos) with
  | error f =>
    rw [hs] at hlayout
    rw [hlayout.eq_fail] at h
    cases h
  | ok r =>
    rw [hs] at hlayout
    obtain ⟨e, hwalk, he⟩ := hlayout.exists_pure
    rw [hwalk] at h
    cases h
    have := skipLayout_le hs
    have := hat.length
    have := he.length
    have := he.le
    omega

theorem Enough.trim {s : List Char} (h : Enough s n) : Enough (trim s) n := by
  have hstart := (List.dropWhile_sublist isBlank (l := s)).length_le
  have hend := (List.dropWhile_sublist isBlank (l := (s.dropWhile isBlank).reverse)).length_le
  rw [List.length_reverse] at hend
  unfold Enough Text.trim dropTail at *
  rw [List.length_reverse]
  omega

/-- Given enough steps a walk over a text ends: with the annotation that is read, or with the fault
that is found in the trimmed text. It asks for no character outside the text. Of the walks over its
parts each ends too and moves on whenever it returns, save that over layout, which may stay; and
none leaves the text. -/
theorem walk_ends (s : List Char) :
    (∀ n, Enough s n →
      (∃ a, walk n s = pure a ∧ read s = .ok a) ∨
        ∃ f, walk n s = throw (.malformed ⟨trim s, f⟩) ∧ read s = .error ⟨trim s, f⟩) ∧
    ∀ text pos,
      Advances text pos Prod.snd (fun n => walkValue text n pos) ∧
      (∀ done, Advances text pos Prod.snd (fun n => walkItems text n done pos)) ∧
      Advances text pos Prod.snd (fun n => walkString text n pos) ∧
      Advances text pos Prod.snd (fun n => walkExpression text n pos) ∧
      Advances text pos id (fun n => walkLiteral text n pos) ∧
      Advances text pos id (fun _ => walkComment text pos) ∧
      (pos ≤ text.length → ∀ n, Enough text n → walkLayout text n pos ≠ unfinished ∧
        ∀ stop, walkLayout text n pos = pure stop → pos ≤ stop ∧ stop ≤ text.length) := by
  constructor
  · intro n hn
    have hagree := agree_trimmed hn.trim
    rw [walk, read]
    cases hread : ofTrimmed (trim s) with
    | error f =>
      rw [hread] at hagree
      exact .inr ⟨f, hagree.eq_fail, rfl⟩
    | ok a =>
      rw [hread] at hagree
      obtain ⟨b, hwalk, rfl⟩ := hagree.exists_pure
      exact .inl ⟨b, hwalk, rfl⟩
  · intro text pos
    exact ⟨advances_value text pos, fun done => advances_items text done pos,
      advances_string text pos, advances_expression text pos, advances_literal text pos,
      advances_comment text pos, fun hpos _ hn => walkLayout_bounds hn hpos⟩

theorem walk_ends_bean :
    let text := "@a . Bean // all".toList
    let broken := " @Bean /* all ".toList
    let arguments := "(\"b\\\"\" /* c */ )".toList
    Enough text 40 ∧ Enough broken 40 ∧ Enough arguments 40 ∧
      (∃ a, walk 40 text = pure a) ∧
      walk 40 broken = throw (.malformed ⟨trim broken, .openComment⟩) ∧
      (∃ v, walkValue arguments 40 1 = pure (v, 6) ∧ 1 < 6 ∧ 6 ≤ arguments.length) ∧
      walkLayout arguments 40 6 = pure 15 ∧ 6 ≤ 15 ∧ 15 ≤ arguments.length := by
  intro text broken arguments
  have hread : (read text).isOk = true := by decide +kernel
  have hbroken : (read broken).map (fun _ => ()) = .error ⟨trim broken, .openComment⟩ := by
    decide +kernel
  have htextSteps : Enough text 40 := by unfold Enough; decide
  have hbrokenSteps : Enough broken 40 := by unfold Enough; decide
  have hsteps : Enough arguments 40 := by unfold Enough; decide
  have hvalue : walkValue arguments 40 1 = pure (.string "b\"", 6) := by rfl
  have hlayout : walkLayout arguments 40 6 = pure 15 := by rfl
  refine ⟨htextSteps, hbrokenSteps, hsteps, ?_, ?_, ?_, ?_⟩
  · rcases (walk_ends text).1 40 htextSteps with ⟨a, ha, _⟩ | ⟨f, _, hf⟩
    · exact ⟨a, ha⟩
    · rw [hf] at hread
      cases hread
  · rcases (walk_ends broken).1 40 hbrokenSteps with ⟨a, _, ha⟩ | ⟨f, hwalk, hf⟩
    · rw [ha] at hbroken
      cases hbroken
    · rw [hf] at hbroken
      cases hbroken
      exact hwalk
  · exact ⟨_, hvalue, (((walk_ends text).2 arguments 1).1 40 hsteps).2 _ hvalue⟩
  · obtain ⟨_, _, _, _, _, _, hends⟩ := (walk_ends text).2 arguments 6
    exact ⟨hlayout, (hends (by decide) 40 hsteps).2 _ hlayout⟩

end Wiring.Annotation
