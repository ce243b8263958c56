import Wiring.Proofs.Annotation.Layout
import Wiring.Proofs.Annotation.Walk

namespace Wiring.Annotation

open Wiring.Text

/-- The position is one of the text, and the given characters are left from there on. -/
structure At (text : List Char) (pos : Nat) (rest : List Char) : Prop where
  le : pos ≤ text.length
  drop : text.drop pos = rest

inductive Agree (text : List Char) {α β : Type} (R : α → β → Prop) : Walk α → Except Fault β → Prop
  | result {a : α} {b : β} (h : R a b) : Agree text R (pure a) (.ok b)
  | fault (f : Fault) : Agree text R (fail text f) (.error f)

def Reads (text : List Char) {α : Type} (p : α × Nat) (q : α × List Char) : Prop :=
  p.1 = q.1 ∧ At text p.2 q.2

variable {text s r : List Char} {n pos : Nat}

theorem exists_succ {k : Nat} (h : k < n) : ∃ m, n = m + 1 ∧ k ≤ m :=
  ⟨n - 1, by omega, by omega⟩

section Agreement

variable {α β : Type} {R : α → β → Prop} {x : Walk α}

theorem Agree.eq_fail {f : Fault} (h : Agree text R x (.error f)) : x = fail text f := by
  cases h
  rfl

theorem Agree.exists_pure {b : β} (h : Agree text R x (.ok b)) : ∃ a, x = pure a ∧ R a b := by
  cases h with
  | result h => exact ⟨_, rfl, h⟩

theorem Agree.bind {γ δ : Type} {S : γ → δ → Prop} {y : Except Fault β} {z : Except Fault δ}
    {k : α → Walk γ} (h : Agree text R x y) (hfault : ∀ f, y = .error f → z = .error f)
    (hresult : ∀ b a, y = .ok b → R a b → Agree text S (k a) z) : Agree text S (x >>= k) z := by
  cases h with
  | result h =>
    rw [pure_bind]
    exact hresult _ _ rfl h
  | fault f =>
    rw [hfault f rfl]
    exact .fault f

theorem Agree.bind_bind {γ δ : Type} {S : γ → δ → Prop} {y : Except Fault β} {k : α → Walk γ}
    {l : β → Except Fault δ} (h : Agree text R x y)
    (hkl : ∀ a b, R a b → Agree text S (k a) (l b)) : Agree text S (x >>= k) (y >>= l) := by
  cases h with
  | result h => exact hkl _ _ h
  | fault f => exact .fault f

theorem Agree.map {γ : Type} {S : α → γ → Prop} {y : Except Fault β} {g : β → γ}
    (h : Agree text R x y) (hg : ∀ a b, R a b → S a (g b)) : Agree text S x (y.map g) := by
  cases h with
  | result h => exact .result (hg _ _ h)
  | fault f => exact .fault f

theorem Agree.map_elim {γ : Type} {S : α → γ → Prop} {o : Option β} {f : Fault} {g : β → γ}
    (h : Agree text R x (o.elim (.error f) .ok)) (hg : ∀ a b, R a b → S a (g b)) :
    Agree text S x ((o.map g).elim (.error f) .ok) := by
  cases o with
  | none => exact h.eq_fail ▸ .fault f
  | some b =>
    obtain ⟨a, rfl, ha⟩ := h.exists_pure
    exact .result (hg a b ha)

theorem fail_bind (text : List Char) (f : Fault) (k : α → Walk β) :
    (fail text f >>= k) = fail text f := rfl

end Agreement

theorem At.start (text : List Char) : At text 0 text := ⟨Nat.zero_le _, rfl⟩

theorem At.length (h : At text pos s) : s.length = text.length - pos := by
  rw [← h.drop, List.length_drop]

theorem At.of_append (h : At text pos (s ++ r)) : At text (pos + s.length) r := by
  have hlength := h.length
  have hle := h.le
  constructor
  · rw [List.length_append] at hlength
    omega
  · rw [← List.drop_drop, h.drop, List.drop_left]

theorem At.cons {c : Char} (h : At text pos (c :: r)) : At text (pos + 1) r :=
  h.of_append (s := [c])

theorem At.lt {c : Char} (h : At text pos (c :: r)) : pos < text.length := by
  have := h.cons.le
  omega

theorem At.eq_length (h : At text pos []) : pos = text.length := by
  have := h.length
  have := h.le
  rw [List.length_nil] at *
  omega

theorem At.not_lt (h : At text pos []) : ¬ pos < text.length :=
  Nat.not_lt.mpr (Nat.le_of_eq h.eq_length.symm)

theorem At.unique {pos' : Nat} (h : At text pos s) (h' : At text pos' s) : pos = pos' := by
  have := h.length
  have := h'.length
  have := h.le
  have := h'.le
  omega

theorem At.of_suffix (h : At text pos s) (hr : r <:+ s) : At text (text.length - r.length) r := by
  obtain ⟨u, rfl⟩ := hr
  have hend := h.of_append
  have hlength := hend.length
  have hle := hend.le
  have hpos : text.length - r.length = pos + u.length := by omega
  rw [hpos]
  exact hend

theorem At.lt_of_shorter {stop : Nat} (h : At text pos s) (hstop : At text stop r)
    (hr : r.length < s.length) : pos < stop := by
  have := h.length
  have := hstop.length
  omega

theorem At.of_drop {c : Char} (h : text.drop pos = c :: r) : At text pos (c :: r) := by
  refine ⟨?_, h⟩
  by_contra hle
  rw [List.drop_of_length_le (by omega)] at h
  cases h

theorem At.steps_lt {c : Char} (h : At text pos (c :: s))
    (hn : text.length ≤ pos + n) : s.length < n := by
  have hlength := h.length
  rw [List.length_cons] at hlength
  omega

theorem exists_at (h : pos < text.length) : ∃ c r, At text pos (c :: r) :=
  ⟨text[pos], text.drop (pos + 1), Nat.le_of_lt h, List.drop_eq_getElem_cons h⟩

theorem charAt_of_at {c : Char} (h : At text pos (c :: r)) : charAt text pos = pure c := by
  have hc : text[pos]? = some c := by
    rw [← List.head?_drop, h.drop]
    rfl
  rw [charAt, hc]

theorem startsWith_of_at (h : At text pos s) (mark : List Char) :
    startsWith text mark pos = mark.isPrefixOf s := by
  rw [startsWith, h.drop]

theorem slice_self (text : List Char) (pos : Nat) : slice text pos pos = [] :=
  List.drop_of_length_le (List.length_take_le _ _)

theorem slice_append {start : Nat} (hstart : start ≤ pos) (h : At text pos (s ++ r)) :
    slice text start (pos + s.length) = slice text start pos ++ s := by
  have hle := h.le
  have htake : text.take (pos + s.length) = text.take pos ++ s := by
    rw [List.take_add, h.drop, List.take_left]
  rw [slice, htake, List.drop_append_of_le_length (by rw [List.length_take]; omega)]
  rfl

theorem slice_cons {start : Nat} {c : Char} (hstart : start ≤ pos) (h : At text pos (c :: r)) :
    slice text start (pos + 1) = slice text start pos ++ [c] :=
  slice_append (s := [c]) hstart h

theorem not_isPrefixOf {m c : Char} {ms : List Char} (h : ∀ u, c = m → r = ms ++ u → False) :
    ¬ (m :: ms).isPrefixOf (c :: r) = true := by
  rw [List.isPrefixOf_iff_prefix]
  rintro ⟨u, hu⟩
  injection hu with hc hr
  exact h u hc.symm hr.symm

theorem find?_nil (h : At text pos []) (mark : List Char) : find? text mark pos = none := by
  rw [find?, h.eq_length, Nat.sub_self]
  rfl

theorem find?_cons {c : Char} (h : At text pos (c :: r)) (mark : List Char) :
    find? text mark pos =
      if mark.isPrefixOf (c :: r) then some pos else find? text mark (pos + 1) := by
  have hlt := h.lt
  have hcount : text.length - pos = text.length - (pos + 1) + 1 := by omega
  rw [find?, hcount, List.range'_succ, List.find?_cons, startsWith_of_at h]
  split
  · next hmark => rw [hmark, if_pos rfl]
  · next hmark => rw [hmark, if_neg (by simp)]; rfl

theorem find?_bounds {mark : List Char} (hmark : mark ≠ []) {stop : Nat}
    (h : find? text mark pos = some stop) : pos ≤ stop ∧ stop + mark.length ≤ text.length := by
  have hmem := List.mem_range'_1.mp (List.mem_of_find?_eq_some h)
  have hprefix : startsWith text mark stop = true := List.find?_some (p := startsWith text mark) h
  rw [startsWith] at hprefix
  have hlength := (List.isPrefixOf_iff_prefix.mp hprefix).length_le
  have hpos := List.length_pos_iff.mpr hmark
  rw [List.length_drop] at hlength
  omega

theorem afterLine_cons (c : Char) (r : List Char) :
    afterLine (c :: r) = if c = '\n' then r else afterLine r := by
  by_cases hc : c = '\n' <;> simp [afterLine, hc]

theorem find?_line (h : At text pos s) :
    (find? text ['\n'] pos = none ∧ afterLine s = []) ∨
      ∃ stop, find? text ['\n'] pos = some stop ∧ At text (stop + 1) (afterLine s) := by
  induction s generalizing pos with
  | nil => exact .inl ⟨find?_nil h _, rfl⟩
  | cons c s ih =>
    rw [find?_cons h, afterLine_cons]
    by_cases hc : c = '\n'
    · rw [if_pos (by simp [hc]), if_pos hc]
      exact .inr ⟨pos, rfl, h.cons⟩
    · rw [if_neg (by simpa using Ne.symm hc), if_neg hc]
      exact ih h.cons

theorem find?_block (h : At text pos s) :
    (find? text ['*', '/'] pos = none ∧ afterBlock? s = none) ∨
      ∃ stop r, find? text ['*', '/'] pos = some stop ∧ afterBlock? s = some r ∧
        At text (stop + 2) r := by
  fun_induction afterBlock? s generalizing pos with
  | case1 => exact .inl ⟨find?_nil h _, rfl⟩
  | case2 r =>
    rw [find?_cons h, if_pos (by simp)]
    exact .inr ⟨pos, r, rfl, rfl, h.cons.cons⟩
  | case3 c r hmark ih =>
    rw [find?_cons h, if_neg (not_isPrefixOf hmark)]
    exact ih h.cons

theorem find?_textBlock (h : At text pos s) :
    (find? text ['"', '"', '"'] pos = none ∧ textBlock? s = none) ∨
      ∃ stop v r, find? text ['"', '"', '"'] pos = some stop ∧ textBlock? s = some (v, r) ∧
        pos + v.length = stop ∧ s = v ++ '"' :: '"' :: '"' :: r := by
  fun_induction textBlock? s generalizing pos with
  | case1 => exact .inl ⟨find?_nil h _, rfl⟩
  | case2 r =>
    rw [find?_cons h, if_pos (by simp)]
    exact .inr ⟨pos, [], r, rfl, rfl, rfl, rfl⟩
  | case3 c r hmark ih =>
    rw [find?_cons h, if_neg (not_isPrefixOf hmark)]
    rcases ih h.cons with ⟨hfind, hnone⟩ | ⟨stop, v, u, hfind, hsome, hlength, rfl⟩
    · exact .inl ⟨hfind, by rw [hnone]; rfl⟩
    · refine .inr ⟨stop, c :: v, u, hfind, by rw [hsome]; rfl, ?_, rfl⟩
      rw [List.length_cons]
      omega

theorem atComment_eq (h : At text pos s) : atComment text pos = (comment? s).isSome := by
  rw [atComment, startsWith_of_at h, startsWith_of_at h]
  unfold comment?
  split
  · simp
  · simp
  · next hline hblock =>
    rw [Option.isSome_none, Bool.or_eq_false_iff, Bool.eq_false_iff, Bool.eq_false_iff]
    constructor
    · rw [ne_eq, List.isPrefixOf_iff_prefix]
      rintro ⟨u, rfl⟩
      exact hline u rfl
    · rw [ne_eq, List.isPrefixOf_iff_prefix]
      rintro ⟨u, rfl⟩
      exact hblock u rfl

theorem atComment_of_some {x : Except Fault (List Char)} (h : At text pos s)
    (hx : comment? s = some x) : atComment text pos = true := by
  rw [atComment_eq h, hx]
  rfl

theorem not_atComment (h : At text pos s) (hs : comment? s = none) :
    ¬ atComment text pos = true := by
  rw [atComment_eq h, hs]
  simp

theorem agree_comment (h : At text pos s) {x : Except Fault (List Char)}
    (hx : comment? s = some x) : Agree text (At text) (walkComment text pos) x := by
  unfold comment? at hx
  rw [walkComment, startsWith_of_at h]
  split at hx
  · next u =>
    cases hx
    rw [if_pos (by simp)]
    have hslash : find? text ['\n'] pos = find? text ['\n'] (pos + 1 + 1) := by
      rw [find?_cons h, if_neg (by simp), find?_cons h.cons, if_neg (by simp)]
    rw [hslash]
    rcases find?_line h.cons.cons with ⟨hfind, hnil⟩ | ⟨stop, hfind, hstop⟩
    · rw [hfind, hnil]
      exact .result ⟨Nat.le_refl _, List.drop_length⟩
    · rw [hfind]
      exact .result hstop
  · next u =>
    cases hx
    rw [if_neg (by simp)]
    rcases find?_block h.cons.cons with ⟨hfind, hnone⟩ | ⟨stop, r, hfind, hsome, hstop⟩
    · rw [hfind, hnone]
      exact .fault _
    · rw [hfind, hsome]
      exact .result hstop
  · cases hx

theorem agree_layout (hn : s.length < n) (h : At text pos s) :
    Agree text (At text) (walkLayout text n pos) (skipLayout s) := by
  fun_induction skipLayout s generalizing n pos with
  | case1 =>
    obtain ⟨m, rfl, -⟩ := exists_succ hn
    rw [walkLayout, if_neg h.not_lt]
    exact .result h
  | case2 c r hb ih =>
    obtain ⟨m, rfl, hm⟩ := exists_succ hn
    rw [walkLayout, if_pos h.lt, charAt_of_at h, pure_bind, if_pos hb]
    exact ih hm h.cons
  | case3 c r hb hc =>
    obtain ⟨m, rfl, -⟩ := exists_succ hn
    rw [walkLayout, if_pos h.lt, charAt_of_at h, pure_bind, if_neg hb,
      if_neg (not_atComment h hc)]
    exact .result h
  | case4 c r hb e hc =>
    obtain ⟨m, rfl, -⟩ := exists_succ hn
    rw [walkLayout, if_pos h.lt, charAt_of_at h, pure_bind, if_neg hb,
      if_pos (atComment_of_some h hc), (agree_comment h hc).eq_fail, fail_bind]
    exact .fault e
  | case5 c r hb rest hc ih =>
    obtain ⟨m, rfl, hm⟩ := exists_succ hn
    obtain ⟨stop, hwalk, hstop⟩ := (agree_comment h hc).exists_pure
    rw [walkLayout, if_pos h.lt, charAt_of_at h, pure_bind, if_neg hb,
      if_pos (atComment_of_some h hc), hwalk, pure_bind]
    exact ih ((comment?_shorter hc).trans_le hm) hstop

section Steps

variable {α β : Type} {S : α → β → Prop} {y : Except Fault β}

theorem agree_bind_charAt {x : Walk α} {k : Char → Walk α} (h : At text pos s)
    (hend : s = [] → Agree text S x y)
    (hchar : ∀ c r, s = c :: r → At text pos (c :: r) → Agree text S (k c) y) :
    Agree text S (if text.length ≤ pos then x else charAt text pos >>= k) y := by
  cases s with
  | nil =>
    rw [if_pos (Nat.le_of_eq h.eq_length.symm)]
    exact hend rfl
  | cons c r =>
    rw [if_neg (Nat.not_le.mpr h.lt), charAt_of_at h, pure_bind]
    exact hchar c r rfl h

end Steps

theorem eq_append_of_literalBody? {mark : Char} {body : List Char}
    (h : literalBody? mark s = some (body, r)) : s = body ++ r := by
  fun_induction literalBody? mark s generalizing body with
  | case1 => cases h
  | case3 t =>
    cases h
    rfl
  | case2 c t ih | case4 c t _ _ ih =>
    obtain ⟨p, hp, he⟩ := Option.map_eq_some_iff.mp h
    cases he
    rw [ih hp]
    rfl

theorem agree_literalBody {mark : Char} (hmark : mark ≠ '\\') (hn : s.length < n)
    (h : At text pos s) :
    Agree text (fun stop q => At text stop q.2) (walkLiteralBody text mark n pos)
      ((literalBody? mark s).elim (.error .openLiteral) .ok) := by
  fun_induction literalBody? mark s generalizing n pos with
  | case1 =>
    obtain ⟨m, rfl, -⟩ := exists_succ hn
    rw [walkLiteralBody, if_neg h.not_lt]
    exact .fault _
  | case2 c t ih =>
    obtain ⟨m, rfl, hm⟩ := exists_succ hn
    rw [walkLiteralBody, if_pos h.lt, charAt_of_at h, pure_bind, if_pos rfl]
    exact (ih (Nat.lt_of_succ_lt hm) h.cons.cons).map_elim (fun _ _ hstop => hstop)
  | case3 t hescape =>
    obtain ⟨m, rfl, -⟩ := exists_succ hn
    rw [walkLiteralBody, if_pos h.lt, charAt_of_at h, pure_bind, if_neg hmark, if_pos rfl]
    exact .result h.cons
  | case4 c t hescape hc ih =>
    obtain ⟨m, rfl, hm⟩ := exists_succ hn
    rw [walkLiteralBody, if_pos h.lt, charAt_of_at h, pure_bind]
    by_cases hback : c = '\\'
    · have ht : t = [] := by
        cases t with
        | nil => rfl
        | cons d t => exact (hescape d t hback rfl).elim
      subst ht
      obtain ⟨k, rfl, -⟩ := exists_succ hm
      rw [if_pos hback, walkLiteralBody, if_neg (by have := h.cons.eq_length; omega)]
      exact .fault _
    · rw [if_neg hback, if_neg hc]
      exact (ih hm h.cons).map_elim (fun _ _ hstop => hstop)

theorem agree_literal {mark : Char} (hmark : mark ≠ '\\') (hn : s.length < n)
    (h : At text pos (mark :: s)) :
    Agree text (fun stop q => At text stop q.2) (walkLiteral text n pos)
      ((literalBody? mark s).elim (.error .openLiteral) .ok) := by
  rw [walkLiteral, charAt_of_at h, pure_bind]
  exact agree_literalBody hmark hn h.cons

theorem walkLiteralBody_bounds {mark : Char} {stop : Nat}
    (h : walkLiteralBody text mark n pos = pure stop) : pos < stop ∧ stop ≤ text.length := by
  induction n generalizing pos with
  | zero => cases h
  | succ n ih =>
    rw [walkLiteralBody] at h
    split at h
    · next hlt =>
      obtain ⟨c, r, hc⟩ := exists_at hlt
      rw [charAt_of_at hc, pure_bind] at h
      split at h
      · have := ih h
        omega
      · split at h
        · cases h
          omega
        · have := ih h
          omega
    · cases h

theorem walkLiteralBody_ends {mark : Char} (hn : text.length - pos < n) :
    walkLiteralBody text mark n pos ≠ unfinished := by
  induction n generalizing pos with
  | zero => exact absurd hn (Nat.not_lt_zero _)
  | succ n ih =>
    rw [walkLiteralBody]
    split
    · next hlt =>
      obtain ⟨c, r, hc⟩ := exists_at hlt
      rw [charAt_of_at hc, pure_bind]
      split
      · -- two characters at once, so the steps last all the longer
        exact ih (by omega)
      · split
        · rintro ⟨⟩
        · exact ih (by omega)
    · rintro ⟨⟩

theorem agree_stringBody (done : List Char) (hn : s.length < n) (h : At text pos s) :
    Agree text (fun p q => p.1 = done ++ q.1 ∧ At text p.2 q.2) (walkStringBody text n done pos)
      ((stringBody? s).elim (.error .openString) .ok) := by
  fun_induction stringBody? s generalizing n pos done with
  | case1 =>
    obtain ⟨m, rfl, -⟩ := exists_succ hn
    rw [walkStringBody, if_neg h.not_lt]
    exact .fault _
  | case2 r =>
    obtain ⟨m, rfl, -⟩ := exists_succ hn
    rw [walkStringBody, if_pos h.lt, charAt_of_at h, pure_bind, if_neg (by simp), if_pos rfl]
    exact .result ⟨(List.append_nil _).symm, h.cons⟩
  | case3 c r ih =>
    obtain ⟨m, rfl, hm⟩ := exists_succ hn
    rw [walkStringBody, if_pos h.lt, charAt_of_at h, pure_bind, if_pos ⟨rfl, h.cons.lt⟩,
      charAt_of_at h.cons, pure_bind]
    apply (ih (done ++ [unescape c]) (Nat.lt_of_succ_lt hm) h.cons.cons).map_elim
    rintro p q ⟨hvalue, hstop⟩
    exact ⟨by rw [hvalue, List.append_assoc]; rfl, hstop⟩
  | case4 c r hquote hescape ih =>
    obtain ⟨m, rfl, hm⟩ := exists_succ hn
    have hplain : ¬ (c = '\\' ∧ pos + 1 < text.length) := by
      rintro ⟨rfl, hlt⟩
      cases r with
      | nil => rw [← h.cons.eq_length] at hlt; omega
      | cons d r => exact hescape d r rfl rfl
    rw [walkStringBody, if_pos h.lt, charAt_of_at h, pure_bind, if_neg hplain, if_neg hquote]
    apply (ih (done ++ [c]) hm h.cons).map_elim
    rintro p q ⟨hvalue, hstop⟩
    exact ⟨by rw [hvalue, List.append_assoc]; rfl, hstop⟩

theorem agree_string {c : Char} (hn : s.length < n) (h : At text pos (c :: s)) :
    Agree text (Reads text) (walkString text n pos) (stringLiteral (c :: s)) := by
  rw [walkString, startsWith_of_at h]
  by_cases hblock : ∃ r, c :: s = '"' :: '"' :: '"' :: r
  · obtain ⟨r, hr⟩ := hblock
    rw [hr] at h ⊢
    have hopen : At text (pos + 3) r := h.cons.cons.cons
    rw [if_pos (by simp), stringLiteral]
    rcases find?_textBlock hopen with ⟨hfind, hnone⟩ | ⟨stop, v, u, hfind, hsome, hlength, hr⟩
    · rw [hfind, hnone]
      exact .fault _
    · subst hr
      have hstop : At text stop ('"' :: '"' :: '"' :: u) := hlength ▸ hopen.of_append
      have hbody : slice text (pos + 3) stop = v := by
        rw [← hlength, slice_append (Nat.le_refl _) hopen, slice_self, List.nil_append]
      rw [hfind, hsome]
      exact .result ⟨hbody, hstop.cons.cons.cons⟩
  · have hplain : ¬ ['"', '"', '"'].isPrefixOf (c :: s) = true := by
      apply not_isPrefixOf
      rintro u rfl rfl
      exact hblock ⟨u, rfl⟩
    rw [if_neg hplain, stringLiteral]
    · exact agree_stringBody [] hn h.cons
    · exact fun r hr => hblock ⟨r, hr⟩

end Wiring.Annotation
