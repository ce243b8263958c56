import Wiring.Proofs.Annotation.Comments
import Wiring.Proofs.Annotation.Extent
import Wiring.Proofs.Annotation.Strings

/-!
Layout, values and lists that are cut off. Wherever the text of a value is cut, no delimiter is
found behind what is read of it.
-/

namespace Wiring.Annotation

open Wiring.Text

variable {p q s t r : List Char}

theorem prefix_append_cases (h : p <+: s ++ t) :
    p <+: s ∧ p ≠ s ∨ ∃ q, p = s ++ q ∧ q <+: t := by
  by_cases hs : s <+: p
  · obtain ⟨q, rfl⟩ := hs
    exact .inr ⟨q, rfl, (List.prefix_append_right_inj s).mp h⟩
  · refine .inl ⟨?_, ?_⟩
    · exact (List.prefix_or_prefix_of_prefix h (List.prefix_append s t)).resolve_right hs
    · rintro rfl
      exact hs (List.prefix_refl p)

theorem prefix_of_concat {c : Char} (h : p <+: t ++ [c]) (hne : p ≠ t ++ [c]) : p <+: t := by
  rcases List.prefix_concat_iff.mp h with he | hp
  · exact absurd he hne
  · exact hp

theorem prefix_cons_cons_cases {c d : Char} (h : p <+: c :: d :: s) :
    p = [] ∨ p = [c] ∨ ∃ q, p = c :: d :: q ∧ q <+: s := by
  rcases List.prefix_cons_iff.mp h with rfl | ⟨u, rfl, hu⟩
  · exact .inl rfl
  · rcases List.prefix_cons_iff.mp hu with rfl | ⟨q, rfl, hq⟩
    · exact .inr (.inl rfl)
    · exact .inr (.inr ⟨q, rfl, hq⟩)

inductive CutLayout : List Char → Prop where
  | nil : CutLayout []
  | slash : CutLayout ['/']
  | blank {c : Char} {s : List Char} (hc : isBlank c = true) (hs : CutLayout s) : CutLayout (c :: s)
  | comment {s r : List Char} (hc : comment? ('/' :: s) = some (.ok r)) (hr : CutLayout r) :
      CutLayout ('/' :: s)
  | unclosed {s : List Char} {f : Fault} (hc : comment? ('/' :: s) = some (.error f)) :
      CutLayout ('/' :: s)

theorem cutLayout_line (h : '\n' ∉ s) : CutLayout ('/' :: '/' :: s) := by
  apply CutLayout.comment (r := []) _ .nil
  rw [comment?, afterLine_of_notMem h]

theorem afterBlock?_eq_none (h : ¬ ['*', '/'] <:+: s) : afterBlock? s = none := by
  fun_induction afterBlock? s with
  | case1 => rfl
  | case2 t => exact absurd ⟨[], t, rfl⟩ h
  | case3 c t _ ih => exact ih (fun hi => h (hi.trans (List.suffix_cons c t).isInfix))

theorem cutLayout_block (h : ¬ ['*', '/'] <:+: s) : CutLayout ('/' :: '*' :: s) := by
  apply CutLayout.unclosed (f := .openComment)
  simp only [comment?, afterBlock?_eq_none h, Option.elim_none]

theorem not_infix_star (h : ¬ ['*', '/'] <:+: s) : ¬ ['*', '/'] <:+: s ++ ['*'] := by
  intro hi
  rcases List.infix_concat_iff.mp hi with ⟨u, hu⟩ | hi
  · simpa using congrArg List.getLast? hu
  · exact h hi

theorem Layout.cut {l : List Char} (hl : Layout l) (hp : p <+: l) : CutLayout p := by
  -- a cut falls between two elements, between the first two characters of a comment, within
  -- its text or within its end
  induction hl generalizing p with
  | nil =>
    rw [List.prefix_nil.mp hp]
    exact .nil
  | blank hc _ ih =>
    rcases List.prefix_cons_iff.mp hp with rfl | ⟨u, rfl, hu⟩
    · exact .nil
    · exact .blank hc (ih hu)
  | @line body l hb _ ih =>
    rcases prefix_cons_cons_cases hp with rfl | rfl | ⟨v, rfl, hv⟩
    · exact .nil
    · exact .slash
    rcases prefix_append_cases hv with ⟨hv, -⟩ | ⟨w, rfl, hw⟩
    · exact cutLayout_line (fun hm => hb (hv.subset hm))
    · rcases List.prefix_cons_iff.mp hw with rfl | ⟨x, rfl, hx⟩
      · exact cutLayout_line (by simpa using hb)
      · exact .comment (comment?_line hb x) (ih hx)
  | @block body l hb _ ih =>
    rcases prefix_cons_cons_cases hp with rfl | rfl | ⟨v, rfl, hv⟩
    · exact .nil
    · exact .slash
    rcases prefix_append_cases hv with ⟨hv, -⟩ | ⟨w, rfl, hw⟩
    · exact cutLayout_block (fun hi => hb (hi.trans hv.isInfix))
    · rcases prefix_cons_cons_cases hw with rfl | rfl | ⟨x, rfl, hx⟩
      · exact cutLayout_block (by simpa using hb)
      · exact cutLayout_block (not_infix_star hb)
      · exact .comment (comment?_block hb x) (ih hx)

def Ends (s : List Char) : Prop := ∀ c r, skipLayout s = .ok (c :: r) → c = '/' ∧ r = []

theorem skipLayout_slash : skipLayout ['/'] = .ok ['/'] := skipLayout_self (by decide) rfl

theorem CutLayout.ends (h : CutLayout s) : Ends s := by
  induction h with
  | nil =>
    intro c r hr
    rw [skipLayout_nil] at hr
    cases hr
  | slash =>
    intro c r hr
    rw [skipLayout_slash] at hr
    cases hr
    exact ⟨rfl, rfl⟩
  | blank hc _ ih =>
    intro c r hr
    rw [skipLayout_blank hc] at hr
    exact ih c r hr
  | comment hc _ ih =>
    intro c r hr
    rw [skipLayout_comment hc] at hr
    exact ih c r hr
  | unclosed hc =>
    intro c r hr
    rw [skipLayout, if_neg (by decide)] at hr
    split at hr
    · next hn => rw [hc] at hn; cases hn
    · cases hr
    · next hs => rw [hc] at hs; cases hs

def RunsOut (s : List Char) : Prop := ∀ ts r, pieces [] s = .ok (ts, r) → r = []

theorem runsOut_map {f : List (List Char) → List (List Char)}
    (h : pieces [] s = (pieces [] t).map (fun p => (f p.1, p.2))) (ht : RunsOut t) : RunsOut s := by
  intro ts r hs
  rw [h] at hs
  obtain ⟨us, hus, -⟩ := map_pieces hs
  exact ht us r hus

theorem runsOut_nil : RunsOut [] := by
  intro ts r h
  rw [pieces] at h
  cases h
  rfl

theorem RunsOut.plain (hs : RunsOut s) (ht : ∀ c ∈ t, c ∉ marks) : RunsOut (t ++ s) := by
  cases t with
  | nil => exact hs
  | cons c t => exact runsOut_map (pieces_plain (by simp) (List.cons_ne_nil c t) ht s) hs

theorem CutLayout.runsOut (h : CutLayout s) : RunsOut s := by
  induction h with
  | nil => exact runsOut_nil
  | slash =>
    have hstep : pieces [] ['/'] = (pieces [] []).map (fun p => (addFront ['/'] p.1, p.2)) :=
      pieces_inner rfl (by decide) rfl (by simp) (.inr rfl) rfl
    exact runsOut_map hstep runsOut_nil
  | blank hc _ ih => exact ih.plain (t := [_]) (by simpa using notMem_marks_of_isBlank hc)
  | comment hc _ ih => exact runsOut_map (pieces_comment hc) ih
  | unclosed hc =>
    intro ts r h
    rw [pieces] at h
    split at h
    · cases h
    · next hs => rw [hc] at hs; cases hs
    · next hn => rw [hc] at hn; cases hn

/-- If a value is read from the text at all, no delimiter follows it. -/
def Starves (s : List Char) : Prop := ∀ v r, readValue s = .ok (v, r) → Ends r

theorem ends_nil : Ends [] := CutLayout.nil.ends

theorem RunsOut.starves {c : Char} (h : RunsOut (c :: s)) (hs : skipLayout (c :: s) = .ok (c :: s))
    (hlist : c ≠ '{') (hquote : c ≠ '"') : Starves (c :: s) := by
  intro v r hv
  obtain ⟨d, u, hd, hcases⟩ := readValue_cases hv
  rw [hs] at hd
  cases hd
  rcases hcases with ⟨_, hc, _⟩ | ⟨_, hc, _⟩ | ⟨_, he⟩
  · exact absurd hc hlist
  · exact absurd hc hquote
  · obtain ⟨ps, hp, -⟩ := readExpression_cases he
    rw [h ps r hp]
    exact ends_nil

theorem Ends.starves (h : Ends s) : Starves s := by
  intro v r hv
  obtain ⟨c, u, hs, -⟩ := readValue_cases hv
  obtain ⟨rfl, rfl⟩ := h c u hs
  rw [readValue_of_skipLayout hs] at hv
  exact CutLayout.slash.runsOut.starves skipLayout_slash (by decide) (by decide) v r hv

theorem starves_plain (ht : IsPlain t) {u : List Char} (hu : u <+: t) (hs : CutLayout s) :
    Starves (u ++ s) := by
  have hout : RunsOut (u ++ s) :=
    hs.runsOut.plain (fun c hc => (ht.chars c (hu.subset hc)).1)
  cases u with
  | nil => exact hs.ends.starves
  | cons c u =>
    obtain ⟨d, v, rfl, hb⟩ := ht.head
    cases (List.cons_prefix_cons.mp hu).1
    have hmark := (ht.chars c List.mem_cons_self).1
    simp only [marks, List.mem_cons, List.not_mem_nil, or_false, not_or] at hmark
    have hskip : skipLayout (c :: (u ++ s)) = .ok (c :: (u ++ s)) :=
      skipLayout_stop hb (by simp [hmark]) _
    exact hout.starves hskip (by simp [hmark]) (by simp [hmark])

theorem stringBody?_cut {s : List Char} (h : p <+: s.flatMap escape) : stringBody? p = none := by
  induction s generalizing p with
  | nil =>
    rw [List.prefix_nil.mp h]
    rfl
  | cons c s ih =>
    rw [List.flatMap_cons, escape] at h
    split at h
    · rcases prefix_cons_cons_cases h with rfl | rfl | ⟨v, rfl, hv⟩
      · rfl
      · rfl
      · rw [stringBody?, ih hv]
        rfl
    · next hc =>
      rcases List.prefix_cons_iff.mp h with rfl | ⟨u, rfl, hu⟩
      · rfl
      · rw [stringBody?, ih hu]
        · rfl
        · exact fun he => hc (.inl he)
        · exact fun _ _ he _ => hc (.inr he)

theorem stringLiteral_cut {s : List Char} (h : p <+: s.flatMap escape) :
    stringLiteral ('"' :: p) = .error .openString := by
  rw [stringLiteral, List.tail_cons, stringBody?_cut h]
  · rfl
  · rintro u he
    cases he
    cases s with
    | nil => cases List.prefix_nil.mp h
    | cons c s =>
      obtain ⟨d, v, hd, hne⟩ := escape_eq_cons c
      rw [List.flatMap_cons, hd] at h
      exact hne (List.cons_prefix_cons.mp h).1.symm

theorem CutLayout.head?_ne (h : CutLayout s) {c : Char} (hb : isBlank c = false) (hc : c ≠ '/') :
    s.head? ≠ some c := by
  cases h with
  | nil => simp
  | blank hd _ =>
    rintro ⟨rfl⟩
    rw [hb] at hd
    cases hd
  | slash | comment _ _ | unclosed _ =>
    rintro ⟨rfl⟩
    exact hc rfl

theorem starves_quoted {s q : List Char} (hq : CutLayout q) : Starves (quoted s ++ q) := by
  intro v r hv
  have hcons : quoted s ++ q = '"' :: (s.flatMap escape ++ '"' :: q) := by simp [quoted]
  have hskip : skipLayout (quoted s ++ q) = .ok (quoted s ++ q) := by
    rw [hcons]
    exact skipLayout_stop (by decide) (by decide) _
  have hstring := stringLiteral_quoted s (hq.head?_ne (c := '"') (by decide) (by decide))
  obtain ⟨b, hb⟩ := exists_literalBody? (stringBody?_escape s q)
  have hout : RunsOut (quoted s ++ q) :=
    hcons ▸ runsOut_map (pieces_literal (.inl rfl) hb) hq.runsOut
  obtain ⟨c, u, hu, hcases⟩ := readValue_cases hv
  rw [hskip] at hu
  rw [← Except.ok.inj hu] at hcases
  rcases hcases with ⟨_, hc, _⟩ | ⟨x, _, hx, _⟩ | ⟨_, he⟩
  · have hhead := (List.cons.inj (hcons.symm.trans (Except.ok.inj hu))).1
    rw [hc] at hhead
    exact absurd hhead (by decide)
  · rw [hstring] at hx
    cases hx
    exact hq.ends
  · obtain ⟨ps, hp, -⟩ := readExpression_cases he
    rw [hout ps r hp]
    exact ends_nil

theorem starves_openString {s : List Char} (h : p <+: s.flatMap escape) : Starves ('"' :: p) := by
  intro v r hv
  rw [readValue_eq, skipLayout_stop (by decide) (by decide)] at hv
  simp only [Char.reduceEq, if_false, if_true, stringLiteral_cut h] at hv
  cases hv

theorem starves_string {s m : List Char} (hm : Layout m) (hp : p <+: quoted s ++ m) :
    Starves p := by
  rcases prefix_append_cases hp with ⟨hp, hne⟩ | ⟨q, rfl, hq⟩
  · rcases List.prefix_cons_iff.mp (prefix_of_concat hp hne) with rfl | ⟨u, rfl, hu⟩
    · exact ends_nil.starves
    · exact starves_openString hu
  · exact starves_quoted (hm.cut hq)

theorem starves_expression (ht : IsPlain t) {m : List Char} (hm : Layout m) (hp : p <+: t ++ m) :
    Starves p := by
  rcases prefix_append_cases hp with ⟨hp, -⟩ | ⟨q, rfl, hq⟩
  · have h := starves_plain ht hp .nil
    rwa [List.append_nil] at h
  · exact starves_plain ht (List.prefix_refl t) (hm.cut hq)

theorem starves_list {vs : List Value} (ht : SpelledItems Readable vs t) {m : List Char}
    (hm : Layout m) (hcut : ∀ q, q <+: t → q ≠ t → ∀ ws r, readItems q ≠ .ok (ws, r))
    (hp : p <+: '{' :: t ++ m) : Starves p := by
  rw [List.cons_append] at hp
  rcases List.prefix_cons_iff.mp hp with rfl | ⟨q, rfl, hq⟩
  · exact ends_nil.starves
  intro v r hv
  have hskip : skipLayout ('{' :: q) = .ok ('{' :: q) := skipLayout_stop (by decide) (by decide) q
  obtain ⟨c, u, hu, ⟨ws, rfl, hi, -⟩ | ⟨_, rfl, -⟩ | ⟨hc, -⟩⟩ := readValue_cases hv
  · rw [hskip] at hu
    cases hu
    rcases prefix_append_cases hq with ⟨hq, hne⟩ | ⟨x, rfl, hx⟩
    · exact absurd hi (hcut q hq hne ws r)
    · rw [readItems_spelled (fun _ _ ht => ht) ht] at hi
      cases hi
      exact (hm.cut hx).ends
  · rw [hskip] at hu
    cases hu
  · rw [hskip] at hu
    cases hu
    exact absurd rfl hc

theorem skipLayout_cut {c : Char} {u : List Char} (hb : isBlank c = false) (hc : c ≠ '/')
    (hp : p <+: c :: u) : skipLayout p = .ok p := by
  rcases List.prefix_cons_iff.mp hp with rfl | ⟨q, rfl, _⟩
  · exact skipLayout_nil
  · exact skipLayout_stop hb hc q

theorem Starves.layout {l : List Char} (h : Starves s) (hl : Layout l) : Starves (l ++ s) := by
  intro v r hv
  rw [readValue_layout hl] at hv
  exact h v r hv

theorem Starves.readItems_ne (h : Starves s) (hs : ∀ r, skipLayout s ≠ .ok ('}' :: r))
    (vs : List Value) (r : List Char) : readItems s ≠ .ok (vs, r) := by
  intro hi
  obtain ⟨c, u, hu, ⟨rfl, -⟩ | ⟨v, after, d, rest, hv, hd, hcases⟩⟩ := readItems_cases hi
  · exact hs u hu
  · rw [← readValue_of_skipLayout hu] at hv
    obtain ⟨rfl, -⟩ := h v after hv d rest hd
    rcases hcases with ⟨hc, -⟩ | ⟨_, hc, -⟩
    · exact absurd hc (by decide)
    · exact absurd hc (by decide)

theorem Ends.readItems_ne (h : Ends s) : ∀ vs r, readItems s ≠ .ok (vs, r) :=
  h.starves.readItems_ne (fun r hr => absurd (h _ r hr).1 (by decide))

theorem readItems_cut_item {v : Value} {l m : List Char} (ht : Readable v t) (hl : Layout l)
    (hcut : ∀ q, q <+: t ++ m → Starves q) (hp : p <+: l ++ t ++ m) :
    ∀ vs r, readItems p ≠ .ok (vs, r) := by
  rw [List.append_assoc] at hp
  rcases prefix_append_cases hp with ⟨hp, -⟩ | ⟨q, rfl, hq⟩
  · exact (hl.cut hp).ends.readItems_ne
  · obtain ⟨c, u, rfl, hb, hc⟩ := ht.head
    apply ((hcut q hq).layout hl).readItems_ne
    intro r hr
    rw [skipLayout_append hl, skipLayout_cut hb (by rintro rfl; simp at hc) hq] at hr
    cases hr
    rw [← (List.cons_prefix_cons.mp hq).1] at hc
    simp at hc

theorem readItems_comma {v : Value} {l m s : List Char} (ht : Readable v t) (hl : Layout l)
    (hm : Layout m) {vs : List Value} (h : readItems (l ++ t ++ m ++ ',' :: s) = .ok (vs, r)) :
    ∃ ws, readItems s = .ok (ws, r) := by
  obtain ⟨c, u, w, hs, hc, hv, hw⟩ := ht.item (c := ',') hl hm rfl s
  have he : l ++ t ++ m ++ ',' :: s = l ++ (t ++ (m ++ ',' :: s)) := by simp
  rw [he] at h
  obtain ⟨d, x, hx, ⟨rfl, -⟩ | ⟨v', after, e, rest, hv', hd, hcases⟩⟩ := readItems_cases h
  · rw [hs] at hx
    cases hx
    exact absurd rfl hc
  · rw [hs] at hx
    cases hx
    rw [hv] at hv'
    cases hv'
    rw [hw] at hd
    cases hd
    rcases hcases with ⟨hc, -⟩ | ⟨ws, -, hr, -⟩
    · exact absurd hc (by decide)
    · exact ⟨ws, hr⟩

-- a list is cut in one of its items, or between two of them
mutual

theorem Written.starves {v : Value} {t m p : List Char} (h : Written v t) (hm : Layout m)
    (hp : p <+: t ++ m) : Starves p :=
  match h with
  | .string _ => starves_string hm hp
  | .classLiteral hs =>
    starves_expression (dots_concat_class hs.1 ▸ hs.concat_class.isPlain) hm hp
  | .reference hs _ _ => starves_expression hs.isPlain hm hp
  | .literal ht => starves_expression ht.toIsPlain hm hp
  | .list ht => starves_list ht.spelled hm (fun _ hq hne => readItems_cut ht hq hne) hp

theorem readItems_cut {vs : List Value} {t p : List Char} (h : WrittenItems vs t) (hp : p <+: t)
    (hne : p ≠ t) (ws : List Value) (r : List Char) : readItems p ≠ .ok (ws, r) := by
  match h with
  | .nil hl => exact (hl.cut (prefix_of_concat hp hne)).ends.readItems_ne ws r
  | .last hl ht hm =>
    exact readItems_cut_item (ht.spelled.readable (fun _ _ h => h)) hl
      (fun _ hq => ht.starves hm hq) (prefix_of_concat hp hne) ws r
  | .cons hl ht hm hs =>
    have hread := ht.spelled.readable (fun _ _ h => h)
    rcases prefix_append_cases hp with ⟨hp, -⟩ | ⟨q, rfl, hq⟩
    · exact readItems_cut_item hread hl (fun _ hq => ht.starves hm hq) hp ws r
    · rcases List.prefix_cons_iff.mp hq with rfl | ⟨x, rfl, hx⟩
      · exact readItems_cut_item hread hl (fun _ hq => ht.starves hm hq) (by simp) ws r
      · intro hi
        obtain ⟨us, hus⟩ := readItems_comma hread hl hm hi
        exact readItems_cut hs hx (by rintro rfl; exact hne rfl) us r hus

end

end Wiring.Annotation
