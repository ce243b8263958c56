import Mathlib.Data.List.Forall2
import Wiring.Proofs.Annotation.Lexemes
import Wiring.Proofs.Annotation.Positions

namespace Wiring.Annotation

open Wiring.Text

variable {text s t r v : List Char} {pos stop : Nat} {body : List Sign}

theorem stringBody?_map_snd (s : List Char) :
    (stringBody? s).map Prod.snd = (literalBody? '"' s).map Prod.snd := by
  fun_induction stringBody? s with
  | case1 => rfl
  | case2 r =>
    rw [literalBody?_quote]
    rfl
  | case3 c r ih => simpa only [literalBody?, Option.map_map, Function.comp_def] using ih
  | case4 c r hquote hescape ih =>
    -- this may be a backslash at the end of the text, which both readers pass over
    rw [literalBody?, if_neg hquote]
    · simpa only [Option.map_map, Function.comp_def] using ih
    · exact hescape

theorem exists_literalBody? (h : stringBody? s = some (v, r)) :
    ∃ t, literalBody? '"' s = some (t, r) := by
  have hends := stringBody?_map_snd s
  rw [h, Option.map_some, eq_comm, Option.map_eq_some_iff] at hends
  obtain ⟨⟨t, _⟩, ht, rfl⟩ := hends
  exact ⟨t, ht⟩

theorem literalBody?_eq_none (h : stringBody? s = none) : literalBody? '"' s = none := by
  have hends := stringBody?_map_snd s
  rwa [h, Option.map_none, eq_comm, Option.map_eq_none_iff] at hends

/-- The string at the position has the value and ends before the stop, be it read or skipped. -/
structure StringAt (text : List Char) (pos : Nat) (v : List Char) (stop : Nat) : Prop where
  within : pos < stop ∧ stop ≤ text.length
  read : stringLiteral (text.drop pos) = .ok (v, text.drop stop)
  skip : literalBody? '"' (text.drop (pos + 1)) =
    some (slice text (pos + 1) stop, text.drop stop)
  walk : ∀ n, text.length ≤ pos + n → walkString text n pos = pure (v, stop)
  walkOver : ∀ n, text.length ≤ pos + n → walkLiteral text n pos = pure stop

structure OpenStringAt (text : List Char) (pos : Nat) : Prop where
  read : stringLiteral (text.drop pos) = .error .openString
  skip : literalBody? '"' (text.drop (pos + 1)) = none
  walk : ∀ n, text.length ≤ pos + n → walkString text n pos = fail text .openString
  walkOver : ∀ n, text.length ≤ pos + n → walkLiteral text n pos = fail text .openLiteral

theorem stringAt_of_stringBody? (h : At text pos ('"' :: s)) (hq : ¬ threeQuotes <+: '"' :: s)
    (hs : stringBody? s = some (v, r)) (hstop : At text stop r) : StringAt text pos v stop := by
  obtain ⟨t, ht⟩ := exists_literalBody? hs
  have hread : stringLiteral ('"' :: s) = .ok (v, r) := by
    rw [stringLiteral_quote hq, hs]
    rfl
  have hbody : At text (pos + 1) (t ++ r) := eq_append_of_literalBody? ht ▸ h.cons
  have hslice : slice text (pos + 1) stop = t := by
    rw [hstop.unique hbody.of_append, slice_append (Nat.le_refl _) hbody, slice_self,
      List.nil_append]
  constructor
  · exact ⟨h.lt_of_shorter hstop (Nat.lt_succ_of_lt (stringBody?_shorter hs)), hstop.le⟩
  · rw [h.drop, hstop.drop, hread]
  · rw [h.cons.drop, hstop.drop, hslice, ht]
  · intro n hn
    obtain ⟨p, hwalk, hv, hk⟩ := (hread ▸ agree_string (h.steps_lt hn) h).exists_pure
    have hp : p = (v, stop) := Prod.ext hv (hk.unique hstop)
    rw [hwalk, hp]
  · intro n hn
    have hagree := agree_literal (by decide) (h.steps_lt hn) h
    rw [ht] at hagree
    obtain ⟨k, hwalk, hk⟩ := hagree.exists_pure
    rw [hwalk, hk.unique hstop]

theorem openStringAt_of_stringBody? (h : At text pos ('"' :: s))
    (hq : ¬ threeQuotes <+: '"' :: s) (hs : stringBody? s = none) : OpenStringAt text pos := by
  have hread : stringLiteral ('"' :: s) = .error .openString := by
    rw [stringLiteral_quote hq, hs]
    rfl
  have hskip := literalBody?_eq_none hs
  constructor
  · rw [h.drop, hread]
  · rw [h.cons.drop, hskip]
  · intro n hn
    exact (hread ▸ agree_string (h.steps_lt hn) h).eq_fail
  · intro n hn
    have hagree := agree_literal (by decide) (h.steps_lt hn) h
    rw [hskip] at hagree
    exact hagree.eq_fail

theorem stringAt_or_openStringAt (h : At text pos ('"' :: s))
    (hq : ¬ threeQuotes <+: '"' :: s) :
    (∃ v stop, StringAt text pos v stop) ∨ OpenStringAt text pos := by
  cases hs : stringBody? s with
  | none => exact .inr (openStringAt_of_stringBody? h hq hs)
  | some p =>
    obtain ⟨v, r⟩ := p
    obtain ⟨t, ht⟩ := exists_literalBody? hs
    have hstop := (eq_append_of_literalBody? ht ▸ h.cons : At text (pos + 1) (t ++ r)).of_append
    exact .inl ⟨v, _, stringAt_of_stringBody? h hq hs hstop⟩

def escapes : List (Char × Char) :=
  [('n', '\n'), ('t', '\t'), ('r', '\r'), ('b', '\x08'), ('f', '\x0c'), ('0', '\x00'),
    ('"', '"'), ('\'', '\''), ('\\', '\\')]

inductive Sign.StandsFor : Sign → Char → Prop where
  | plain {c : Char} (hq : c ≠ '"') (hb : c ≠ '\\') : StandsFor (.plain c) c
  | escaped {l c : Char} (h : (l, c) ∈ escapes) : StandsFor (.escaped l) c

theorem unescape_of_mem : ∀ p ∈ escapes, unescape p.1 = p.2 := by decide

theorem Sign.StandsFor.value_eq {sign : Sign} {c : Char} (h : sign.StandsFor c) :
    sign.value = c := by
  cases h with
  | plain => rfl
  | escaped h => exact unescape_of_mem _ h

theorem map_value_of_standsFor (h : List.Forall₂ Sign.StandsFor body s) :
    body.map Sign.value = s := by
  induction h with
  | nil => rfl
  | cons hc _ ih => rw [List.map_cons, hc.value_eq, ih]

theorem encloses_of_standsFor (h : List.Forall₂ Sign.StandsFor body s) : Encloses '"' body := by
  have hne : ∀ c, .plain c ∈ body → c ≠ '"' ∧ c ≠ '\\' := by
    intro c hc
    induction h with
    | nil => cases hc
    | cons hsign _ ih =>
      rcases List.mem_cons.mp hc with rfl | hc
      · cases hsign with
        | plain hq hb => exact ⟨hq, hb⟩
      · exact ih hc
  exact ⟨fun hm => (hne _ hm).1 rfl, fun hm => (hne _ hm).2 rfl⟩

theorem not_threeQuotes_quoted (h : Encloses '"' body) (hr : body = [] → r.head? ≠ some '"') :
    ¬ threeQuotes <+: '"' :: (bodyText body ++ '"' :: r) := by
  cases body with
  | nil =>
    rintro ⟨u, hu⟩
    cases hu
    exact hr rfl rfl
  | cons sign body => exact not_threeQuotes_of_encloses h (List.cons_ne_nil _ _) _ _

theorem stringAt_of_standsFor {after : List Char} (h : List.Forall₂ Sign.StandsFor body s)
    (hpos : text.drop pos = '"' :: (bodyText body ++ '"' :: after))
    (hafter : s = [] → after.head? ≠ some '"') :
    StringAt text pos s (pos + (bodyText body).length + 2) := by
  have hat : At text pos ('"' :: (bodyText body ++ '"' :: after)) := .of_drop hpos
  have hb := encloses_of_standsFor h
  have hq : ¬ threeQuotes <+: '"' :: (bodyText body ++ '"' :: after) := by
    refine not_threeQuotes_quoted hb (fun hnil => hafter ?_)
    rw [← map_value_of_standsFor h, hnil, List.map_nil]
  have hstop : At text (pos + (bodyText body).length + 2) after := by
    have hend := hat.cons.of_append.cons
    rwa [Nat.add_right_comm pos 1] at hend
  refine stringAt_of_stringBody? hat hq ?_ hstop
  rw [stringBody?_bodyText hb, map_value_of_standsFor h]

/-- At a quote that begins no text block, a string is read up to where it is skipped to, or is
refused by both. One that is written for a text is read as that text, up to its last quote. -/
theorem string_ends_where_skipped (text : List Char) (pos : Nat) :
    (text[pos]? = some '"' → ¬ threeQuotes <+: text.drop pos →
      (∃ v stop, StringAt text pos v stop) ∨ OpenStringAt text pos) ∧
    ∀ body s after, List.Forall₂ Sign.StandsFor body s →
      text.drop pos = '"' :: (bodyText body ++ '"' :: after) →
      (s = [] → after.head? ≠ some '"') →
      StringAt text pos s (pos + (bodyText body).length + 2) := by
  constructor
  · intro hquote hq
    obtain ⟨hlt, hc⟩ := List.getElem?_eq_some_iff.mp hquote
    have hat : At text pos ('"' :: text.drop (pos + 1)) :=
      .of_drop (by rw [List.drop_eq_getElem_cons hlt, hc])
    rw [hat.drop] at hq
    exact stringAt_or_openStringAt hat hq
  · intro body s after h hpos hafter
    exact stringAt_of_standsFor h hpos hafter

theorem string_ends_where_skipped_escaped :
    let text := ['@', 'V', '(', '"', 'a', '\\', '"', '\\', 'n', '"', ')']
    let cut := ['@', 'V', '(', '"', 'a', '\\']
    text[3]? = some '"' ∧ StringAt text 3 ['a', '"', '\n'] 10 ∧
      cut[3]? = some '"' ∧ ¬ threeQuotes <+: cut.drop 3 ∧ OpenStringAt cut 3 := by
  intro text cut
  have hbody : List.Forall₂ Sign.StandsFor [.plain 'a', .escaped '"', .escaped 'n']
      ['a', '"', '\n'] :=
    .cons (.plain (by decide) (by decide))
      (.cons (.escaped (by decide)) (.cons (.escaped (by decide)) .nil))
  have hcut : ¬ threeQuotes <+: cut.drop 3 := by decide
  refine ⟨rfl, ?_, rfl, hcut, ?_⟩
  · exact (string_ends_where_skipped text 3).2 _ _ [')'] hbody rfl (by simp)
  · refine ((string_ends_where_skipped cut 3).1 rfl hcut).resolve_left ?_
    rintro ⟨v, stop, h⟩
    cases h.read

end Wiring.Annotation
