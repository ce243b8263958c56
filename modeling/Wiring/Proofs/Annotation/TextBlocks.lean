import Mathlib
import Wiring.Proofs.Annotation.Lexemes
import Wiring.Proofs.Annotation.Outcomes

namespace Wiring.Annotation

open Wiring.Text

variable {t r u : List Char} {body : List Sign} {ls : List Lexeme}

theorem textBlock?_cons {c : Char} {s : List Char} (h : ¬ threeQuotes <+: c :: s) :
    textBlock? (c :: s) = (textBlock? s).map (fun p => (c :: p.1, p.2)) := by
  rw [textBlock?]
  rintro v rfl rfl
  exact h ⟨v, rfl⟩

theorem threeQuotes_prefix_iff {c : Char} :
    threeQuotes <+: c :: (u ++ (threeQuotes ++ r)) ↔ threeQuotes <+: c :: (u ++ ['"', '"']) := by
  rcases u with _ | ⟨d, _ | ⟨e, u⟩⟩
  · simp [threeQuotes, List.cons_prefix_cons]
  · simp [threeQuotes, List.cons_prefix_cons]
  · simp [threeQuotes, List.cons_prefix_cons]

theorem textBlock?_append (h : ¬ threeQuotes <:+: u ++ ['"', '"']) (r : List Char) :
    textBlock? (u ++ (threeQuotes ++ r)) = some (u, r) := by
  induction u with
  | nil => rfl
  | cons c u ih =>
    rw [List.cons_append, List.infix_cons_iff, not_or] at h
    rw [List.cons_append, textBlock?_cons (mt threeQuotes_prefix_iff.mp h.1), ih h.2]
    rfl

theorem textBlock?_early (h : threeQuotes <:+: u ++ ['"', '"']) :
    ∃ v w, w ≠ [] ∧ u ++ threeQuotes = v ++ threeQuotes ++ w ∧
      ∀ r, textBlock? (u ++ (threeQuotes ++ r)) = some (v, w ++ r) := by
  induction u with
  | nil => exact absurd h.length_le (by decide)
  | cons c u ih =>
    by_cases hp : threeQuotes <+: c :: (u ++ ['"', '"'])
    · obtain ⟨w, hw⟩ := hp
      have he (s : List Char) : c :: u ++ (threeQuotes ++ s) = threeQuotes ++ (w ++ ['"'] ++ s) := by
        have hw := congrArg (· ++ ('"' :: s)) hw
        simpa [threeQuotes] using hw.symm
      refine ⟨[], w ++ ['"'], by simp, ?_, fun r => ?_⟩
      · simpa using he []
      · rw [he]
        rfl
    · rw [List.cons_append, List.infix_cons_iff] at h
      obtain ⟨v, w, hw, he, hr⟩ := ih (h.resolve_left hp)
      refine ⟨c :: v, w, hw, by rw [List.cons_append, he]; rfl, fun r => ?_⟩
      rw [List.cons_append, textBlock?_cons (mt threeQuotes_prefix_iff.mp hp), hr]
      rfl

theorem textBlock?_bodyText (hb : Encloses '"' body) (r : List Char) :
    ∃ v, textBlock? (bodyText body ++ (threeQuotes ++ r)) =
      some (v, (if body.getLast? = some (.escaped '"') then ['"'] else []) ++ r) := by
  induction body with
  | nil => exact ⟨[], rfl⟩
  | cons s body ih =>
    obtain ⟨v, hv⟩ := ih hb.tail
    rw [bodyText_cons, List.append_assoc]
    cases s with
    | plain c =>
      have hlast : (Sign.plain c :: body).getLast? = some (.escaped '"') ↔
          body.getLast? = some (.escaped '"') := by
        cases body with
        | nil => simp
        | cons s body => simp
      refine ⟨c :: v, ?_⟩
      rw [Sign.text, List.singleton_append, textBlock?_cons (not_threeQuotes_of_ne hb.ne.1), hv]
      simp only [hlast, Option.map_some]
    | escaped c =>
      have hback (t : List Char) : textBlock? ('\\' :: t) =
          (textBlock? t).map (fun p => ('\\' :: p.1, p.2)) :=
        textBlock?_cons (not_threeQuotes_of_ne (by decide))
      rw [Sign.text, List.cons_append, List.singleton_append, hback]
      cases body with
      | nil =>
        by_cases hc : c = '"'
        · subst hc
          exact ⟨['\\'], rfl⟩
        · refine ⟨['\\', c], ?_⟩
          rw [textBlock?_cons (not_threeQuotes_of_ne hc)]
          simp [hc, bodyText, threeQuotes, textBlock?]
      | cons s body =>
        refine ⟨'\\' :: c :: v, ?_⟩
        rw [textBlock?_cons (not_threeQuotes_of_encloses hb.tail (List.cons_ne_nil _ _) c _), hv]
        simp [List.getLast?_cons_cons]

structure IsBlockBody (body : List Sign) : Prop where
  backslash : .plain '\\' ∉ body
  inner : ¬ [.plain '"', .plain '"', .plain '"'] <:+: body
  last : body.getLast? ≠ some (.plain '"')

structure IsExpression (ls : List Lexeme) : Prop where
  lexed : Lexed [] ls
  head : ∃ l rest, ls = l :: rest ∧ l.isLayout = false ∧
    l ∉ [.sign '/', .sign '=', .sign '{']
  quotes : threeQuotes <+: spell ls → ∃ body rest, ls = .block body :: rest
  block : ∃ body, .block body ∈ ls
  front : ∀ body rest, ls = .block body :: rest →
    Encloses '"' body ∨ ¬ threeQuotes <:+: bodyText body ++ ['"', '"']
  alone : ∀ body rest, ls = .block body :: rest → (∀ l ∈ rest, l.isLayout = true) →
    threeQuotes <:+: bodyText body ++ ['"', '"']

/-- A value that may have text blocks in it: a whole block is a string, unless its text ends it
early. -/
inductive WithBlocks : Value → List Char → Prop where
  | written {v : Value} {t : List Char} (ht : Written v t) : WithBlocks v t
  | whole {body : List Sign} (hb : IsBlockBody body)
      (hq : ¬ threeQuotes <:+: bodyText body ++ ['"', '"']) :
      WithBlocks (.string (String.ofList ('\n' :: bodyText body))) (textBlock body)
  | expression {ls : List Lexeme} (h : IsExpression ls) :
      WithBlocks (.literal (String.ofList (kept ls))) (spell ls)

theorem stringLiteral_textBlock (body : List Sign) (r : List Char) :
    stringLiteral (textBlock body ++ r) =
      (textBlock? ('\n' :: bodyText body ++ (threeQuotes ++ r))).elim (.error .openTextBlock) .ok := by
  have he : textBlock body ++ r =
      '"' :: '"' :: '"' :: ('\n' :: bodyText body ++ (threeQuotes ++ r)) := by
    simp [textBlock, threeQuotes]
  rw [he, stringLiteral]

theorem infix_newline : threeQuotes <:+: '\n' :: t ↔ threeQuotes <:+: t := by
  rw [List.infix_cons_iff, or_iff_right (not_threeQuotes_of_ne (by decide))]

theorem stringLiteral_textBlock_append (hq : ¬ threeQuotes <:+: bodyText body ++ ['"', '"'])
    (r : List Char) : stringLiteral (textBlock body ++ r) = .ok ('\n' :: bodyText body, r) := by
  have ht := textBlock?_append (u := '\n' :: bodyText body) (mt infix_newline.mp hq) r
  rw [stringLiteral_textBlock, ht]
  rfl

theorem readable_textBlock (hq : ¬ threeQuotes <:+: bodyText body ++ ['"', '"']) :
    Readable (.string (String.ofList ('\n' :: bodyText body))) (textBlock body) :=
  .string rfl (fun s _ => stringLiteral_textBlock_append hq s)

theorem skipLayout_spell (h : Lexed [] ls) (hl : ∃ l ∈ ls, l.isLayout = false) (r : List Char) :
    ∃ c s, skipLayout (spell ls ++ r) = .ok (c :: s) ∧ isStop c = false := by
  induction ls with
  | nil => simp at hl
  | cons l ls ih =>
    have hrest (hlay : l.isLayout = true) : ∃ k ∈ ls, k.isLayout = false := by
      obtain ⟨k, hk, hkl⟩ := hl
      rcases List.mem_cons.mp hk with rfl | hk
      · rw [hlay] at hkl
        cases hkl
      · exact ⟨k, hk, hkl⟩
    rw [spell_cons, List.append_assoc]
    cases h with
    | @opening c _ _ _ hc h =>
      have hne : isBlank c = false ∧ c ≠ '/' ∧ isStop c = false := by
        rcases eq_of_closer? hc with rfl | rfl | rfl <;> decide
      exact ⟨c, _, skipLayout_stop hne.1 hne.2.1 _, hne.2.2⟩
    | slash hs h => exact ⟨'/', _, skipLayout_self (by decide) (comment?_slash hs r), by decide⟩
    | @sign c _ _ hc h =>
      simp only [marks, List.mem_cons, List.not_mem_nil, or_false, not_or] at hc
      cases hb : isBlank c with
      | true =>
        obtain ⟨d, s, hs, hd⟩ := ih h (hrest hb)
        exact ⟨d, s, (skipLayout_blank hb _).trans hs, hd⟩
      | false => exact ⟨c, _, skipLayout_stop hb (by simp [hc]) _, by simp [isStop, hc]⟩
    | @literal mark body _ _ hm hb h =>
      have hne : isBlank mark = false ∧ mark ≠ '/' ∧ isStop mark = false := by
        rcases hm with rfl | rfl <;> decide
      exact ⟨mark, _, skipLayout_stop hne.1 hne.2.1 _, hne.2.2⟩
    | block hb h => exact ⟨'"', _, skipLayout_stop (by decide) (by decide) _, by decide⟩
    | @comment t _ _ ht h =>
      obtain ⟨u, hu, hc⟩ := ht.exists_slash (spell ls ++ r)
      obtain ⟨d, s, hs, hd⟩ := ih h (hrest rfl)
      rw [Lexeme.text, hu, skipLayout_comment hc]
      exact ⟨d, s, hs, hd⟩

theorem threeQuotes_prefix_append (h : .block body ∈ ls) :
    threeQuotes <+: spell ls ++ r ↔ threeQuotes <+: spell ls := by
  obtain ⟨as, bs, rfl⟩ := List.append_of_mem h
  have hlen : threeQuotes.length ≤ (spell (as ++ .block body :: bs)).length := by
    simp [spell, Lexeme.text, textBlock, threeQuotes]
    omega
  exact ⟨fun hp => List.prefix_of_prefix_length_le hp (List.prefix_append _ r) hlen,
    fun hp => hp.trans (List.prefix_append _ r)⟩

theorem stringLiteral_bodyText (hb : Encloses '"' body)
    (hq : ¬ threeQuotes <+: '"' :: (bodyText body ++ '"' :: r)) :
    stringLiteral ('"' :: (bodyText body ++ '"' :: r)) = .ok (body.map Sign.value, r) := by
  rw [stringLiteral_quote hq, stringBody?_bodyText hb]
  rfl

theorem stringLiteral_early (hb : Encloses '"' body)
    (hq : threeQuotes <:+: bodyText body ++ ['"', '"']) (r : List Char) :
    ∃ v, stringLiteral (textBlock body ++ r) = .ok (v, '"' :: r) := by
  obtain ⟨v, w, hw, -, hearly⟩ := textBlock?_early hq
  obtain ⟨u, hu⟩ := textBlock?_bodyText hb r
  have hquote : u = v ∧ (if body.getLast? = some (.escaped '"') then ['"'] else []) = w := by
    rw [hearly] at hu
    simpa [eq_comm] using hu
  have hlast : body.getLast? = some (.escaped '"') := by
    by_contra hlast
    rw [if_neg hlast] at hquote
    exact hw hquote.2.symm
  rw [if_pos hlast] at hu
  refine ⟨'\n' :: u, ?_⟩
  rw [stringLiteral_textBlock, List.cons_append,
    textBlock?_cons (not_threeQuotes_of_ne (by decide)), hu]
  rfl

theorem stringLiteral_spell (h : IsExpression ls) (hs : (spell ls).head? = some '"')
    (r : List Char) :
    ∃ v rest c s, stringLiteral (spell ls ++ r) = .ok (v, rest) ∧
      skipLayout rest = .ok (c :: s) ∧ isStop c = false := by
  obtain ⟨l, rest, rfl, hlay, -⟩ := h.head
  obtain ⟨inner, hinner⟩ := h.block
  have hlexed := h.lexed
  cases hlexed with
  | opening hc _ =>
    cases hs
    cases hc
  | slash _ _ => cases hs
  | sign hc _ =>
    cases hs
    exact absurd List.mem_cons_self hc
  | @literal mark body _ _ hm hb hrest =>
    cases hs
    have he : spell (.literal '"' body :: rest) ++ r =
        '"' :: (bodyText body ++ '"' :: (spell rest ++ r)) := by simp [spell, Lexeme.text]
    have hq : ¬ threeQuotes <+: '"' :: (bodyText body ++ '"' :: (spell rest ++ r)) := by
      rw [← he, threeQuotes_prefix_append hinner]
      intro hp
      obtain ⟨_, _, hcons⟩ := h.quotes hp
      cases hcons
    have hmem : .block inner ∈ rest := by simpa using hinner
    obtain ⟨c, s, hskip, hc⟩ := skipLayout_spell hrest ⟨_, hmem, rfl⟩ r
    exact ⟨_, _, c, s, by rw [he, stringLiteral_bodyText hb hq], hskip, hc⟩
  | @block body _ _ hb hrest =>
    have he : spell (.block body :: rest) ++ r = textBlock body ++ (spell rest ++ r) := by
      rw [spell_cons, List.append_assoc, Lexeme.text]
    rw [he]
    -- either the block ends too early and leaves a quote, or a lexeme follows that is no layout
    by_cases hq : threeQuotes <:+: bodyText body ++ ['"', '"']
    · have hencloses := (h.front body rest rfl).resolve_right (not_not_intro hq)
      obtain ⟨v, hv⟩ := stringLiteral_early hencloses hq (spell rest ++ r)
      exact ⟨v, _, '"', _, hv, skipLayout_stop (by decide) (by decide) _, by decide⟩
    · have hgoes : ∃ l ∈ rest, l.isLayout = false := by
        by_contra hlayout
        refine hq (h.alone body rest rfl (fun l hl => ?_))
        by_contra hne
        exact hlayout ⟨l, hl, by simpa using hne⟩
      obtain ⟨c, s, hskip, hc⟩ := skipLayout_spell hrest hgoes r
      exact ⟨_, _, c, s, stringLiteral_textBlock_append hq _, hskip, hc⟩
  | comment _ _ => cases hlay

theorem IsExpression.exists_head (h : IsExpression ls) :
    ∃ c u, spell ls = c :: u ∧ isBlank c = false ∧ c ∉ ['/', '=', ')', '}', '{'] := by
  obtain ⟨l, rest, rfl, hlay, hl⟩ := h.head
  have hlexed := h.lexed
  cases hlexed with
  | @opening c _ _ _ hc _ =>
    refine ⟨c, _, rfl, ?_⟩
    rcases eq_of_closer? hc with rfl | rfl | rfl
    · decide
    · decide
    · exact absurd (by decide) hl
  | slash _ _ => exact absurd (by decide) hl
  | @sign c _ _ hc _ =>
    refine ⟨c, _, rfl, hlay, ?_⟩
    simp only [marks, List.mem_cons, List.not_mem_nil, or_false, not_or] at hc
    have hequals : c ≠ '=' := by
      rintro rfl
      exact absurd (by decide) hl
    simp [hc, hequals]
  | @literal mark _ _ _ hm _ _ =>
    refine ⟨mark, _, rfl, ?_⟩
    rcases hm with rfl | rfl <;> decide
  | block _ _ => exact ⟨'"', _, rfl, by decide, by decide⟩
  | comment _ _ => cases hlay

theorem IsExpression.readable (h : IsExpression ls) :
    Readable (.literal (String.ofList (kept ls))) (spell ls) := by
  obtain ⟨body, hblock⟩ := h.block
  obtain ⟨d, u, hd, hb, hne⟩ := h.exists_head
  constructor
  · refine ⟨d, u, hd, hb, fun hm => hne ?_⟩
    exact List.mem_append_left ['{'] hm
  · intro m c r hm hc
    have hx := readExpression_spell h.lexed hblock hm hc r
    refine ⟨c :: r, ?_, skipLayout_isStop hc⟩
    simp only [List.mem_cons, List.not_mem_nil, or_false, not_or] at hne
    by_cases hquote : d = '"'
    · obtain ⟨v, rest, e, s, hs, hskip, he⟩ :=
        stringLiteral_spell h (by rw [hd, hquote]; rfl) (m ++ c :: r)
      have hends : endsValue (e :: s) = false := he
      rw [hd, List.cons_append] at hs hx ⊢
      rw [readValue_eq, skipLayout_stop hb hne.1]
      simp only [if_neg hne.2.2.2.2, if_pos hquote, hs, hskip, hends, hx, Bool.false_eq_true,
        if_false]
    · rw [hd, List.cons_append] at hx ⊢
      rw [readValue_eq, skipLayout_stop hb hne.1]
      simp only [if_neg hne.2.2.2.2, if_neg hquote, hx]

theorem WithBlocks.readable (v : Value) (t : List Char) (h : WithBlocks v t) : Readable v t := by
  cases h with
  | written ht => exact ht.spelled.readable (fun _ _ h => h)
  | whole _ hq => exact readable_textBlock hq
  | expression h => exact h.readable

/-- A text block counts as one literal, as a value or in an expression, unless plain quotes in an
expression let marks out of it or the text of a value has three quotes in it. In an expression the
reader goes on behind the first plain quote as if the block were over, and a value ends with the
first three quotes. -/
theorem read_textBlocks (a : Annotation) (t : List Char) (body : List Sign) :
    (SpelledWhole WithBlocks a t → read t = .ok a) ∧
      (∀ ls, Lexeme.block body ∈ ls → textBlock body <:+: kept ls) ∧
        (IsBlockBody body →
          (∀ front back, body = front ++ .plain '"' :: back → .plain '"' ∉ front →
            ∀ closers r, pieces closers (textBlock body ++ r) =
              (pieces closers (bodyText back ++ threeQuotes ++ r)).map (fun p =>
                (addFront (threeQuotes ++ '\n' :: bodyText front ++ ['"']) p.1, p.2))) ∧
            (threeQuotes <:+: bodyText body ++ ['"', '"'] →
              ∃ v w, w ≠ [] ∧ textBlock body = threeQuotes ++ v ++ threeQuotes ++ w ∧
                ∀ r, stringLiteral (textBlock body ++ r) = .ok (v, w ++ r))) := by
  refine ⟨fun h => ?_, fun ls h => textBlock_infix_kept h, fun hb => ⟨?_, fun hq => ?_⟩⟩
  · rw [read, ofTrimmed_spelled WithBlocks.readable h]
  · rintro front back rfl hfront closers r
    have hf : Encloses '"' front :=
      ⟨hfront, fun hm => hb.backslash (List.mem_append_left _ hm)⟩
    have he : textBlock (front ++ .plain '"' :: back) ++ r =
        threeQuotes ++ '\n' :: bodyText front ++ '"' :: (bodyText back ++ threeQuotes ++ r) := by
      simp [textBlock, bodyText, Sign.text]
    rw [he, pieces_block_open hf]
  · obtain ⟨v, w, hw, he, hr⟩ := textBlock?_early (u := '\n' :: bodyText body) (infix_newline.mpr hq)
    refine ⟨v, w, hw, ?_, fun r => ?_⟩
    · rw [textBlock, List.append_assoc, List.cons_append, ← List.cons_append, he]
      simp
    · rw [stringLiteral_textBlock, hr]
      rfl

theorem read_textBlocks_query :
    let early : List Sign := [.plain 'a', .escaped '"', .plain '"', .plain '"', .plain 'b']
    SpelledWhole WithBlocks
        ⟨"Query", [.string "\n\"a\", (b"], [("note", .literal "\"\"\"\n,\"a\"b\"\"\"+ x")]⟩
        "@Query(\"\"\"\n\"a\", (b\"\"\", note=\"\"\"\n,\"a\"b\"\"\"+/* c */x)".toList ∧
      read "@Query(\"\"\"\n\"a\", (b\"\"\", note=\"\"\"\n,\"a\"b\"\"\"+/* c */x)".toList =
        .ok ⟨"Query", [.string "\n\"a\", (b"],
          [("note", .literal "\"\"\"\n,\"a\"b\"\"\"+ x")]⟩ ∧
      IsBlockBody early ∧
      (∀ closers r, pieces closers (textBlock early ++ r) =
        (pieces closers ("\"b\"\"\"".toList ++ r)).map (fun p =>
          (addFront "\"\"\"\na\\\"\"".toList p.1, p.2))) ∧
      ∃ v w, w ≠ [] ∧ textBlock early = threeQuotes ++ v ++ threeQuotes ++ w ∧
        ∀ r, stringLiteral (textBlock early ++ r) = .ok (v, w ++ r) := by
  intro early
  have hQuery : IsDotted ["Query".toList] :=
    ⟨by simp, by simpa using isSegment_of_all (by decide) (by decide +kernel)⟩
  have hnote : IsSegment "note".toList := isSegment_of_all (by decide) (by decide +kernel)
  have hblank : Blank [] := by simp [Blank]
  have hstring : WithBlocks (.string "\n\"a\", (b") "\"\"\"\n\"a\", (b\"\"\"".toList :=
    @WithBlocks.whole ("\"a\", (b".toList.map .plain)
      ⟨by decide, by decide +kernel, by decide⟩ (by decide +kernel)
  have hpaired : Paired (",\"a\"b".toList.map .plain) :=
    @Paired.outer [.plain ','] [.plain 'a'] [.plain 'b'] ⟨by decide, by decide⟩
      (by simp [bodyText, Sign.text, marks]) (.inner ⟨by decide, by decide⟩)
  have hcomment : IsComment "/* c */".toList := @IsComment.block " c ".toList (by decide)
  have hlexemes : IsExpression [.block (",\"a\"b".toList.map .plain), .sign '+',
      .comment "/* c */".toList, .sign 'x'] := by
    constructor
    · exact .block hpaired (.sign (by decide) (.comment hcomment (.sign (by decide) .nil)))
    · exact ⟨_, _, rfl, rfl, by decide⟩
    · exact fun _ => ⟨_, _, rfl⟩
    · exact ⟨_, List.mem_cons_self⟩
    · rintro _ _ ⟨⟩
      exact .inr (by decide +kernel)
    · rintro _ _ ⟨⟩ hlayout
      exact absurd (hlayout _ List.mem_cons_self) (by decide)
  have hliteral : WithBlocks (.literal "\"\"\"\n,\"a\"b\"\"\"+ x")
      "\"\"\"\n,\"a\"b\"\"\"+/* c */x".toList := .expression hlexemes
  have hitems : SpelledArguments WithBlocks _ _ :=
    .cons .nil (.positional (.base hstring) rfl) .nil
      (.last layout_space (.named hnote hblank .nil (.base hliteral)) .nil)
  have hspelled : SpelledWhole WithBlocks _ _ := .mk hQuery .nil (.some hitems) .nil
  have hearly : IsBlockBody early := ⟨by decide, by decide +kernel, by decide⟩
  obtain ⟨hread, -, hrest⟩ := read_textBlocks ⟨"Query", _, _⟩ _ early
  obtain ⟨hgoes, hends⟩ := hrest hearly
  exact ⟨hspelled, hread hspelled, hearly,
    hgoes [.plain 'a', .escaped '"'] [.plain '"', .plain 'b'] rfl (by decide),
    hends (by decide +kernel)⟩

theorem read_textBlock_quoted :
    IsBlockBody ("a \"b, c\" d".toList.map .plain) ∧
      read "@A(\"\"\"\na \"b, c\" d\"\"\" + x)".toList =
        .ok ⟨"A", [.literal "\"\"\"\na \"b", .literal "c\" d\"\"\" + x"], []⟩ ∧
      IsBlockBody ("a\"b".toList.map .plain) ∧
        read "@A(\"\"\"\na\"b\"\"\" + \"x\")".toList =
          .error ⟨"@A(\"\"\"\na\"b\"\"\" + \"x\")".toList, .openLiteral⟩ := by
  refine ⟨⟨by decide, by decide +kernel, by decide⟩, ?_, ⟨by decide, by decide +kernel, by decide⟩,
    ?_⟩
  · exact read_of_walk (n := 70) (by decide) (by cbv)
  · exact refused_of_walk (n := 70) (by decide) (by cbv)

end Wiring.Annotation
