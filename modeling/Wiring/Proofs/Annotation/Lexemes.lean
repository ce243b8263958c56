import Wiring.Proofs.Annotation.Spelling

/-!
Expressions as lists of lexemes: characters, literals, text blocks and comments. The reader keeps
such an expression as it is written, with a space for each run of comments.
-/

namespace Wiring.Annotation

open Wiring.Text

variable {t r closers : List Char}

inductive Sign where
  | plain (c : Char)
  | escaped (c : Char)
  deriving DecidableEq

def Sign.text : Sign → List Char
  | plain c => [c]
  | escaped c => ['\\', c]

def Sign.value : Sign → Char
  | plain c => c
  | escaped c => unescape c

def bodyText (body : List Sign) : List Char := body.flatMap Sign.text

def threeQuotes : List Char := ['"', '"', '"']

def textBlock (body : List Sign) : List Char := threeQuotes ++ '\n' :: bodyText body ++ threeQuotes

structure Encloses (mark : Char) (body : List Sign) : Prop where
  mark : .plain mark ∉ body
  backslash : .plain '\\' ∉ body

variable {mark : Char} {body : List Sign}

theorem bodyText_cons (s : Sign) (body : List Sign) :
    bodyText (s :: body) = s.text ++ bodyText body := List.flatMap_cons

theorem encloses_nil (mark : Char) : Encloses mark [] := ⟨by simp, by simp⟩

theorem Encloses.newline (h : Encloses '"' body) : Encloses '"' (.plain '\n' :: body) :=
  ⟨fun hm => h.mark (by simpa using hm), fun hm => h.backslash (by simpa using hm)⟩

theorem Encloses.tail {s : Sign} (h : Encloses mark (s :: body)) : Encloses mark body :=
  ⟨fun hm => h.mark (List.mem_cons_of_mem _ hm), fun hm => h.backslash (List.mem_cons_of_mem _ hm)⟩

theorem Encloses.ne {c : Char} (h : Encloses mark (.plain c :: body)) : c ≠ mark ∧ c ≠ '\\' :=
  ⟨by rintro rfl; exact h.mark List.mem_cons_self,
    by rintro rfl; exact h.backslash List.mem_cons_self⟩

theorem literalBody?_bodyText (h : Encloses mark body) (hm : mark ≠ '\\') (r : List Char) :
    literalBody? mark (bodyText body ++ mark :: r) = some (bodyText body ++ [mark], r) := by
  induction body with
  | nil =>
    rw [bodyText, List.flatMap_nil, List.nil_append, literalBody?, if_pos rfl]
    · rfl
    · exact fun _ _ hc _ => hm hc
  | cons s body ih =>
    rw [bodyText_cons, List.append_assoc]
    cases s with
    | plain c =>
      obtain ⟨hc, hb⟩ := h.ne
      rw [Sign.text, List.singleton_append, literalBody?, if_neg hc, ih h.tail]
      · rfl
      · exact fun _ _ hc _ => hb hc
    | escaped c =>
      simp only [Sign.text, List.cons_append, List.nil_append, literalBody?, ih h.tail,
        Option.map_some]

theorem stringBody?_bodyText (h : Encloses '"' body) (r : List Char) :
    stringBody? (bodyText body ++ '"' :: r) = some (body.map Sign.value, r) := by
  induction body with
  | nil => rfl
  | cons s body ih =>
    rw [bodyText_cons, List.append_assoc]
    cases s with
    | plain c =>
      obtain ⟨hc, hb⟩ := h.ne
      rw [Sign.text, List.singleton_append, stringBody?, ih h.tail]
      · rfl
      · exact hc
      · exact fun _ _ hc _ => hb hc
    | escaped c =>
      simp only [Sign.text, List.cons_append, List.nil_append, stringBody?, ih h.tail,
        Option.map_some, List.map_cons, Sign.value]

theorem not_threeQuotes_of_ne {c : Char} (hc : c ≠ '"') : ¬ threeQuotes <+: c :: t := by
  rintro ⟨v, hv⟩
  exact hc (List.cons.inj hv).1.symm

theorem not_threeQuotes_of_encloses (hb : Encloses '"' body) (hne : body ≠ []) (c : Char)
    (r : List Char) : ¬ threeQuotes <+: c :: (bodyText body ++ r) := by
  obtain ⟨s, body, rfl⟩ := List.exists_cons_of_ne_nil hne
  rw [bodyText_cons, List.append_assoc]
  rintro ⟨v, hv⟩
  injection hv with _ hv
  cases s with
  | plain d => exact hb.ne.1 (List.cons.inj hv).1.symm
  | escaped d => exact absurd (List.cons.inj hv).1 (by decide)

theorem stringLiteral_quote (hq : ¬ threeQuotes <+: '"' :: t) :
    stringLiteral ('"' :: t) = (stringBody? t).elim (.error .openString) .ok := by
  rw [stringLiteral]
  · rfl
  · intro u hu
    exact hq ⟨u, hu.symm⟩

/-- Plain quotes stand in pairs, and between the two of a pair nothing is a mark. -/
inductive Paired : List Sign → Prop where
  | inner {body : List Sign} (hb : Encloses '"' body) : Paired body
  | outer {front gap body : List Sign} (hf : Encloses '"' front)
      (hg : ∀ c ∈ bodyText gap, c ∉ marks) (hb : Paired body) :
      Paired (front ++ .plain '"' :: gap ++ .plain '"' :: body)

inductive Lexeme where
  | sign (c : Char)
  | literal (mark : Char) (body : List Sign)
  | block (body : List Sign)
  | comment (t : List Char)
  deriving DecidableEq

namespace Lexeme

def text : Lexeme → List Char
  | sign c => [c]
  | literal mark body => mark :: bodyText body ++ [mark]
  | block body => textBlock body
  | comment t => t

def onto : Lexeme → List (List Char) → List (List Char)
  | comment _, ps => [] :: ps
  | l, ps => addFront l.text ps

def isLayout : Lexeme → Bool
  | sign c => isBlank c
  | comment _ => true
  | _ => false

end Lexeme

def spell (ls : List Lexeme) : List Char := ls.flatMap Lexeme.text

def kept (ls : List Lexeme) : List Char := joinPieces (ls.foldr Lexeme.onto [[]])

inductive IsComment : List Char → Prop where
  | line {body : List Char} (hb : '\n' ∉ body) : IsComment ('/' :: '/' :: body ++ ['\n'])
  | block {body : List Char} (hb : ¬ ['*', '/'] <:+: body) :
      IsComment ('/' :: '*' :: body ++ ['*', '/'])

/-- Lexemes up to the last of the closers, innermost first. Commas stand in brackets only. -/
inductive Lexed : List Char → List Lexeme → Prop where
  | nil : Lexed [] []
  | opening {c q : Char} {closers : List Char} {ls : List Lexeme} (hc : closer? c = some q)
      (h : Lexed (q :: closers) ls) : Lexed closers (.sign c :: ls)
  | closing {q : Char} {closers : List Char} {ls : List Lexeme} (hq : isCloser q = true)
      (h : Lexed closers ls) : Lexed (q :: closers) (.sign q :: ls)
  | comma {q : Char} {closers : List Char} {ls : List Lexeme} (h : Lexed (q :: closers) ls) :
      Lexed (q :: closers) (.sign ',' :: ls)
  | slash {closers : List Char} {ls : List Lexeme}
      (hs : (spell ls).head? ∉ [none, some '/', some '*']) (h : Lexed closers ls) :
      Lexed closers (.sign '/' :: ls)
  | sign {c : Char} {closers : List Char} {ls : List Lexeme} (hc : c ∉ marks)
      (h : Lexed closers ls) : Lexed closers (.sign c :: ls)
  | literal {mark : Char} {body : List Sign} {closers : List Char} {ls : List Lexeme}
      (hm : mark = '"' ∨ mark = '\'') (hb : Encloses mark body) (h : Lexed closers ls) :
      Lexed closers (.literal mark body :: ls)
  | block {body : List Sign} {closers : List Char} {ls : List Lexeme} (hb : Paired body)
      (h : Lexed closers ls) : Lexed closers (.block body :: ls)
  | comment {t closers : List Char} {ls : List Lexeme} (ht : IsComment t) (h : Lexed closers ls) :
      Lexed closers (.comment t :: ls)

variable {l : Lexeme} {ls : List Lexeme}

theorem spell_cons (l : Lexeme) (ls : List Lexeme) : spell (l :: ls) = l.text ++ spell ls :=
  List.flatMap_cons

theorem isCloser_of_lexed (h : Lexed closers ls) : ∀ q ∈ closers, isCloser q = true := by
  induction h with
  | nil => simp
  | opening _ _ ih => exact fun q hq => ih q (List.mem_cons_of_mem _ hq)
  | closing hq _ ih => exact List.forall_mem_cons.mpr ⟨hq, ih⟩
  | comma _ ih => exact ih
  | slash _ _ ih => exact ih
  | sign _ _ ih => exact ih
  | literal _ _ _ ih => exact ih
  | block _ _ ih => exact ih
  | comment _ _ ih => exact ih

theorem IsComment.exists_slash (ht : IsComment t) (r : List Char) :
    ∃ u, t ++ r = '/' :: u ∧ comment? ('/' :: u) = some (.ok r) := by
  cases ht with
  | @line body hb => exact ⟨_, by simp, comment?_line hb r⟩
  | @block body hb => exact ⟨_, by simp, comment?_block hb r⟩

theorem comment?_slash (hs : (spell ls).head? ∉ [none, some '/', some '*']) (r : List Char) :
    comment? ('/' :: (spell ls ++ r)) = none := by
  cases hls : spell ls with
  | nil => simp [hls] at hs
  | cons d u =>
    simp only [hls, List.head?_cons, List.mem_cons, Option.some.injEq, reduceCtorEq,
      List.not_mem_nil, or_false, false_or, not_or] at hs
    rw [List.cons_append, comment?]
    · rintro s he
      cases he
      exact hs.1 rfl
    · rintro s he
      cases he
      exact hs.2 rfl

theorem literalBody?_quote (r : List Char) : literalBody? '"' ('"' :: r) = some (['"'], r) :=
  literalBody?_bodyText (encloses_nil '"') (by decide) r

theorem pieces_block_open {front : List Sign} (hf : Encloses '"' front) (r : List Char) :
    pieces closers (threeQuotes ++ '\n' :: bodyText front ++ '"' :: r) =
      (pieces closers r).map
        (fun p => (addFront (threeQuotes ++ '\n' :: bodyText front ++ ['"']) p.1, p.2)) := by
  have he : threeQuotes ++ '\n' :: bodyText front ++ '"' :: r =
      '"' :: '"' :: '"' :: (bodyText (.plain '\n' :: front) ++ '"' :: r) := by
    simp [threeQuotes, bodyText_cons, Sign.text]
  rw [he, pieces_literal (.inl rfl) (literalBody?_quote _),
    pieces_literal (.inl rfl) (literalBody?_bodyText hf.newline (by decide) r)]
  cases pieces closers r with
  | error e => rfl
  | ok p => simp [Except.map, addFront_addFront, threeQuotes, bodyText_cons, Sign.text]

theorem Paired.newline (h : Paired body) : Paired (.plain '\n' :: body) := by
  cases h with
  | inner hb => exact .inner hb.newline
  | outer hf hg hb => exact .outer hf.newline hg hb

theorem pieces_paired (h : Paired body) (hq : ∀ q ∈ closers, isCloser q = true) (r : List Char) :
    pieces closers ('"' :: (bodyText body ++ '"' :: r)) =
      (pieces closers r).map (fun p => (addFront ('"' :: bodyText body ++ ['"']) p.1, p.2)) := by
  induction h with
  | inner hb => exact pieces_literal (.inl rfl) (literalBody?_bodyText hb (by decide) r)
  | @outer front gap body hf hg _ ih =>
    have he : bodyText (front ++ .plain '"' :: gap ++ .plain '"' :: body) ++ '"' :: r =
        bodyText front ++ '"' :: (bodyText gap ++ '"' :: (bodyText body ++ '"' :: r)) := by
      simp [bodyText, Sign.text]
    rw [he, pieces_literal (.inl rfl) (literalBody?_bodyText hf (by decide) _)]
    have hgap : pieces closers (bodyText gap ++ '"' :: (bodyText body ++ '"' :: r)) =
        (pieces closers r).map
          (fun p => (addFront (bodyText gap ++ '"' :: bodyText body ++ ['"']) p.1, p.2)) := by
      by_cases hne : bodyText gap = []
      · rw [hne, List.nil_append, ih]
        rfl
      · rw [pieces_plain hq hne hg, ih]
        cases pieces closers r with
        | error e => rfl
        | ok p => simp [Except.map, addFront_addFront]
    rw [hgap]
    cases pieces closers r with
    | error e => rfl
    | ok p => simp [Except.map, addFront_addFront, bodyText, Sign.text]

theorem pieces_block (hb : Paired body) (hq : ∀ q ∈ closers, isCloser q = true) (r : List Char) :
    pieces closers (textBlock body ++ r) =
      (pieces closers r).map (fun p => (addFront (textBlock body) p.1, p.2)) := by
  have he : textBlock body ++ r = '"' :: '"' ::
      ('"' :: (bodyText (.plain '\n' :: body) ++ '"' :: ('"' :: '"' :: r))) := by
    simp [textBlock, threeQuotes, bodyText_cons, Sign.text]
  rw [he, pieces_literal (.inl rfl) (literalBody?_quote _), pieces_paired hb.newline hq,
    pieces_literal (.inl rfl) (literalBody?_quote _)]
  cases pieces closers r with
  | error e => rfl
  | ok p => simp [Except.map, addFront_addFront, threeQuotes, textBlock, bodyText_cons, Sign.text]

theorem eq_of_closer? {c q : Char} (hc : closer? c = some q) : c = '(' ∨ c = '[' ∨ c = '{' := by
  unfold closer? at hc
  split at hc
  · exact .inl rfl
  · exact .inr (.inl rfl)
  · exact .inr (.inr rfl)
  · cases hc

theorem pieces_opening {c q : Char} (hc : closer? c = some q) (r : List Char) :
    pieces closers (c :: r) =
      (pieces (q :: closers) r).map (fun p => (addFront [c] p.1, p.2)) := by
  have hne : c ≠ '/' ∧ ¬ (c = '"' ∨ c = '\'') := by
    rcases eq_of_closer? hc with rfl | rfl | rfl <;> decide
  rw [pieces_sign (comment?_of_ne hne.1 r) hne.2, hc]

theorem pieces_closing {q : Char} (hq : isCloser q = true) (r : List Char) :
    pieces (q :: closers) (q :: r) =
      (pieces closers r).map (fun p => (addFront [q] p.1, p.2)) := by
  have hclose : q = ')' ∨ q = ']' ∨ q = '}' := by simpa [isCloser, or_assoc] using hq
  have hne : q ≠ '/' ∧ ¬ (q = '"' ∨ q = '\'') ∧ closer? q = none := by
    rcases hclose with rfl | rfl | rfl <;> decide
  rw [pieces_sign (comment?_of_ne hne.1 r) hne.2.1, hne.2.2]
  simp

theorem pieces_onto {before : List Char}
    (hl : pieces before (l.text ++ (spell ls ++ r)) =
      (pieces closers (spell ls ++ r)).map (fun p => (l.onto p.1, p.2)))
    (hls : pieces closers (spell ls ++ r) =
      (pieces [] r).map (fun p => (ls.foldr Lexeme.onto p.1, p.2))) :
    pieces before (spell (l :: ls) ++ r) =
      (pieces [] r).map (fun p => ((l :: ls).foldr Lexeme.onto p.1, p.2)) := by
  rw [spell_cons, List.append_assoc, hl, hls]
  cases pieces [] r with
  | error e => rfl
  | ok p => rfl

theorem pieces_spell (h : Lexed closers ls) (r : List Char) :
    pieces closers (spell ls ++ r) =
      (pieces [] r).map (fun p => (ls.foldr Lexeme.onto p.1, p.2)) := by
  -- each lexeme adds its text to the first piece of the rest, a comment begins a new one
  induction h with
  | nil =>
    rw [spell, List.flatMap_nil, List.nil_append]
    cases pieces [] r with
    | error e => rfl
    | ok p => rfl
  | opening hc _ ih => exact pieces_onto (pieces_opening hc _) ih
  | closing hq _ ih => exact pieces_onto (pieces_closing hq _) ih
  | comma h ih =>
    refine pieces_onto (pieces_inner (comment?_of_ne (by decide) _) (by decide) rfl ?_ ?_ rfl) ih
    · exact head_ne_of_isCloser (isCloser_of_lexed h) rfl
    · exact .inl (List.cons_ne_nil _ _)
  | slash hs h ih =>
    have hhead := head_ne_of_isCloser (c := '/') (isCloser_of_lexed h) rfl
    have hn := comment?_slash hs r
    exact pieces_onto (pieces_inner hn (by decide) rfl hhead (.inr rfl) rfl) ih
  | sign hc h ih => exact pieces_onto (pieces_unmarked (isCloser_of_lexed h) hc) ih
  | @literal mark body closers ls hm hb h ih =>
    have hne : mark ≠ '\\' := by rcases hm with rfl | rfl <;> decide
    refine pieces_onto ?_ ih
    have he : (Lexeme.literal mark body).text ++ (spell ls ++ r) =
        mark :: (bodyText body ++ mark :: (spell ls ++ r)) := by simp [Lexeme.text]
    rw [he, pieces_literal hm (literalBody?_bodyText hb hne _)]
    rfl
  | block hb h ih => exact pieces_onto (pieces_block hb (isCloser_of_lexed h) _) ih
  | @comment t closers ls ht h ih =>
    obtain ⟨u, hu, hc⟩ := ht.exists_slash (spell ls ++ r)
    refine pieces_onto ?_ ih
    rw [Lexeme.text, hu, pieces_comment hc]
    rfl

theorem Padded.onto {ps qs : List (List Char)} (h : Padded ps qs) (l : Lexeme) :
    Padded (l.onto ps) (l.onto qs) := by
  obtain ⟨as, t, w, ws, rfl, rfl, hw⟩ := h
  have hfront (u : List Char) :
      Padded (addFront u (as ++ [t])) (addFront u (as ++ (t ++ w) :: ws)) := by
    cases as with
    | nil => exact ⟨[], u ++ t, w, ws, rfl, by simp [addFront], hw⟩
    | cons a as => exact ⟨(u ++ a) :: as, t, w, ws, rfl, rfl, hw⟩
  cases l with
  | comment u => exact ⟨[] :: as, t, w, ws, rfl, rfl, hw⟩
  | sign c => exact hfront _
  | literal mark body => exact hfront _
  | block body => exact hfront _

theorem joinPieces_foldr {p : List Char} {ps : List (List Char)} (hp : ∀ q ∈ p :: ps, Blank q)
    (ls : List Lexeme) : joinPieces (ls.foldr Lexeme.onto (p :: ps)) = kept ls := by
  apply joinPieces_padded
  induction ls with
  | nil => exact ⟨[], [], p, ps, rfl, rfl, hp⟩
  | cons l ls ih => exact ih.onto l

theorem infix_trim (hh : ∃ c s, t = c :: s ∧ isBlank c = false)
    (hl : ∃ s c, t = s ++ [c] ∧ isBlank c = false) (u w : List Char) :
    t <:+: trim (u ++ t ++ w) := by
  obtain ⟨v, hv⟩ : ∃ v, (u ++ t ++ w).dropWhile isBlank = v ++ t ++ w := by
    rw [List.append_assoc, List.dropWhile_append]
    split
    · obtain ⟨c, s, rfl, hb⟩ := hh
      exact ⟨[], dropWhile_stop (by rintro _ ⟨rfl⟩; exact hb)⟩
    · exact ⟨u.dropWhile isBlank, by rw [List.append_assoc]⟩
  obtain ⟨s, c, rfl, hb⟩ := hl
  have hw : v ++ (s ++ [c]) ++ w = (v ++ s) ++ c :: w := by simp
  rw [trim, hv, hw, dropTail_append_cons hb]
  exact ⟨v, dropTail isBlank w, by simp⟩

theorem infix_intercalate {x sep : List Char} {xs : List (List Char)} (hx : x ∈ xs) :
    x <:+: sep.intercalate xs := by
  induction xs with
  | nil => cases hx
  | cons y ys ih =>
    cases ys with
    | nil =>
      cases List.mem_singleton.mp hx
      exact ⟨[], [], by simp⟩
    | cons z ys =>
      rw [List.intercalate_cons_cons]
      rcases List.mem_cons.mp hx with rfl | hx
      · exact ⟨[], sep ++ sep.intercalate (z :: ys), by simp⟩
      · exact (ih hx).trans (List.suffix_append (y ++ sep) _).isInfix

theorem infix_joinPieces (hh : ∃ c s, t = c :: s ∧ isBlank c = false)
    (hl : ∃ s c, t = s ++ [c] ∧ isBlank c = false) {ps : List (List Char)}
    (h : ∃ p ∈ ps, t <:+: p) : t <:+: joinPieces ps := by
  obtain ⟨p, hp, u, w, rfl⟩ := h
  have ht := infix_trim hh hl u w
  have hne : trim (u ++ t ++ w) ≠ [] := by
    intro he
    obtain ⟨c, s, rfl, _⟩ := hh
    rw [he] at ht
    exact List.cons_ne_nil _ _ (List.infix_nil.mp ht)
  refine ht.trans (infix_intercalate ?_)
  rw [List.mem_filter]
  exact ⟨List.mem_map_of_mem hp, by simpa using hne⟩

theorem Lexeme.infix_onto {ps : List (List Char)} (h : ∃ p ∈ ps, t <:+: p) (l : Lexeme) :
    ∃ p ∈ l.onto ps, t <:+: p := by
  obtain ⟨p, hp, ht⟩ := h
  have hfront (u : List Char) : ∃ q ∈ addFront u ps, t <:+: q := by
    obtain ⟨a, as, rfl⟩ := List.exists_cons_of_ne_nil (List.ne_nil_of_mem hp)
    rcases List.mem_cons.mp hp with rfl | hp
    · exact ⟨u ++ p, List.mem_cons_self, ht.trans (List.suffix_append u p).isInfix⟩
    · exact ⟨p, List.mem_cons_of_mem _ hp, ht⟩
  cases l with
  | comment u => exact ⟨p, List.mem_cons_of_mem _ hp, ht⟩
  | sign c => exact hfront _
  | literal mark body => exact hfront _
  | block body => exact hfront _

theorem textBlock_ends (body : List Sign) :
    (∃ c s, textBlock body = c :: s ∧ isBlank c = false) ∧
      ∃ s c, textBlock body = s ++ [c] ∧ isBlank c = false := by
  constructor
  · exact ⟨'"', _, rfl, by decide⟩
  · exact ⟨threeQuotes ++ '\n' :: bodyText body ++ ['"', '"'], '"',
      by simp [textBlock, threeQuotes], by decide⟩

theorem textBlock_infix_kept (h : .block body ∈ ls) : textBlock body <:+: kept ls := by
  obtain ⟨hh, hl⟩ := textBlock_ends body
  apply infix_joinPieces hh hl
  induction ls with
  | nil => cases h
  | cons l ls ih =>
    rcases List.mem_cons.mp h with rfl | h
    · obtain ⟨p, ps, hp⟩ : ∃ p ps, addFront (textBlock body) (ls.foldr Lexeme.onto [[]]) =
          (textBlock body ++ p) :: ps := by
        cases ls.foldr Lexeme.onto [[]] with
        | nil => exact ⟨[], [], by simp [addFront]⟩
        | cons p ps => exact ⟨p, ps, rfl⟩
      refine ⟨textBlock body ++ p, ?_, (List.prefix_append _ p).isInfix⟩
      rw [List.foldr_cons, Lexeme.onto, Lexeme.text, hp]
      · exact List.mem_cons_self
      · exact fun _ he => by cases he
    · exact l.infix_onto (ih h)

theorem SpacedName.notMem_quote {n : List Char} (hn : SpacedName n) : '"' ∉ n := by
  have hpart {s : List Char} (hs : IsSegment s) : '"' ∉ s := fun hm =>
    ne_mark_of_isNamePart (hs.isNamePart _ hm) (by decide) rfl
  have hblank {w : List Char} (hw : Blank w) : '"' ∉ w := fun hm =>
    ne_mark_of_isBlank (hw _ hm) (by decide) rfl
  induction hn with
  | segment hs => exact hpart hs
  | dot hs hv hw _ ih => simp [hpart hs, hblank hv, hblank hw, ih]

theorem classify_quote {e : List Char} (he : '"' ∈ e) : classify e = .literal (String.ofList e) := by
  rw [classify]
  split
  · next segs hd => exact absurd he (spacedName_of_dottedName? hd).notMem_quote
  · rfl

theorem readExpression_spell (h : Lexed [] ls) (hb : .block body ∈ ls) {m : List Char} {c : Char}
    (hm : Layout m) (hc : isStop c = true) (r : List Char) :
    readExpression (spell ls ++ (m ++ c :: r)) =
      .ok (.literal (String.ofList (kept ls)), c :: r) := by
  obtain ⟨p, ps, hp, hq⟩ := blankUpTo_layout (r := r) hm hc
  have hkept := textBlock_infix_kept hb
  have hquote : '"' ∈ kept ls := hkept.subset List.mem_cons_self
  rw [readExpression_eq, pieces_spell h, hp]
  dsimp only [Except.map]
  rw [joinPieces_foldr hq, if_neg (List.ne_nil_of_mem hquote), classify_quote hquote]

end Wiring.Annotation
