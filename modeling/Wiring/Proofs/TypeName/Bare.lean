import Mathlib.Data.List.TakeWhile
import Wiring.Proofs.TypeName.Notation

namespace Wiring.TypeName

open Wiring.Text
open Annotation (Blank)

variable {r s w : List Char}

theorem isMark_of_isBlank {c : Char} (h : isBlank c = true) : isMark c = false := by
  have hdot : c ≠ '.' := by rintro rfl; exact absurd h (by decide)
  have hdollar : c ≠ '$' := by rintro rfl; exact absurd h (by decide)
  simp [isMark, isWord_of_isBlank h, hdot, hdollar]

theorem notMem_delimiters {c : Char} (h : isIdentifierPart c = true) : c ∉ delimiters := by
  simpa using (Bool.and_eq_true_iff.mp h).2

theorem isBlank_of_isIdentifierPart {c : Char} (h : isIdentifierPart c = true) :
    isBlank c = false := by
  simpa using (Bool.and_eq_true_iff.mp h).1

theorem IsName.notMem (hs : IsName s) {d : Char} (hd : d ∈ delimiters) : d ∉ s :=
  fun h => notMem_delimiters (hs.parts d h) hd

theorem IsName.squeeze (hs : IsName s) : squeeze s = s := by
  rw [Text.squeeze, List.filter_eq_self]
  intro c hc
  simp [isBlank_of_isIdentifierPart (hs.parts c hc)]

theorem squeeze_blank (hw : Blank w) : squeeze w = [] := by
  rw [squeeze, List.filter_eq_nil_iff]
  intro c hc
  simp [hw c hc]

theorem squeeze_takeWhile {p : Char → Bool} (hp : ∀ c, isBlank c = true → p c = true)
    (s : List Char) : squeeze (s.takeWhile p) = (squeeze s).takeWhile p := by
  induction s with
  | nil => rfl
  | cons c s ih =>
    cases hb : isBlank c with
    | true =>
      have hc : squeeze (c :: s) = squeeze s := by simp [squeeze, hb]
      have ht : squeeze (c :: s.takeWhile p) = squeeze (s.takeWhile p) := by simp [squeeze, hb]
      rw [hc, List.takeWhile_cons_of_pos (hp c hb), ht, ih]
    | false =>
      have hc : ∀ t, squeeze (c :: t) = c :: squeeze t := by simp [squeeze, hb]
      cases hpc : p c with
      | true =>
        rw [hc, List.takeWhile_cons_of_pos hpc, hc, List.takeWhile_cons_of_pos hpc, ih]
      | false =>
        have hn : ¬ p c = true := by simp [hpc]
        rw [hc, List.takeWhile_cons_of_neg hn, List.takeWhile_cons_of_neg hn]
        rfl

def bare (s : List Char) : List Char := squeeze (dropAnnotations s)

def reduce (s : List Char) : List Char := lastSegment (dropEllipsis (dropBrackets s))

theorem simple_eq (s : List Char) : simple s = reduce ((bare s).takeWhile (· ≠ '<')) := by
  have hblank : ∀ c, isBlank c = true → decide (c ≠ '<') = true := by
    intro c hc
    apply decide_eq_true
    rintro rfl
    exact absurd hc (by decide)
  rw [simple, squeeze_takeWhile hblank]
  rfl

theorem bare_nil : bare [] = [] := by rw [bare, dropAnnotations]; rfl

theorem dropAnnotations_cons {c : Char} (hc : c ≠ '@') (r : List Char) :
    dropAnnotations (c :: r) = c :: dropAnnotations r := by
  rw [dropAnnotations, if_neg (by simp [hc])]

theorem bare_append (h : '@' ∉ s) (r : List Char) : bare (s ++ r) = squeeze s ++ bare r := by
  have hd : dropAnnotations (s ++ r) = s ++ dropAnnotations r := by
    induction s with
    | nil => rfl
    | cons c s ih =>
      rw [List.mem_cons, not_or] at h
      rw [List.cons_append, dropAnnotations_cons (Ne.symm h.1), ih h.2, List.cons_append]
  rw [bare, hd, squeeze_append]
  rfl

theorem bare_cons {c : Char} (hc : c ≠ '@') (hb : isBlank c = false) (r : List Char) :
    bare (c :: r) = c :: bare r := by
  rw [bare, dropAnnotations_cons hc, squeeze, List.filter_cons_of_pos (by simp [hb])]
  rfl

theorem at_notMem_blank (hw : Blank w) : '@' ∉ w := by
  intro h
  exact absurd (hw _ h) (by decide)

theorem bare_blank (hw : Blank w) (r : List Char) : bare (w ++ r) = bare r := by
  rw [bare_append (at_notMem_blank hw), squeeze_blank hw, List.nil_append]

theorem bare_dropWhile (r : List Char) : bare (r.dropWhile isBlank) = bare r := by
  have hw : Blank (r.takeWhile isBlank) :=
    fun c hc => List.all_eq_true.mp List.all_takeWhile c hc
  have h := bare_blank hw (r.dropWhile isBlank)
  rw [List.takeWhile_append_dropWhile] at h
  exact h.symm

theorem bare_name (hs : IsName s) (r : List Char) : bare (s ++ r) = s ++ bare r := by
  rw [bare_append (hs.notMem (by decide)), hs.squeeze]

theorem dropWhile_paren (h : ')' ∉ s) (r : List Char) :
    (s ++ ')' :: r).dropWhile (· ≠ ')') = ')' :: r := by
  apply dropWhile_append_stop
  · intro c hc
    have hne : c ≠ ')' := ne_of_mem_of_not_mem hc h
    simpa using hne
  · simp

theorem behindParen_of_notMem (h : ')' ∉ s) : behindParen s = [] := by
  have hd : s.dropWhile (· ≠ ')') = [] := by
    rw [List.dropWhile_eq_nil_iff]
    intro c hc
    have hne : c ≠ ')' := ne_of_mem_of_not_mem hc h
    simpa using hne
  rw [behindParen, hd]

theorem behindParen_append (h : ')' ∉ s) (r : List Char) :
    behindParen (s ++ ')' :: r) = r ++ [')'] := by
  rw [behindParen, dropWhile_paren h]

theorem behindParen_eq_nil_iff : behindParen s = [] ↔ ')' ∉ s := by
  constructor
  · intro h hs
    obtain ⟨u, v, rfl, hu⟩ := List.eq_append_cons_of_mem hs
    rw [behindParen_append hu] at h
    simp at h
  · exact behindParen_of_notMem

theorem afterArguments_of_ne (h : s.head? ≠ some '(') : afterArguments s = s := by
  cases s with
  | nil => rfl
  | cons c s =>
    unfold afterArguments
    split
    · next he => cases he; exact absurd rfl h
    · rfl

theorem afterArguments_eq (s r : List Char) :
    afterArguments ('(' :: s ++ ')' :: r) = behindParen s ++ r := by
  by_cases hs : ')' ∈ s
  · obtain ⟨u, v, rfl, hu⟩ := List.eq_append_cons_of_mem hs
    rw [behindParen_append hu, List.cons_append, afterArguments, List.append_assoc,
      List.cons_append, dropWhile_paren hu]
    simp
  · rw [behindParen_of_notMem hs, List.cons_append, afterArguments, dropWhile_paren hs]
    rfl

namespace TypeAnnotation

variable {a : TypeAnnotation}

theorem leftover_eq_nil_iff : a.leftover = [] ↔ a.IsFlat := by
  unfold leftover IsFlat
  cases a.arguments with
  | none => simp
  | some x => simp [behindParen_eq_nil_iff]

theorem IsFlat.isClean (h : a.IsFlat) : a.IsClean := by
  rw [← leftover_eq_nil_iff] at h
  constructor
  · simp [h]
  · simp [h]

theorem exists_leftover (h : ¬ a.IsFlat) : ∃ y, a.leftover = y ++ [')'] := by
  cases hx : a.arguments with
  | none => exact absurd (by simp [IsFlat, hx]) h
  | some x =>
    have hmem : ')' ∈ x := by simpa [IsFlat, hx] using h
    obtain ⟨u, v, rfl, hu⟩ := List.eq_append_cons_of_mem hmem
    exact ⟨v, by rw [leftover, hx, Option.elim_some, behindParen_append hu]⟩

theorem flatMap_leftover_eq_nil {as : List TypeAnnotation} (h : ∀ a ∈ as, a.IsFlat) :
    as.flatMap leftover = [] := by
  rw [List.flatMap_eq_nil_iff]
  intro a ha
  exact leftover_eq_nil_iff.mpr (h a ha)

theorem exists_flatMap_leftover {as : List TypeAnnotation} (h : ¬ ∀ a ∈ as, a.IsFlat) :
    ∃ z, squeeze (as.flatMap leftover) = z ++ [')'] := by
  induction as with
  | nil => simp at h
  | cons a as ih =>
    rw [List.flatMap_cons, squeeze_append]
    by_cases hrest : ∀ b ∈ as, b.IsFlat
    · have ha : ¬ a.IsFlat := by
        intro ha
        exact h (List.forall_mem_cons.mpr ⟨ha, hrest⟩)
      obtain ⟨y, hy⟩ := exists_leftover ha
      refine ⟨squeeze y, ?_⟩
      have hparen : squeeze [')'] = [')'] := by decide
      rw [flatMap_leftover_eq_nil hrest, hy, squeeze_append, hparen]
      simp [squeeze]
    · obtain ⟨z, hz⟩ := ih hrest
      exact ⟨squeeze a.leftover ++ z, by rw [hz, List.append_assoc]⟩

structure Before (a : TypeAnnotation) (r : List Char) : Prop where
  no_mark : a.arguments = none → a.gap ++ a.after = [] → ∀ c ∈ r.head?, isMark c = false
  no_paren : a.arguments = none → (r.dropWhile isBlank).head? ≠ some '('

theorem dropAnnotations_name (ha : a.WellFormed) (hw : Blank w)
    (hr : w = [] → ∀ c ∈ r.head?, isMark c = false) :
    dropAnnotations ('@' :: (a.name ++ (w ++ r))) =
      dropAnnotations (afterArguments (r.dropWhile isBlank)) := by
  obtain ⟨c, n, hn⟩ := List.exists_cons_of_ne_nil ha.name_ne_nil
  have hc : isMark c = true := ha.name_marks c (by simp [hn])
  have hstop : ∀ d ∈ (w ++ r).head?, isMark d = false := by
    cases w with
    | nil => exact hr rfl
    | cons d w =>
      rintro _ ⟨rfl⟩
      exact isMark_of_isBlank (hw _ List.mem_cons_self)
  rw [dropAnnotations, if_pos (by simp [hn, hc]), dropWhile_append_stop ha.name_marks hstop,
    List.dropWhile_append_of_pos hw]

theorem bare_text (ha : a.WellFormed) (hr : a.Before r) :
    bare (a.text ++ r) = bare (a.leftover ++ (a.after ++ r)) := by
  cases hx : a.arguments with
  | none =>
    have hw : Blank (a.gap ++ a.after) := by
      intro c hc
      exact (List.mem_append.mp hc).elim (ha.gap c) (ha.after c)
    have htext : a.text ++ r = '@' :: (a.name ++ ((a.gap ++ a.after) ++ r)) := by
      simp [text, hx]
    rw [htext, bare, dropAnnotations_name ha hw (hr.no_mark hx),
      afterArguments_of_ne (hr.no_paren hx)]
    show bare (r.dropWhile isBlank) = bare (a.leftover ++ (a.after ++ r))
    rw [bare_dropWhile, leftover, hx, Option.elim_none, List.nil_append, bare_blank ha.after]
  | some x =>
    have htext : a.text ++ r =
        '@' :: (a.name ++ (a.gap ++ ('(' :: x ++ ')' :: (a.after ++ r)))) := by
      simp [text, hx]
    have hparen : ∀ {p : Char → Bool}, p '(' = false →
        ∀ c ∈ ('(' :: x ++ ')' :: (a.after ++ r)).head?, p c = false := by
      rintro p hp _ ⟨rfl⟩
      exact hp
    rw [htext, bare, dropAnnotations_name ha ha.gap (fun _ => hparen (by decide)),
      dropWhile_stop (hparen (by decide)), afterArguments_eq, leftover, hx, Option.elim_some]
    rfl

theorem bare_text_append (ha : a.WellFormed) (hr : a.Before r) (hc : '@' ∉ a.leftover) :
    bare (a.text ++ r) = squeeze a.leftover ++ bare r := by
  rw [bare_text ha hr, bare_append hc, bare_blank ha.after]

theorem before_of_head {c : Char} (hc : isMark c = false) (hb : isBlank c = false) (hp : c ≠ '(')
    (r : List Char) : a.Before (c :: r) := by
  constructor
  · rintro _ _ _ ⟨rfl⟩
    exact hc
  · intro _
    rw [List.dropWhile_cons_of_neg (by simp [hb])]
    simpa using hp

theorem bare_flatMap_text {as : List TypeAnnotation} (ha : ∀ a ∈ as, a.WellFormed)
    (hc : ∀ a ∈ as, '@' ∉ a.leftover) (hr : ∀ a ∈ as.getLast?, a.Before r) :
    bare (as.flatMap text ++ r) = squeeze (as.flatMap leftover) ++ bare r := by
  induction as with
  | nil => rfl
  | cons a as ih =>
    have hnext : a.Before (as.flatMap text ++ r) := by
      cases as with
      | nil => exact hr a rfl
      | cons b bs => exact before_of_head (by decide) (by decide) (by decide) _
    have hlast : ∀ b ∈ as.getLast?, b.Before r := by
      intro b hb
      apply hr b
      rw [List.getLast?_cons, hb]
      rfl
    rw [List.flatMap_cons, List.flatMap_cons, List.append_assoc,
      bare_text_append (ha a List.mem_cons_self) hnext (hc a List.mem_cons_self),
      ih (fun b hb => ha b (List.mem_cons_of_mem _ hb)) (fun b hb => hc b (List.mem_cons_of_mem _ hb))
        hlast, squeeze_append, List.append_assoc]

end TypeAnnotation

namespace Segment

variable {s : Segment}

def leftover (s : Segment) : List Char := s.annotations.flatMap TypeAnnotation.leftover

def core (s : Segment) : List Char := Text.squeeze s.leftover ++ s.name

theorem bare_front (hs : s.WellFormed) (hc : s.IsClean) (r : List Char) :
    bare (s.front ++ r) = s.core ++ bare r := by
  obtain ⟨c, n, hn⟩ := List.exists_cons_of_ne_nil hs.name.ne_nil
  have hpart : isIdentifierPart c = true := hs.name.parts c (by simp [hn])
  have hbefore : ∀ a ∈ s.annotations.getLast?, a.Before (s.name ++ (s.gap ++ r)) := by
    intro a ha
    constructor
    · intro hnone happart
      exact absurd happart (hs.apart a ha hnone)
    · intro _ hparen
      rw [hn, List.cons_append,
        List.dropWhile_cons_of_neg (by simp [isBlank_of_isIdentifierPart hpart])] at hparen
      cases hparen
      exact absurd hpart (by decide)
  have hfront : s.front ++ r =
      s.lead ++ (s.annotations.flatMap TypeAnnotation.text ++ (s.name ++ (s.gap ++ r))) := by
    simp [front]
  rw [hfront, bare_blank hs.lead, TypeAnnotation.bare_flatMap_text hs.annotations
    (fun a ha => (hc a ha).no_at) hbefore, bare_name hs.name, bare_blank hs.gap, core,
    leftover, List.append_assoc]

theorem bare_text_dot (hs : s.WellFormed) (hc : s.IsClean) (hn : s.arguments = none)
    (r : List Char) : bare (s.text ++ '.' :: r) = s.core ++ '.' :: bare r := by
  have htext : s.text ++ '.' :: r = s.front ++ (s.after ++ '.' :: r) := by
    simp [text, hn]
  rw [htext, bare_front hs hc, bare_blank hs.after, bare_cons (by decide) (by decide)]

end Segment

theorem bare_outer {outer : List Segment} (hs : ∀ s ∈ outer, s.WellFormed)
    (hc : ∀ s ∈ outer, s.IsClean) (hn : ∀ s ∈ outer, s.arguments = none) (r : List Char) :
    bare (outer.flatMap (fun s => s.text ++ ['.']) ++ r) =
      outer.flatMap (fun s => s.core ++ ['.']) ++ bare r := by
  induction outer with
  | nil => rfl
  | cons s outer ih =>
    have htail := ih (fun x hx => hs x (List.mem_cons_of_mem _ hx))
      (fun x hx => hc x (List.mem_cons_of_mem _ hx)) (fun x hx => hn x (List.mem_cons_of_mem _ hx))
    have hhead := Segment.bare_text_dot (hs s List.mem_cons_self) (hc s List.mem_cons_self)
      (hn s List.mem_cons_self) (outer.flatMap (fun s => s.text ++ ['.']) ++ r)
    simp only [List.flatMap_cons, List.append_assoc, List.cons_append, List.nil_append]
    rw [hhead, htail]

def Dimension.signs : Dimension → List Char
  | brackets .. => ['[', ']']
  | ellipsis _ => ['.', '.', '.']

theorem bare_dimensions {ds : List Dimension} (hd : ∀ d ∈ ds, d.WellFormed)
    (hflat : ∀ d ∈ ds, ∀ a ∈ d.annotations, a.IsFlat) :
    bare (ds.flatMap Dimension.text) = ds.flatMap Dimension.signs := by
  induction ds with
  | nil => exact bare_nil
  | cons d ds ih =>
    have htail := ih (fun x hx => hd x (List.mem_cons_of_mem _ hx))
      (fun x hx => hflat x (List.mem_cons_of_mem _ hx))
    rw [List.flatMap_cons, List.flatMap_cons, ← htail]
    cases d with
    | brackets as gap after =>
      obtain ⟨has, hgap, hafter⟩ := hd _ List.mem_cons_self
      have hnil := TypeAnnotation.flatMap_leftover_eq_nil (hflat _ List.mem_cons_self)
      simp only [Dimension.annotations] at hnil
      have htext : (Dimension.brackets as gap after).text ++ ds.flatMap Dimension.text =
          as.flatMap TypeAnnotation.text ++
            ('[' :: (gap ++ (']' :: (after ++ ds.flatMap Dimension.text)))) := by
        simp [Dimension.text]
      rw [htext, TypeAnnotation.bare_flatMap_text has
        (fun a ha => (hflat _ List.mem_cons_self a ha).isClean.no_at)
        (fun a _ => TypeAnnotation.before_of_head (by decide) (by decide) (by decide) _), hnil,
        bare_cons (by decide) (by decide), bare_blank hgap, bare_cons (by decide) (by decide),
        bare_blank hafter]
      rfl
    | ellipsis after =>
      have hafter : Blank after := hd _ List.mem_cons_self
      have htext : (Dimension.ellipsis after).text ++ ds.flatMap Dimension.text =
          '.' :: '.' :: '.' :: (after ++ ds.flatMap Dimension.text) := rfl
      rw [htext, bare_cons (by decide) (by decide), bare_cons (by decide) (by decide),
        bare_cons (by decide) (by decide), bare_blank hafter]
      rfl

end Wiring.TypeName
