import Wiring.Proofs.Annotation.Names
import Wiring.Proofs.Annotation.Steps

namespace Wiring.Text

variable {t w : List Char}

theorem trim_of_blank (hw : ∀ c ∈ w, isBlank c = true) : trim w = [] := by
  have hd : w.dropWhile isBlank = [] := by
    rw [List.dropWhile_eq_nil_iff]
    exact hw
  rw [trim, hd]
  rfl

theorem trim_append (t : List Char) (hw : ∀ c ∈ w, isBlank c = true) : trim (t ++ w) = trim t := by
  rw [trim, trim, List.dropWhile_append]
  split
  · next ht =>
    rw [List.isEmpty_iff.mp ht]
    exact trim_of_blank hw
  · rw [dropTail_append, if_pos (dropTail_of_all hw)]

theorem trim_eq_self (hh : ∃ c s, t = c :: s ∧ isBlank c = false)
    (hl : ∃ s c, t = s ++ [c] ∧ isBlank c = false) : trim t = t := by
  have hd : t.dropWhile isBlank = t := by
    obtain ⟨c, s, rfl, hb⟩ := hh
    apply dropWhile_stop
    rintro _ ⟨rfl⟩
    exact hb
  obtain ⟨s, c, rfl, hb⟩ := hl
  rw [trim, hd, dropTail_append_cons hb]
  rfl

end Wiring.Text

namespace Wiring.Annotation

open Wiring.Text

variable {t r : List Char}

theorem addFront_addFront (t u : List Char) (ps : List (List Char)) :
    addFront t (addFront u ps) = addFront (t ++ u) ps := by
  cases ps with
  | nil => rfl
  | cons p ps => simp [addFront]

section Steps

variable {closers s : List Char} {c : Char}

theorem pieces_comment (h : comment? ('/' :: s) = some (.ok r)) :
    pieces closers ('/' :: s) = (pieces closers r).map (fun p => ([] :: p.1, p.2)) := by
  rw [pieces]
  split
  · next e he => rw [h] at he; cases he
  · next u hu => rw [h] at hu; cases hu; rfl
  · next hn => rw [h] at hn; cases hn

theorem pieces_literal (hc : c = '"' ∨ c = '\'') {body : List Char}
    (h : literalBody? c s = some (body, r)) :
    pieces closers (c :: s) = (pieces closers r).map (fun p => (addFront (c :: body) p.1, p.2)) := by
  have hn : comment? (c :: s) = none := comment?_of_ne (by rcases hc with rfl | rfl <;> decide) s
  rw [pieces]
  split
  · next e he => rw [hn] at he; cases he
  · next u hu => rw [hn] at hu; cases hu
  · rw [if_pos (by simpa using hc)]
    split
    · next hnone => rw [h] at hnone; cases hnone
    · next hsome => rw [h] at hsome; cases hsome; rfl

theorem pieces_sign (hn : comment? (c :: r) = none) (hc : ¬ (c = '"' ∨ c = '\'')) :
    pieces closers (c :: r) = match closer? c with
      | some q => (pieces (q :: closers) r).map (fun p => (addFront [c] p.1, p.2))
      | none =>
        if closers.head? = some c then
          (pieces closers.tail r).map (fun p => (addFront [c] p.1, p.2))
        else if closers.isEmpty && isStop c then .ok ([[]], c :: r)
        else if isCloser c then .error (.unbalanced c)
        else (pieces closers r).map (fun p => (addFront [c] p.1, p.2)) := by
  rw [pieces]
  split
  · next e he => rw [hn] at he; cases he
  · next u hu => rw [hn] at hu; cases hu
  · exact if_neg (by simpa using hc)

theorem pieces_stop (hc : isStop c = true) : pieces [] (c :: r) = .ok ([[]], c :: r) := by
  rw [pieces]
  rcases eq_of_isStop hc with rfl | rfl | rfl <;> rfl

theorem pieces_inner (hn : comment? (c :: r) = none) (hc : ¬ (c = '"' ∨ c = '\''))
    (hopen : closer? c = none) (hhead : closers.head? ≠ some c)
    (hstop : closers ≠ [] ∨ isStop c = false) (hclose : isCloser c = false) :
    pieces closers (c :: r) = (pieces closers r).map (fun p => (addFront [c] p.1, p.2)) := by
  have hend : ¬ (closers.isEmpty && isStop c) = true := by
    rcases hstop with hne | hs
    · simp [hne]
    · simp [hs]
  rw [pieces_sign hn hc, hopen]
  simp only [if_neg hhead, if_neg hend, hclose, Bool.false_eq_true, if_false]

theorem head_ne_of_isCloser (hq : ∀ q ∈ closers, isCloser q = true) (hc : isCloser c = false) :
    closers.head? ≠ some c := by
  intro hhead
  rw [hq c (List.mem_of_mem_head? hhead)] at hc
  cases hc

theorem pieces_unmarked (hq : ∀ q ∈ closers, isCloser q = true) (hc : c ∉ marks) :
    pieces closers (c :: r) = (pieces closers r).map (fun p => (addFront [c] p.1, p.2)) := by
  simp only [marks, List.mem_cons, List.not_mem_nil, or_false, not_or] at hc
  have hclose : isCloser c = false := by simp [isCloser, hc]
  apply pieces_inner
  · exact comment?_of_ne (by simp [hc]) r
  · simp [hc]
  · simp [closer?, hc]
  · exact head_ne_of_isCloser hq hclose
  · exact .inr (by simp [isStop, hc])
  · exact hclose

theorem pieces_plain (hq : ∀ q ∈ closers, isCloser q = true) (hne : t ≠ [])
    (ht : ∀ c ∈ t, c ∉ marks) (r : List Char) :
    pieces closers (t ++ r) = (pieces closers r).map (fun p => (addFront t p.1, p.2)) := by
  induction t with
  | nil => exact absurd rfl hne
  | cons c t ih =>
    have hc := pieces_unmarked (r := t ++ r) hq (ht c List.mem_cons_self)
    cases t with
    | nil => exact hc
    | cons d t =>
      have hrest : ∀ x ∈ d :: t, _ := fun x hx => ht x (List.mem_cons_of_mem _ hx)
      rw [List.cons_append, hc, ih (List.cons_ne_nil d t) hrest]
      cases pieces closers r with
      | error f => rfl
      | ok p => simp [Except.map, addFront_addFront]

end Steps

theorem pieces_append {p s : List Char} {ps : List (List Char)} (ht : ∀ c ∈ t, c ∉ marks)
    (h : pieces [] r = .ok (p :: ps, s)) : pieces [] (t ++ r) = .ok ((t ++ p) :: ps, s) := by
  cases t with
  | nil => exact h
  | cons c t =>
    rw [pieces_plain (by simp) (List.cons_ne_nil c t) ht, h]
    rfl

def BlankUpTo (t rest : List Char) : Prop :=
  ∃ p ps, pieces [] t = .ok (p :: ps, rest) ∧ ∀ q ∈ p :: ps, Blank q

theorem BlankUpTo.blank {c : Char} {rest : List Char} (hc : isBlank c = true)
    (h : BlankUpTo t rest) : BlankUpTo (c :: t) rest := by
  obtain ⟨p, ps, hp, hq⟩ := h
  have hm : c ∉ marks := by
    intro hm
    exact ne_mark_of_isBlank hc (List.mem_cons_of_mem _ (List.mem_cons_of_mem _ hm)) rfl
  refine ⟨c :: p, ps, pieces_append (t := [c]) (by simpa using hm) hp, ?_⟩
  rintro q (_ | ⟨_, hq'⟩)
  · exact List.forall_mem_cons.mpr ⟨hc, hq p List.mem_cons_self⟩
  · exact hq q (List.mem_cons_of_mem _ hq')

theorem BlankUpTo.comment {s rest : List Char} (hs : comment? ('/' :: s) = some (.ok t))
    (h : BlankUpTo t rest) : BlankUpTo ('/' :: s) rest := by
  obtain ⟨p, ps, hp, hq⟩ := h
  refine ⟨[], p :: ps, ?_, List.forall_mem_cons.mpr ⟨by simp [Blank], hq⟩⟩
  rw [pieces_comment hs, hp]
  rfl

theorem blankUpTo_layout {l : List Char} {c : Char} (hl : Layout l) (hc : isStop c = true) :
    BlankUpTo (l ++ c :: r) (c :: r) := by
  induction hl with
  | nil => exact ⟨[], [], pieces_stop hc, by simp [Blank]⟩
  | blank hb _ ih => exact ih.blank hb
  | line hb _ ih =>
    rw [List.append_assoc]
    exact ih.comment (comment?_line hb _)
  | block hb _ ih =>
    rw [List.append_assoc]
    exact ih.comment (comment?_block hb _)

theorem IsPlain.ne_nil (ht : IsPlain t) : t ≠ [] := by
  obtain ⟨c, s, rfl, _⟩ := ht.head
  exact List.cons_ne_nil c s

def Padded (ps qs : List (List Char)) : Prop :=
  ∃ as t w ws, ps = as ++ [t] ∧ qs = as ++ (t ++ w) :: ws ∧ ∀ x ∈ w :: ws, Blank x

theorem joinPieces_padded {ps qs : List (List Char)} (h : Padded ps qs) :
    joinPieces qs = joinPieces ps := by
  obtain ⟨as, t, w, ws, rfl, rfl, hw⟩ := h
  have hws : (ws.map trim).filter (fun q => !q.isEmpty) = [] := by
    rw [List.filter_eq_nil_iff]
    rintro q hq
    obtain ⟨u, hu, rfl⟩ := List.mem_map.mp hq
    simp [trim_of_blank (hw u (List.mem_cons_of_mem _ hu))]
  have ht := trim_append t (hw w List.mem_cons_self)
  rw [joinPieces, joinPieces, List.map_append, List.map_cons, ht, List.append_cons,
    List.filter_append, hws, List.append_nil, List.map_append, List.map_singleton]

theorem joinPieces_plain (ht : IsPlain t) {p : List Char} {ps : List (List Char)}
    (hp : ∀ q ∈ p :: ps, Blank q) : joinPieces ((t ++ p) :: ps) = t := by
  have hpad : Padded [t] ((t ++ p) :: ps) := ⟨[], t, p, ps, rfl, rfl, hp⟩
  rw [joinPieces_padded hpad, joinPieces, List.map_singleton, trim_eq_self ht.head ht.last]
  simp [ht.ne_nil]

theorem readExpression_plain (ht : IsPlain t) {l : List Char} {c : Char} (hl : Layout l)
    (hc : isStop c = true) :
    readExpression (t ++ (l ++ c :: r)) = .ok (classify t, c :: r) := by
  obtain ⟨p, ps, hp, hq⟩ := blankUpTo_layout (r := r) hl hc
  have hps := pieces_append (fun x hx => (ht.chars x hx).1) hp
  have hj := joinPieces_plain ht hq
  rw [readExpression_eq, hps]
  dsimp only
  rw [hj, if_neg ht.ne_nil]

theorem isPlain_of_forall (hne : t ≠ []) (h : ∀ c ∈ t, isBlank c = false ∧ c ∉ marks ∧ c ≠ '=') :
    IsPlain t := by
  constructor
  · obtain ⟨c, s, rfl⟩ := List.exists_cons_of_ne_nil hne
    exact ⟨c, s, rfl, (h c List.mem_cons_self).1⟩
  · refine ⟨t.dropLast, t.getLast hne, (List.dropLast_append_getLast hne).symm, ?_⟩
    exact (h _ (List.getLast_mem hne)).1
  · exact fun c hc => (h c hc).2

theorem chars_dots {segs : List (List Char)} (h : ∀ s ∈ segs, ∀ c ∈ s, isNamePart c = true) :
    ∀ c ∈ dots segs, isNamePart c = true ∨ c = '.' := by
  intro c hc
  cases segs with
  | nil => cases hc
  | cons s segs =>
    rw [dots_cons] at hc
    rcases List.mem_append.mp hc with hc | hc
    · exact .inl (h s List.mem_cons_self c hc)
    · obtain ⟨u, hu, hc⟩ := List.mem_flatMap.mp hc
      rcases List.mem_cons.mp hc with rfl | hc
      · exact .inr rfl
      · exact .inl (h u (List.mem_cons_of_mem _ hu) c hc)

theorem isPlain_dots {segs : List (List Char)} (hne : dots segs ≠ [])
    (h : ∀ s ∈ segs, ∀ c ∈ s, isNamePart c = true) : IsPlain (dots segs) := by
  apply isPlain_of_forall hne
  intro c hc
  rcases chars_dots h c hc with hp | rfl
  · refine ⟨isBlank_of_isNamePart hp, ?_, ne_mark_of_isNamePart hp List.mem_cons_self⟩
    intro hm
    exact ne_mark_of_isNamePart hp (List.mem_cons_of_mem _ (List.mem_cons_of_mem _ hm)) rfl
  · decide

theorem IsDotted.parts {segs : List (List Char)} (hs : IsDotted segs) :
    ∀ s ∈ segs, ∀ c ∈ s, isNamePart c = true := fun s hm => (hs.2 s hm).isNamePart

theorem IsDotted.chars {segs : List (List Char)} (hs : IsDotted segs) :
    ∀ c ∈ dots segs, isNamePart c = true ∨ c = '.' := chars_dots hs.parts

theorem IsDotted.dots_ne_nil {segs : List (List Char)} (hs : IsDotted segs) : dots segs ≠ [] := by
  obtain ⟨hne, hs⟩ := hs
  obtain ⟨s, segs, rfl⟩ := List.exists_cons_of_ne_nil hne
  obtain ⟨c, u, rfl, _⟩ := hs s List.mem_cons_self
  rw [dots_cons]
  exact List.cons_ne_nil _ _

theorem IsDotted.isPlain {segs : List (List Char)} (hs : IsDotted segs) : IsPlain (dots segs) :=
  isPlain_dots hs.dots_ne_nil hs.parts

theorem IsDotted.dropWhile_append {segs : List (List Char)} (hs : IsDotted segs) (r : List Char) :
    (dots segs ++ r).dropWhile isBlank = dots segs ++ r := by
  obtain ⟨c, u, he, hb⟩ := hs.isPlain.head
  apply dropWhile_stop
  rw [he]
  rintro _ ⟨rfl⟩
  exact hb

theorem isSegment_class : IsSegment "class".toList :=
  isSegment_of_all (by decide) (by decide +kernel)

theorem isSegment_of_keyword : ∀ k ∈ keywords, IsSegment k.toList := by
  rintro _ (_ | ⟨_, _ | ⟨_, _ | ⟨_, ⟨⟩⟩⟩⟩)
  · exact isSegment_of_all (by decide) (by decide +kernel)
  · exact isSegment_of_all (by decide) (by decide +kernel)
  · exact isSegment_of_all (by decide) (by decide +kernel)

theorem IsDotted.concat_class {segs : List (List Char)} (hs : IsDotted segs) :
    IsDotted (segs ++ ["class".toList]) := by
  refine ⟨by simp, ?_⟩
  intro s hm
  rcases List.mem_append.mp hm with hm | hm
  · exact hs.2 s hm
  · cases List.mem_singleton.mp hm
    exact isSegment_class

theorem dots_concat_class {segs : List (List Char)} (hs : segs ≠ []) :
    dots segs ++ ".class".toList = dots (segs ++ ["class".toList]) := by
  obtain ⟨s, segs, rfl⟩ := List.exists_cons_of_ne_nil hs
  rw [List.cons_append, dots_cons, dots_cons, List.flatMap_append, List.append_assoc]
  rfl

theorem dottedName?_eq {segs : List (List Char)} (hs : IsDotted segs) :
    dottedName? (dots segs) = some (segs, []) := by
  have h := dottedName?_dots hs endsName_nil
  rwa [List.append_nil] at h

theorem classify_class {segs : List (List Char)} (hs : IsDotted segs) :
    classify (dots segs ++ ".class".toList) = .reference (joinDots segs) true := by
  have hlen : 2 ≤ (segs ++ ["class".toList]).length := by
    have := List.length_pos_iff.mpr hs.1
    rw [List.length_append, List.length_singleton]
    omega
  rw [dots_concat_class hs.1, classify, dottedName?_eq hs.concat_class]
  dsimp only
  rw [if_pos (by simp only [hlen, List.getLast?_concat]; rfl), List.dropLast_concat]

theorem classify_reference {segs : List (List Char)} (hs : IsDotted segs)
    (hk : joinDots segs ∉ keywords) (hc : 2 ≤ segs.length → segs.getLast? ≠ some "class".toList) :
    classify (dots segs) = .reference (joinDots segs) false := by
  have hn : String.ofList (dots segs) ∉ keywords := hk
  rw [classify, dottedName?_eq hs]
  dsimp only
  rw [if_neg (by simpa using hc), if_neg (by simpa using hn)]

theorem classify_keyword (hk : String.ofList t ∈ keywords) :
    classify t = .literal (String.ofList t) := by
  have hs := isSegment_of_keyword _ hk
  rw [String.toList_ofList] at hs
  have hd : dottedName? (dots [t]) = some ([t], []) :=
    dottedName?_eq ⟨by simp, by simpa using hs⟩
  rw [dots_cons, List.flatMap_nil, List.append_nil] at hd
  rw [classify, hd]
  dsimp only
  rw [if_neg (by simp), if_pos (by simpa using hk)]

theorem classify_literal (ht : IsLiteral t) : classify t = .literal (String.ofList t) := by
  rcases ht.no_name with hk | hn
  · exact classify_keyword hk
  · rw [classify]
    split
    · next segs hd => exact absurd (spacedName_of_dottedName? hd) hn
    · rfl

end Wiring.Annotation
