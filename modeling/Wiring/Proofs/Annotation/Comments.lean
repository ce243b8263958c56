import Mathlib
import Wiring.Proofs.Annotation.Outcomes

namespace Wiring.Annotation

open Wiring.Text

variable {g k n r s u v w : List Char}

inductive Gap : List Char → Prop where
  | mk {v body w : List Char} (hv : Blank v) (hb : ¬ ['*', '/'] <:+: body) (hw : Blank w) :
      Gap (v ++ ('/' :: '*' :: body ++ '*' :: '/' :: w))

theorem Layout.append_blank {l : List Char} (hw : Blank w) (hl : Layout l) : Layout (w ++ l) := by
  induction w with
  | nil => exact hl
  | cons c w ih =>
    exact .blank (hw c List.mem_cons_self) (ih (fun x hx => hw x (List.mem_cons_of_mem _ hx)))

theorem Blank.layout (hw : Blank w) : Layout w := by
  have h := Layout.append_blank hw .nil
  rwa [List.append_nil] at h

theorem Gap.layout (hg : Gap g) : Layout g := by
  obtain ⟨hv, hb, hw⟩ := hg
  exact .append_blank hv (.block hb hw.layout)

theorem Layout.head_notPart {l : List Char} {c : Char} (hl : Layout l) (hc : isNamePart c = false)
    (r : List Char) : ∀ x ∈ (l ++ c :: r).head?, isNamePart x = false := by
  cases hl with
  | nil => rintro _ ⟨rfl⟩; exact hc
  | blank hb _ => rintro _ ⟨rfl⟩; exact isNamePart_of_isBlank hb
  | line _ _ => rintro _ ⟨rfl⟩; decide
  | block _ _ => rintro _ ⟨rfl⟩; decide

theorem dropWhile_blank_stop {c : Char} (hw : Blank w) (hc : isBlank c = false) :
    (w ++ c :: r).dropWhile isBlank = c :: r := by
  apply dropWhile_append_stop hw
  rintro _ ⟨rfl⟩
  exact hc

theorem Gap.start (hg : Gap g) (r : List Char) :
    ∃ v t, Blank v ∧ g ++ r = v ++ '/' :: t := by
  obtain ⟨hv, hb, hw⟩ := hg
  exact ⟨_, _, hv, by rw [List.append_assoc]; rfl⟩

theorem dotSegments_of_none (h : dotSegment? r = none) : dotSegments r = ([], r) := by
  rw [dotSegments]
  split
  · rfl
  · next he => rw [h] at he; cases he

theorem dotSegment?_of_blank {c : Char} (hw : Blank w) (hc : isBlank c = false) (hd : c ≠ '.') :
    dotSegment? (w ++ c :: r) = none := by
  rw [dotSegment?, dropWhile_blank_stop hw hc]
  split
  · next he => cases he; exact absurd rfl hd
  · rfl

theorem dotSegment?_dot (hv : Blank v) (hw : Blank w) (hr : ∀ c ∈ r.head?, isBlank c = false) :
    dotSegment? (v ++ '.' :: (w ++ r)) = segment? r := by
  rw [dotSegment?, dropWhile_blank_stop hv (by decide)]
  show segment? ((w ++ r).dropWhile isBlank) = segment? r
  rw [dropWhile_append_stop hw hr]

theorem SpacedName.exists_segments (hn : SpacedName n) :
    ∃ s m, n = s ++ m ∧ IsSegment s ∧ (∀ c ∈ m.head?, isNamePart c = false) ∧
      ∀ r, (∀ c ∈ r.head?, isNamePart c = false) → dotSegment? r = none →
        ∃ segs, dotSegments (m ++ r) = (segs, r) := by
  induction hn with
  | @segment s hs =>
    refine ⟨s, [], (List.append_nil s).symm, hs, by simp, ?_⟩
    intro r _ hd
    exact ⟨[], dotSegments_of_none hd⟩
  | @dot s v w t hs hv hw _ ih =>
    obtain ⟨seg, m, rfl, hseg, hm, hrest⟩ := ih
    refine ⟨s, v ++ '.' :: (w ++ (seg ++ m)), by simp, hs, ?_, ?_⟩
    · exact hv.layout.head_notPart (by decide) _
    · intro r hr hd
      have hpart : ∀ c ∈ (m ++ r).head?, isNamePart c = false := by
        cases m with
        | nil => exact hr
        | cons c m => exact hm
      have hnext : dotSegment? (v ++ '.' :: (w ++ (seg ++ m)) ++ r) = some (seg, m ++ r) := by
        have h := dotSegment?_dot hv hw (hseg.head_notBlank (m ++ r))
        rw [segment?_append hseg hpart] at h
        simpa using h
      obtain ⟨segs, hsegs⟩ := hrest r hr hd
      rw [dotSegments]
      split
      · next he => rw [hnext] at he; cases he
      · next he =>
        rw [hnext] at he
        cases he
        exact ⟨seg :: segs, by rw [hsegs]⟩

theorem SpacedName.dottedName?_append (hn : SpacedName n)
    (hr : ∀ c ∈ r.head?, isNamePart c = false) (hd : dotSegment? r = none) :
    ∃ segs, dottedName? (n ++ r) = some (segs, r) := by
  obtain ⟨s, m, rfl, hs, hm, hrest⟩ := hn.exists_segments
  obtain ⟨segs, hsegs⟩ := hrest r hr hd
  have hpart : ∀ c ∈ (m ++ r).head?, isNamePart c = false := by
    cases m with
    | nil => exact hr
    | cons c m => exact hm
  refine ⟨s :: segs, ?_⟩
  rw [List.append_assoc, dottedName?, segment?_append hs hpart]
  simp only [hsegs]

theorem SpacedName.head_notBlank (hn : SpacedName n) (r : List Char) :
    ∀ c ∈ (n ++ r).head?, isBlank c = false := by
  obtain ⟨s, m, rfl, hs, _⟩ := hn.exists_segments
  rw [List.append_assoc]
  exact hs.head_notBlank (m ++ r)

def Refused (s : List Char) (f : Fault) : Prop := read s = .error ⟨trim s, f⟩

theorem trim_at (hu : Blank u) (r : List Char) :
    trim (u ++ '@' :: r) = '@' :: dropTail isBlank r := by
  rw [trim, dropWhile_blank_stop hu (by decide)]
  exact dropTail_append_cons (by decide) [] r

theorem read_noName {c : Char} (hu : Blank u) (hw : Blank w) (hb : isBlank c = false)
    (hc : isNameStart c = false) (r : List Char) :
    Refused (u ++ '@' :: (w ++ c :: r)) .noName := by
  have hname : ofTrimmed ('@' :: (w ++ c :: dropTail isBlank r)) = .error .noName := by
    simp only [ofTrimmed, dropWhile_blank_stop hw hb, dottedName?, segment?_of_head hc]
  rw [Refused, read, trim_at hu, dropTail_append_cons hb, hname]

theorem read_afterName {l : List Char} (hu : Blank u) (hw : Blank w) (hn : SpacedName n)
    (hl : Layout l) (hd : dotSegment? (l ++ '.' :: dropTail isBlank r) = none) :
    Refused (u ++ '@' :: (w ++ (n ++ (l ++ '.' :: r)))) (.afterName '.') := by
  have hpart := hl.head_notPart (c := '.') (by decide) (dropTail isBlank r)
  obtain ⟨segs, hname⟩ := hn.dottedName?_append hpart hd
  have hskip : skipLayout (l ++ '.' :: dropTail isBlank r) = .ok ('.' :: dropTail isBlank r) := by
    rw [skipLayout_append hl]
    exact skipLayout_stop (by decide) (by decide) _
  have hstart : (w ++ (n ++ (l ++ '.' :: dropTail isBlank r))).dropWhile isBlank =
      n ++ (l ++ '.' :: dropTail isBlank r) := dropWhile_append_stop hw (hn.head_notBlank _)
  have hread : ofTrimmed ('@' :: (w ++ (n ++ (l ++ '.' :: dropTail isBlank r)))) =
      .error (.afterName '.') := by
    simp only [ofTrimmed, hstart, hname, hskip, bind, Except.bind]
    rfl
  have htail : dropTail isBlank (w ++ (n ++ (l ++ '.' :: r))) =
      w ++ (n ++ (l ++ '.' :: dropTail isBlank r)) := by
    have h := dropTail_append_cons (p := isBlank) (c := '.') (by decide) (w ++ (n ++ l)) r
    simpa using h
  rw [Refused, read, trim_at hu, htail, hread]

theorem IsSegment.isPlain (hs : IsSegment s) : IsPlain s := by
  have h := @IsDotted.isPlain [s] ⟨by simp, by simpa using hs⟩
  rwa [dots_cons, List.flatMap_nil, List.append_nil] at h

theorem notMem_marks_of_isBlank {c : Char} (h : isBlank c = true) : c ∉ marks :=
  fun hm => ne_mark_of_isBlank h (List.mem_cons_of_mem _ (List.mem_cons_of_mem _ hm)) rfl

theorem pieces_gap (hk : IsSegment k) (hg : Gap g) {ps : List (List Char)}
    (h : pieces [] (k ++ (g ++ '=' :: r)) = .ok (ps, s)) :
    ∃ v w p qs, Blank v ∧ Blank w ∧ ps = (k ++ v) :: (w ++ '=' :: p) :: qs := by
  obtain @⟨v, body, w, hv, hb, hw⟩ := hg
  have hkey : ∀ c ∈ k ++ v, c ∉ marks := by
    intro c hc
    rcases List.mem_append.mp hc with hc | hc
    · exact (hk.isPlain.chars c hc).1
    · exact notMem_marks_of_isBlank (hv c hc)
  have hsign : ∀ c ∈ w ++ ['='], c ∉ marks := by
    intro c hc
    rcases List.mem_append.mp hc with hc | hc
    · exact notMem_marks_of_isBlank (hw c hc)
    · rw [List.mem_singleton.mp hc]
      decide
  have hne : k ++ v ≠ [] := List.append_ne_nil_of_left_ne_nil hk.isPlain.ne_nil v
  have hcomment : comment? ('/' :: ('*' :: body ++ '*' :: '/' :: ((w ++ ['=']) ++ r))) =
      some (.ok ((w ++ ['=']) ++ r)) := comment?_block hb _
  have htext : k ++ (v ++ ('/' :: '*' :: body ++ '*' :: '/' :: w) ++ '=' :: r) =
      (k ++ v) ++ '/' :: ('*' :: body ++ '*' :: '/' :: ((w ++ ['=']) ++ r)) := by simp
  rw [htext, pieces_plain (by simp) hne hkey, pieces_comment hcomment,
    pieces_plain (by simp) (by simp) hsign] at h
  cases hr : pieces [] r with
  | error f => rw [hr] at h; cases h
  | ok q =>
    obtain ⟨q, t⟩ := q
    rw [hr] at h
    cases q with
    | nil =>
      cases h
      exact ⟨v, w, [], [], hv, hw, by simp [addFront]⟩
    | cons p qs =>
      cases h
      exact ⟨v, w, p, qs, hv, hw, by simp [addFront]⟩

theorem joinPieces_gap (hk : IsSegment k) (hv : Blank v) (hw : Blank w) (p : List Char)
    (qs : List (List Char)) :
    ∃ e, joinPieces ((k ++ v) :: (w ++ '=' :: p) :: qs) = k ++ ' ' :: '=' :: e := by
  have hfirst := (trim_append k hv).trans (trim_eq_self hk.isPlain.head hk.isPlain.last)
  have hsecond : trim (w ++ '=' :: p) = '=' :: dropTail isBlank p := by
    rw [trim, dropWhile_blank_stop hw (by decide)]
    exact dropTail_append_cons (by decide) [] p
  have hne := hk.isPlain.ne_nil
  rw [joinPieces, List.map_cons, List.map_cons, hfirst, hsecond]
  cases hrest : (qs.map trim).filter (fun q => !q.isEmpty) with
  | nil => exact ⟨dropTail isBlank p, by simp [hne, hrest, List.intercalate]⟩
  | cons q rest =>
    exact ⟨dropTail isBlank p ++ ' ' :: [' '].intercalate (q :: rest),
      by simp [hne, hrest, List.intercalate]⟩

theorem classify_gap (hk : IsSegment k) (e : List Char) :
    classify (k ++ ' ' :: '=' :: e) = .literal (String.ofList (k ++ ' ' :: '=' :: e)) := by
  have hsegment : segment? (k ++ ' ' :: '=' :: e) = some (k, ' ' :: '=' :: e) := by
    apply segment?_append hk
    rintro _ ⟨rfl⟩
    decide
  have hend : dotSegment? (' ' :: '=' :: e) = none :=
    dotSegment?_of_blank (w := [' ']) (by simp [Blank]; decide) (by decide) (by decide)
  have hname : dottedName? (k ++ ' ' :: '=' :: e) = some ([k], ' ' :: '=' :: e) := by
    rw [dottedName?, hsegment]
    simp only [dotSegments_of_none hend]
  rw [classify, hname]

theorem readArgument_gap (hk : IsSegment k) (hg : Gap g) {value : Value} {key : Option (List Char)}
    (h : readArgument (k ++ (g ++ '=' :: r)) = .ok (key, value, s)) :
    key = none ∧ ∃ e, value = .literal (String.ofList (k ++ ' ' :: '=' :: e)) := by
  have hkey : key? (k ++ (g ++ '=' :: r)) = none := by
    obtain ⟨v, t, hv, hstart⟩ := hg.start ('=' :: r)
    rw [hstart, key?, segment?_append hk (hv.layout.head_notPart (by decide) t)]
    dsimp only
    rw [dropWhile_blank_stop hv (by decide)]
    rfl
  obtain ⟨rfl, -, hvalue⟩ | ⟨_, _, -, hsome, -⟩ := readArgument_cases h
  · refine ⟨rfl, ?_⟩
    obtain ⟨c, u, hu, hcases⟩ := readValue_cases hvalue
    obtain ⟨hstart, hopen, hquote⟩ : k ++ (g ++ '=' :: r) = c :: u ∧ c ≠ '{' ∧ c ≠ '"' := by
      obtain ⟨d, x, rfl, hd, hx⟩ := hk
      have hpart := isNamePart_of_isNameStart hd
      have hskip := skipLayout_stop (isBlank_of_isNamePart hpart)
        (ne_mark_of_isNamePart hpart (by decide)) (x ++ (g ++ '=' :: r))
      cases hskip.symm.trans hu
      exact ⟨rfl, ne_mark_of_isNamePart hpart (by decide), ne_mark_of_isNamePart hpart (by decide)⟩
    rcases hcases with ⟨vs, rfl, -⟩ | ⟨x, rfl, -⟩ | ⟨-, hexpression⟩
    · exact absurd rfl hopen
    · exact absurd rfl hquote
    · rw [← hstart] at hexpression
      obtain ⟨ps, hpieces, -, rfl⟩ := readExpression_cases hexpression
      obtain ⟨v, w, p, qs, hv, hw, rfl⟩ := pieces_gap hk hg hpieces
      obtain ⟨e, he⟩ := joinPieces_gap hk hv hw p qs
      exact ⟨e, by rw [he, classify_gap hk]⟩
  · rw [hkey] at hsome
    cases hsome

/-- Reading the arguments of `s` comes to an argument that stands at the front of `t`. -/
inductive Reaches : List Char → List Char → Prop where
  | here {s t : List Char} (hs : skipLayout s = .ok t) : Reaches s t
  | next {s t u after rest : List Char} {k : Option (List Char)} {v : Value}
      (hs : skipLayout s = .ok u) (ha : readArgument u = .ok (k, v, after))
      (hr : skipLayout after = .ok (',' :: rest)) (ht : Reaches rest t) : Reaches s t

def HasArgument (s t : List Char) : Prop :=
  ∃ x segs rest u first, trim s = '@' :: x ∧
    dottedName? (x.dropWhile isBlank) = some (segs, rest) ∧ skipLayout rest = .ok ('(' :: u) ∧
      skipLayout u = .ok first ∧ first.head? ≠ some ')' ∧ Reaches first t

theorem Reaches.argument {t : List Char} {args : Arguments} (ht : Reaches s t)
    (h : arguments s = .ok (args, r)) :
    ∃ key v after, readArgument t = .ok (key, v, after) ∧ (key = none → v ∈ args.positional) := by
  induction ht generalizing args with
  | here hs =>
    obtain ⟨u, key, v, after, c, rest, hu, ha, -, hnext⟩ := arguments_cases h
    rw [hs] at hu
    cases hu
    refine ⟨key, v, after, ha, ?_⟩
    rintro rfl
    rcases hnext with ⟨-, rfl, -⟩ | ⟨others, -, -, rfl⟩
    · exact List.mem_cons_self
    · exact List.mem_cons_self
  | @next s t u after rest k v hs ha hr _ ih =>
    obtain ⟨u, key, v, after, c, rest, hu, hargument, hrest, hnext⟩ := arguments_cases h
    rw [hs] at hu
    cases hu
    rw [ha] at hargument
    cases hargument
    rw [hr] at hrest
    cases hrest
    rcases hnext with ⟨hc, -⟩ | ⟨others, -, hothers, rfl⟩
    · exact absurd hc (by decide)
    · obtain ⟨key', v', after', ht, hmem⟩ := ih hothers
      refine ⟨key', v', after', ht, ?_⟩
      intro hnone
      have hv := hmem hnone
      cases k with
      | none => exact List.mem_cons_of_mem _ hv
      | some _ => exact hv

theorem HasArgument.argument {t : List Char} {a : Annotation} (ht : HasArgument s t)
    (h : read s = .ok a) :
    ∃ key v after, readArgument t = .ok (key, v, after) ∧ (key = none → v ∈ a.positional) := by
  obtain ⟨x, segs, rest, u, first, hs, hname, hrest, hfirst, hopen, hreaches⟩ := ht
  rw [read] at h
  split at h
  · next b hb =>
    cases h
    obtain ⟨x', segs', rest', hs', hname', hcases⟩ := ofTrimmed_cases hb
    rw [hs] at hs'
    cases hs'
    rw [hname] at hname'
    cases hname'
    rcases hcases with ⟨hnone, -⟩ | ⟨u', args, after, hu, hargs, -, rfl⟩
    · rw [hrest] at hnone
      cases hnone
    · rw [hrest] at hu
      cases hu
      rcases argumentList_cases hargs with ⟨hclose, -⟩ | ⟨first', hfirst', harguments⟩
      · rw [hfirst] at hclose
        cases hclose
        exact absurd rfl hopen
      · rw [hfirst] at hfirst'
        cases hfirst'
        exact hreaches.argument harguments
  · cases h

/-- A comment after the first sign of an annotation, or on either side of a dot of its name, makes
the annotation malformed. One between the key of an argument and its equals sign leaves no key: if
the annotation is read at all, a value without a name begins with what was to be the key. -/
theorem read_interrupted (hu : Blank u) (hw : Blank w) (hg : Gap g) (r : List Char) :
    Refused (u ++ '@' :: (g ++ r)) .noName ∧
    (∀ n, SpacedName n →
      Refused (u ++ '@' :: (w ++ (n ++ (g ++ '.' :: r)))) (.afterName '.') ∧
      ∀ v, Blank v → Refused (u ++ '@' :: (w ++ (n ++ (v ++ '.' :: (g ++ r))))) (.afterName '.')) ∧
    ∀ s k, IsSegment k → HasArgument s (k ++ (g ++ '=' :: r)) → ∀ a, read s = .ok a →
      ∃ e, .literal (String.ofList (k ++ ' ' :: '=' :: e)) ∈ a.positional := by
  refine ⟨?_, ?_, ?_⟩
  · obtain ⟨v, t, hv, ht⟩ := hg.start r
    rw [ht]
    exact read_noName hu hv (by decide) (by decide) t
  · intro n hn
    constructor
    · apply read_afterName hu hw hn hg.layout
      obtain ⟨v, t, hv, ht⟩ := hg.start ('.' :: dropTail isBlank r)
      rw [ht]
      exact dotSegment?_of_blank hv (by decide) (by decide)
    · intro v hv
      apply read_afterName hu hw hn hv.layout
      obtain ⟨x, t, hx, ht⟩ := hg.start r
      rw [ht, dropTail_append_cons (by decide), dotSegment?_dot hv hx]
      · exact segment?_of_head (by decide)
      · rintro _ ⟨rfl⟩
        decide
  · intro s k hk hs a ha
    obtain ⟨key, value, after, hargument, hmem⟩ := hs.argument ha
    obtain ⟨rfl, e, rfl⟩ := readArgument_gap hk hg hargument
    exact ⟨e, hmem rfl⟩

theorem read_interrupted_bean :
    let gap := "/* c */ ".toList
    Gap gap ∧ SpacedName "a".toList ∧ IsSegment "name".toList ∧
      HasArgument "@Bean(name/* c */ = \"x\")".toList
        ("name".toList ++ (gap ++ '=' :: " \"x\")".toList)) ∧
      Refused "@/* c */ B".toList .noName ∧ Refused "@a/* c */ .B".toList (.afterName '.') ∧
      Refused "@a./* c */ B".toList (.afterName '.') ∧
      ∃ a, read "@Bean(name/* c */ = \"x\")".toList = .ok a ∧
        ∃ e, .literal (String.ofList ("name".toList ++ ' ' :: '=' :: e)) ∈ a.positional := by
  intro gap
  have hblank : Blank [] := by simp [Blank]
  have hgap : Gap gap :=
    @Gap.mk [] " c ".toList [' '] hblank (by decide) (by simp [Blank]; decide)
  have hname : SpacedName "a".toList := .segment (isSegment_of_all (by decide) rfl)
  have hkey : IsSegment "name".toList := isSegment_of_all (by decide) (by decide +kernel)
  have hread : read "@Bean(name/* c */ = \"x\")".toList =
      .ok ⟨"Bean", [.literal "name = \"x\""], []⟩ :=
    read_of_walk (n := 60) (by decide) (by cbv)
  have hplace : HasArgument "@Bean(name/* c */ = \"x\")".toList
      ("name".toList ++ (gap ++ '=' :: " \"x\")".toList)) :=
    ⟨"Bean(name/* c */ = \"x\")".toList, ["Bean".toList], "(name/* c */ = \"x\")".toList,
      "name/* c */ = \"x\")".toList, "name/* c */ = \"x\")".toList, by cbv, by cbv,
      skipLayout_stop (by decide) (by decide) _, skipLayout_stop (by decide) (by decide) _,
      by decide, .here (skipLayout_stop (by decide) (by decide) _)⟩
  obtain ⟨hfirst, hdots, -⟩ := read_interrupted hblank hblank hgap "B".toList
  obtain ⟨-, -, hvalue⟩ := read_interrupted hblank hblank hgap " \"x\")".toList
  obtain ⟨hbefore, hafter⟩ := hdots "a".toList hname
  exact ⟨hgap, hname, hkey, hplace, hfirst, hbefore, hafter [] hblank, _, hread,
    hvalue _ _ hkey hplace _ hread⟩

theorem read_bean_commented :
    read "@Bean(name = \"x\")".toList = .ok ⟨"Bean", [], [("name", .string "x")]⟩ ∧
      read "@Bean(name/* c */ = \"x\")".toList =
        .ok ⟨"Bean", [.literal "name = \"x\""], []⟩ := by
  constructor
  · exact read_of_walk (n := 60) (by decide) (by cbv)
  · exact read_of_walk (n := 60) (by decide) (by cbv)

end Wiring.Annotation
