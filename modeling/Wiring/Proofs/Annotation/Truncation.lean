import Wiring.Proofs.Annotation.Cuts

namespace Wiring.Annotation

open Wiring.Text

variable {p q s t r : List Char}

def StarvesArgument (s : List Char) : Prop := ∀ k v r, readArgument s = .ok (k, v, r) → Ends r

theorem Starves.argument (h : Starves s) (hk : key? s = none) : StarvesArgument s := by
  intro k v r ha
  rcases readArgument_cases ha with ⟨-, -, hv⟩ | ⟨_, _, -, hkey, -⟩
  · exact h v r hv
  · rw [hk] at hkey
    cases hkey

theorem key?_of_notMem (h : '=' ∉ s) : key? s = none := by
  cases hk : key? s with
  | none => rfl
  | some p => exact absurd (mem_of_key? hk) h

theorem key?_cut_mark {c : Char} (hc : isNameStart c = false) (hp : p <+: c :: t) :
    key? p = none := by
  rcases List.prefix_cons_iff.mp hp with rfl | ⟨q, rfl, -⟩
  · rfl
  · rw [key?, segment?_of_head hc]

theorem layout_ne_key {m u v : List Char} (hm : Layout m) (hu : ∀ x ∈ u, isBeforeEquals x = true) :
    m ≠ u ++ '=' :: v := by
  rintro rfl
  exact ne_key_of_delimiter hm (c := ',') rfl hu [] (v := v ++ [',']) (by simp)

theorem key?_cut_expression (ht : IsPlain t) {m : List Char} (hm : Layout m) (hp : p <+: t ++ m) :
    key? p = none := by
  cases hk : key? p with
  | none => rfl
  | some k =>
    exfalso
    obtain ⟨w, hseg, hw, -, rfl⟩ := key?_cases hk
    obtain ⟨x, hx⟩ := hp
    have he : t ++ m = (k.1 ++ w) ++ '=' :: (k.2 ++ x) := by simp [← hx]
    -- the equals sign of the key would be one of the expression or of the layout behind it
    rcases List.append_eq_append_iff.mp he with ⟨u, hu, hrest⟩ | ⟨u, hu, hrest⟩
    · have hbefore : ∀ y ∈ u, isBeforeEquals y = true := by
        intro y hy
        exact isBeforeEquals_of_mem hseg hw y (hu ▸ List.mem_append_right t hy)
      exact layout_ne_key hm hbefore hrest
    · cases u with
      | nil => exact layout_ne_key (u := []) hm (by simp) hrest.symm
      | cons y u =>
        cases (List.cons.inj hrest).1
        exact (ht.chars '=' (hu ▸ by simp)).2 rfl

theorem Written.key?_cut {v : Value} {m : List Char} (h : Written v t) (hm : Layout m)
    (hp : p <+: t ++ m) : key? p = none := by
  cases h with
  | string s => exact key?_cut_mark (by decide) hp
  | list _ => exact key?_cut_mark (by decide) hp
  | classLiteral hs =>
    exact key?_cut_expression (dots_concat_class hs.1 ▸ hs.concat_class.isPlain) hm hp
  | reference hs _ _ => exact key?_cut_expression hs.isPlain hm hp
  | literal ht => exact key?_cut_expression ht.toIsPlain hm hp

theorem starves_layout {v : Value} {l m : List Char} (h : Written v t) (hl : Layout l)
    (hm : Layout m) (hp : p <+: l ++ (t ++ m)) : Starves p := by
  rcases prefix_append_cases hp with ⟨hp, -⟩ | ⟨q, rfl, hq⟩
  · exact (hl.cut hp).ends.starves
  · exact (h.starves hm hq).layout hl

theorem starves_key {k w : List Char} (hk : IsSegment k) (hw : Blank w) (hp : p <+: k ++ w) :
    StarvesArgument p := by
  have hchar : ∀ c ∈ p, c ∉ marks ∧ c ≠ '=' := by
    intro c hc
    rcases List.mem_append.mp (hp.subset hc) with hpart | hblank
    · have hne := fun m => ne_mark_of_isNamePart (m := m) (hk.isNamePart c hpart)
      exact ⟨fun hm => hne c (by simp [hm]) rfl, hne '=' (by simp)⟩
    · have hne := fun m => ne_mark_of_isBlank (m := m) (hw c hblank)
      exact ⟨fun hm => hne c (by simp [hm]) rfl, hne '=' (by simp)⟩
  apply Starves.argument _ (key?_of_notMem (fun hm => (hchar '=' hm).2 rfl))
  obtain ⟨d, u, rfl, hd, -⟩ := hk
  rcases List.prefix_cons_iff.mp hp with rfl | ⟨q, rfl, -⟩
  · exact ends_nil.starves
  · have hpart := isNamePart_of_isNameStart hd
    have hslash : d ≠ '/' := ne_mark_of_isNamePart hpart (by decide)
    have hout : RunsOut (d :: q) := by
      have h := runsOut_nil.plain (t := d :: q) (fun c hc => (hchar c hc).1)
      rwa [List.append_nil] at h
    apply hout.starves
    · exact skipLayout_stop (isBlank_of_isNamePart hpart) hslash q
    · exact ne_mark_of_isNamePart hpart (by decide)
    · exact ne_mark_of_isNamePart hpart (by decide)

theorem WrittenItem.starves {i : Item} {m : List Char} (h : WrittenItem i t) (hm : Layout m)
    (hp : p <+: t ++ m) : StarvesArgument p := by
  cases h with
  | positional ht => exact (ht.starves hm hp).argument (ht.key?_cut hm hp)
  | @named k w l t v hk hw hl ht =>
    rw [List.append_assoc, List.append_assoc] at hp
    rcases prefix_append_cases hp with ⟨hp, -⟩ | ⟨q, rfl, hq⟩
    · exact starves_key hk hw hp
    rcases List.prefix_cons_iff.mp hq with rfl | ⟨x, rfl, hx⟩
    · exact starves_key hk hw (by simp)
    · have hne : x.head? ≠ some '=' := by
        intro he
        obtain ⟨y, rfl⟩ := List.head?_eq_some_iff.mp he
        obtain ⟨z, hz⟩ := hx
        obtain ⟨d, u, rfl, -, hd⟩ := (ht.spelled.readable (fun _ _ h => h)).head
        apply head?_layout hl (x := '=') (by decide) (by decide) (r := d :: u ++ m)
        · rintro ⟨rfl⟩
          exact hd (by decide)
        · exact (congrArg List.head? hz).symm
      intro k' v' r ha
      rw [List.append_assoc] at ha
      rcases readArgument_cases ha with ⟨-, hnone, -⟩ | ⟨key, u, -, hkey, hv⟩
      · rw [key?_named hk hw hne] at hnone
        cases hnone
      · rw [key?_named hk hw hne] at hkey
        cases hkey
        exact starves_layout ht hl hm hx v' r hv

theorem CutLayout.starvesArgument (h : CutLayout s) {u : List Char} (hu : skipLayout s = .ok u) :
    StarvesArgument u := by
  cases u with
  | nil => exact ends_nil.starves.argument rfl
  | cons c u =>
    obtain ⟨rfl, rfl⟩ := h.ends c u hu
    exact CutLayout.slash.ends.starves.argument (key?_of_notMem (by decide))

theorem arguments_cut_item {i : Item} {l m : List Char} (ht : WrittenItem i t) (hl : Layout l)
    (hm : Layout m) (hp : p <+: l ++ t ++ m) (args : Arguments) (r : List Char) :
    arguments p ≠ .ok (args, r) := by
  have hstarves : ∀ u, skipLayout p = .ok u → StarvesArgument u := by
    intro u hu
    rw [List.append_assoc] at hp
    rcases prefix_append_cases hp with ⟨hp, -⟩ | ⟨q, rfl, hq⟩
    · exact (hl.cut hp).starvesArgument hu
    · have hq' := ht.starves hm hq
      obtain ⟨c, x, rfl, hb, hc, -⟩ := ht.spelled.head (fun _ _ h => h)
      rw [skipLayout_append hl, skipLayout_cut hb hc hq] at hu
      cases hu
      exact hq'
  intro ha
  obtain ⟨u, k, v, after, c, rest, hu, hargument, hrest, hcases⟩ := arguments_cases ha
  obtain ⟨rfl, -⟩ := hstarves u hu k v after hargument c rest hrest
  rcases hcases with ⟨hc, -⟩ | ⟨_, hc, -⟩
  · exact absurd hc (by decide)
  · exact absurd hc (by decide)

theorem arguments_comma {i : Item} {l m s : List Char} (ht : WrittenItem i t) (hl : Layout l)
    (hm : Layout m) {args : Arguments}
    (h : arguments (l ++ t ++ m ++ ',' :: s) = .ok (args, r)) :
    ∃ others, arguments s = .ok (others, r) := by
  obtain ⟨w, ha, hw⟩ := readArgument_spelled (fun _ _ h => h) ht.spelled hm (c := ',') rfl s
  have hs := skipLayout_item (fun _ _ h => h) ht.spelled hl (m ++ ',' :: s)
  have he : l ++ t ++ m ++ ',' :: s = l ++ (t ++ (m ++ ',' :: s)) := by simp
  rw [he] at h
  obtain ⟨u, k, v, after, c, rest, hu, hargument, hrest, hcases⟩ := arguments_cases h
  rw [hs] at hu
  cases hu
  rw [ha] at hargument
  cases hargument
  rw [hw] at hrest
  cases hrest
  rcases hcases with ⟨hc, -⟩ | ⟨others, -, hothers, -⟩
  · exact absurd hc (by decide)
  · exact ⟨others, hothers⟩

theorem arguments_cut {is : List Item} (h : WrittenArguments is t) (hp : p <+: t) (hne : p ≠ t)
    (args : Arguments) (r : List Char) : arguments p ≠ .ok (args, r) := by
  induction h generalizing p args with
  | last hl ht hm => exact arguments_cut_item ht hl hm (prefix_of_concat hp hne) args r
  | cons hl ht hm _ ih =>
    rcases prefix_append_cases hp with ⟨hp, -⟩ | ⟨q, rfl, hq⟩
    · exact arguments_cut_item ht hl hm hp args r
    · rcases List.prefix_cons_iff.mp hq with rfl | ⟨x, rfl, hx⟩
      · exact arguments_cut_item ht hl hm (by simp) args r
      · intro ha
        obtain ⟨others, hothers⟩ := arguments_comma ht hl hm ha
        exact ih hx (by rintro rfl; exact hne rfl) others hothers

theorem skipLayout_cut_arguments {is : List Item} (h : WrittenArguments is t) (hp : p <+: t)
    (r : List Char) : skipLayout p ≠ .ok (')' :: r) := by
  have hitem {i : Item} {l u s : List Char} (hl : Layout l) (hu : WrittenItem i u)
      (hp : p <+: l ++ (u ++ s)) : skipLayout p ≠ .ok (')' :: r) := by
    rcases prefix_append_cases hp with ⟨hp, -⟩ | ⟨q, rfl, hq⟩
    · intro hs
      exact absurd ((hl.cut hp).ends _ r hs).1 (by decide)
    · obtain ⟨c, x, rfl, hb, hc, hclose⟩ := hu.spelled.head (fun _ _ h => h)
      rw [skipLayout_append hl, skipLayout_cut hb hc hq]
      rintro ⟨rfl⟩
      exact hclose (List.cons_prefix_cons.mp hq).1.symm
  cases h with
  | last hl ht _ => exact hitem hl ht (by simpa using hp)
  | cons hl ht _ _ => exact hitem hl ht (by simpa using hp)

theorem argumentList_cut {is : List Item} (h : WrittenArguments is t) (hp : p <+: t) (hne : p ≠ t)
    (args : Arguments) (r : List Char) : argumentList p ≠ .ok (args, r) := by
  intro ha
  rcases argumentList_cases ha with ⟨hs, -⟩ | ⟨u, hu, hargs⟩
  · exact skipLayout_cut_arguments h hp r hs
  · have hsame : arguments p = arguments u := by
      rw [arguments_eq, arguments_eq, hu, skipLayout_skipLayout hu]
    exact arguments_cut h hp hne args r (hsame.trans hargs)

inductive WrittenCall : Annotation → List Char → List Char → Prop where
  | mk {segs : List (List Char)} {l t : List Char} {is : List Item} (hs : IsDotted segs)
      (hl : Layout l) (ht : WrittenArguments is t) :
      WrittenCall ⟨joinDots segs, positionals is, keywordsOf is⟩
        ('@' :: dots segs ++ l ++ ['(']) t

theorem dottedName?_call {segs : List (List Char)} {l : List Char} (hs : IsDotted segs)
    (hl : Layout l) (u : List Char) :
    dottedName? ((dots segs ++ l ++ '(' :: u).dropWhile isBlank) = some (segs, l ++ '(' :: u) := by
  rw [List.append_assoc, hs.dropWhile_append, dottedName?_dots hs (endsName_layout hl u)]

theorem dropTail_isPrefix (s : List Char) : dropTail isBlank s <+: s := by
  rw [dropTail, ← List.reverse_suffix, List.reverse_reverse]
  exact List.dropWhile_suffix _

theorem WrittenCall.cut {a : Annotation} {front : List Char} (h : WrittenCall a front t)
    (hp : p <+: t) (hne : p ≠ t) : ∃ f, Refused (front ++ p) f := by
  cases h with
  | @mk segs l t is hs hl ht =>
    have he : '@' :: dots segs ++ l ++ ['('] ++ p = '@' :: (dots segs ++ l) ++ '(' :: p := by simp
    have htail := (dropTail_isPrefix p).trans hp
    have hshort : dropTail isBlank p ≠ t := by
      intro ht
      exact hne (hp.eq_of_length_le (ht ▸ (dropTail_isPrefix p).length_le))
    cases hread : ofTrimmed (trim ('@' :: (dots segs ++ l) ++ '(' :: p)) with
    | error f => exact ⟨f, by rw [Refused, read, he, hread]⟩
    | ok a =>
      exfalso
      rw [trim_at_cons (by decide)] at hread
      obtain ⟨s, segs', rest, hs', hname, hcases⟩ := ofTrimmed_cases hread
      cases hs'
      have hsame := (dottedName?_call hs hl (dropTail isBlank p)).symm.trans hname
      cases hsame
      rw [skipLayout_head hl (by decide) (by decide)] at hcases
      rcases hcases with ⟨hnil, -⟩ | ⟨u, args, after, hu, hargs, -⟩
      · cases hnil
      · cases hu
        exact argumentList_cut ht htail hshort args after hargs

theorem comment?_of_isPrefix {c : Char} (h : comment? (c :: s) = none) (hp : p <+: s) :
    comment? (c :: p) = none := by
  rw [comment?]
  · rintro u he
    cases he
    obtain ⟨x, rfl⟩ := hp
    cases h
  · rintro u he
    cases he
    obtain ⟨x, rfl⟩ := hp
    cases h

theorem WrittenCall.continued {a : Annotation} {front w x : List Char} {c : Char}
    (h : WrittenCall a front t) (hw : Blank w) (hb : isBlank c = false)
    (hc : comment? (c :: x) = none) :
    Refused (front ++ t ++ (w ++ c :: x)) (.trailing (c :: dropTail isBlank x)) := by
  cases h with
  | @mk segs l t is hs hl ht =>
    have he : '@' :: dots segs ++ l ++ ['('] ++ t ++ (w ++ c :: x) =
        '@' :: (dots segs ++ l) ++ '(' :: (t ++ w ++ c :: x) := by simp
    have htail : dropTail isBlank (t ++ w ++ c :: x) = t ++ (w ++ c :: dropTail isBlank x) := by
      rw [dropTail_append_cons hb, List.append_assoc]
    have hargs := argumentList_spelled (fun _ _ h => h) (.some ht.spelled)
      (w ++ c :: dropTail isBlank x)
    have hrest : skipLayout (w ++ c :: dropTail isBlank x) = .ok (c :: dropTail isBlank x) := by
      rw [skipLayout_append hw.layout]
      exact skipLayout_self hb (comment?_of_isPrefix hc (dropTail_isPrefix x))
    have hread : ofTrimmed (trim ('@' :: (dots segs ++ l) ++ '(' :: (t ++ w ++ c :: x))) =
        .error (.trailing (c :: dropTail isBlank x)) := by
      have hname := dottedName?_call hs hl (t ++ (w ++ c :: dropTail isBlank x))
      have hopen := skipLayout_head (u := t ++ (w ++ c :: dropTail isBlank x)) hl
        (c := '(') (by decide) (by decide)
      rw [trim_at_cons (by decide), htail]
      simp only [ofTrimmed, hname, hopen, hargs, hrest, bind, Except.bind]
      rfl
    rw [Refused, read, he, hread]

theorem writtenCall_print {a : Annotation} {items : List Item} (h : a.IsPrintable)
    (hargs : a.hasArguments = true) (hi : Interleaves items a) :
    WrittenCall a ('@' :: a.name.toList ++ ['(']) (printArguments items) := by
  obtain ⟨segs, hs, hn⟩ := h.name
  have ht : WrittenArguments items (printArguments items) := by
    cases items with
    | nil =>
      have hpositional : a.positional = [] := hi.positional.symm
      have hnamed : a.named = [] := hi.named.symm
      simp [hpositional, hnamed, Annotation.hasArguments] at hargs
    | cons i is =>
      apply writtenArguments_print (l := []) _ .nil
      intro j hj
      obtain ⟨hk, hv⟩ := hi.item h hj
      exact writtenItem_print hk hv
  have hw := WrittenCall.mk hs .nil ht
  have hdots : a.name.toList = dots segs := by rw [hn, joinDots, String.toList_ofList, dots]
  rw [hi.positional, hi.named, ← hn, ← hdots, List.append_nil] at hw
  exact hw

theorem IsPrintable.notMem_name {a : Annotation} (h : a.IsPrintable) :
    '(' ∉ '@' :: a.name.toList := by
  obtain ⟨segs, hs, hn⟩ := h.name
  rw [hn, joinDots, String.toList_ofList]
  rintro (_ | ⟨_, hm⟩)
  rcases hs.chars '(' hm with hp | hp
  · exact ne_mark_of_isNamePart hp (m := '(') (by decide) rfl
  · exact absurd hp (by decide)

/-- An annotation with arguments is malformed wherever its text ends behind the opening parenthesis,
and with anything but layout behind it. -/
theorem read_truncated {a : Annotation} (h : a.IsPrintable) (hargs : a.hasArguments = true) :
    (∀ items t, Interleaves items a → t = print a.name items →
      (∀ p, p <+: t → p ≠ t → '(' ∈ p → ∃ f, Refused p f) ∧
      ∀ w c x, Blank w → isBlank c = false → comment? (c :: x) = none →
        Refused (t ++ (w ++ c :: x)) (.trailing (c :: dropTail isBlank x))) ∧
    ∀ front t, WrittenCall a front t →
      (∀ p, p <+: t → p ≠ t → ∃ f, Refused (front ++ p) f) ∧
      ∀ w c x, Blank w → isBlank c = false → comment? (c :: x) = none →
        Refused (front ++ t ++ (w ++ c :: x)) (.trailing (c :: dropTail isBlank x)) := by
  constructor
  · intro items t hi ht
    have hcall := writtenCall_print h hargs hi
    have he : t = '@' :: a.name.toList ++ ['('] ++ printArguments items := by simp [ht, print]
    rw [he]
    constructor
    · intro p hp hne hopen
      rcases prefix_append_cases hp with ⟨hfront, hshort⟩ | ⟨q, rfl, hq⟩
      · exact absurd ((prefix_of_concat hfront hshort).subset hopen) h.notMem_name
      · exact hcall.cut hq (by rintro rfl; exact hne rfl)
    · intro w c x hw hb hc
      exact hcall.continued hw hb hc
  · intro front t ht
    constructor
    · intro p hp hne
      exact ht.cut hp hne
    · intro w c x hw hb hc
      exact ht.continued hw hb hc

theorem read_truncated_import :
    let a : Annotation := ⟨"Import", [.list [.reference "A" true]], [("note", .string "a")]⟩
    let items : List Item :=
      [(none, .list [.reference "A" true]), (some "note".toList, .string "a")]
    a.IsPrintable ∧ a.hasArguments = true ∧ Interleaves items a ∧
      (∃ f, Refused "@Import(\x7bA.cl".toList f) ∧
      (∃ f, Refused "@Import({A.class}, note = \"a\"".toList f) ∧
      Refused "@Import({A.class}, note = \"a\") (".toList (.trailing ['(']) := by
  intro a items
  have hImport : IsDotted ["Import".toList] :=
    ⟨by simp, by simpa using isSegment_of_all (by decide) (by decide +kernel)⟩
  have hA : IsDotted ["A".toList] := ⟨by simp, by simpa using isSegment_of_all (by decide) rfl⟩
  have hnote : IsSegment "note".toList := isSegment_of_all (by decide) (by decide +kernel)
  have hprintable : a.IsPrintable := by
    refine ⟨⟨_, hImport, rfl⟩, ?_, ?_⟩
    · simpa [a] using Value.IsPrintable.list (by simpa using .classLiteral hA)
    · simpa [a] using ⟨hnote, Value.IsPrintable.string _⟩
  have hi : Interleaves items a := ⟨rfl, rfl⟩
  obtain ⟨hcut, hcontinued⟩ := (read_truncated hprintable rfl).1 items
    "@Import({A.class}, note = \"a\")".toList hi (by cbv)
  refine ⟨hprintable, rfl, hi, ?_, ?_, ?_⟩
  · exact hcut _ (by decide) (by decide) (by decide)
  · exact hcut _ (by decide) (by decide) (by decide)
  · exact hcontinued [' '] '(' [] blank_space (by decide) rfl

end Wiring.Annotation
