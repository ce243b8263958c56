import Wiring.Proofs.Annotation.Expressions

/-!
Annotations over any stock of values that are read wherever a delimiter follows: all that is built
from them is read as it was built, with any layout between its parts.
-/

namespace Wiring.Annotation

open Wiring.Text

variable {s t r : List Char}

def ReadsAs (v : Value) (t : List Char) : Prop :=
  ∀ m c r, Layout m → isStop c = true →
    ∃ u, readValue (t ++ (m ++ c :: r)) = .ok (v, u) ∧ skipLayout u = .ok (c :: r)

structure Readable (v : Value) (t : List Char) : Prop where
  head : ∃ c u, t = c :: u ∧ isBlank c = false ∧ c ∉ ['/', '=', ')', '}']
  reads : ReadsAs v t

theorem skipLayout_isStop {c : Char} (hc : isStop c = true) :
    skipLayout (c :: r) = .ok (c :: r) := by
  rcases eq_of_isStop hc with rfl | rfl | rfl <;> exact skipLayout_stop (by decide) (by decide) r

theorem skipLayout_delimiter {m : List Char} {c : Char} (hm : Layout m) (hc : isStop c = true) :
    skipLayout (m ++ c :: r) = .ok (c :: r) := by
  rw [skipLayout_append hm, skipLayout_isStop hc]

theorem readValue_layout {l : List Char} (hl : Layout l) (s : List Char) :
    readValue (l ++ s) = readValue s := by
  rw [readValue_eq, readValue_eq, skipLayout_append hl]

theorem skipLayout_head {c : Char} {l u : List Char} (hl : Layout l) (hb : isBlank c = false)
    (hc : c ≠ '/') : skipLayout (l ++ c :: u) = .ok (c :: u) := by
  rw [skipLayout_append hl, skipLayout_stop hb hc]

mutual

/-- A value of the stock, or a list of such values and lists. -/
inductive Spelled (stock : Value → List Char → Prop) : Value → List Char → Prop where
  | base {v : Value} {t : List Char} (ht : stock v t) : Spelled stock v t
  | list {vs : List Value} {t : List Char} (ht : SpelledItems stock vs t) :
      Spelled stock (.list vs) ('{' :: t)

inductive SpelledItems (stock : Value → List Char → Prop) : List Value → List Char → Prop where
  | nil {l : List Char} (hl : Layout l) : SpelledItems stock [] (l ++ ['}'])
  | last {v : Value} {l t m : List Char} (hl : Layout l) (ht : Spelled stock v t)
      (hm : Layout m) : SpelledItems stock [v] (l ++ t ++ m ++ ['}'])
  | cons {v : Value} {vs : List Value} {l t m s : List Char} (hl : Layout l)
      (ht : Spelled stock v t) (hm : Layout m) (hs : SpelledItems stock vs s) :
      SpelledItems stock (v :: vs) (l ++ t ++ m ++ ',' :: s)

end

theorem Readable.item {v : Value} (h : Readable v t) {l m : List Char} {c : Char} (hl : Layout l)
    (hm : Layout m) (hc : isStop c = true) (r : List Char) :
    ∃ d u w, skipLayout (l ++ (t ++ (m ++ c :: r))) = .ok (d :: u) ∧ d ≠ '}' ∧
      readValue (d :: u) = .ok (v, w) ∧ skipLayout w = .ok (c :: r) := by
  obtain ⟨d, u, rfl, hb, hd⟩ := h.head
  obtain ⟨w, hr, hw⟩ := h.reads m c r hm hc
  refine ⟨d, u ++ (m ++ c :: r), w, ?_, ?_, hr, hw⟩
  · exact skipLayout_head hl hb (by rintro rfl; simp at hd)
  · rintro rfl
    simp at hd

theorem Readable.list {vs : List Value} (h : ∀ r, readItems (t ++ r) = .ok (vs, r)) :
    Readable (.list vs) ('{' :: t) := by
  constructor
  · exact ⟨'{', t, rfl, by decide, by decide⟩
  · intro m c r hm hc
    have hs : skipLayout ('{' :: t ++ (m ++ c :: r)) = .ok ('{' :: (t ++ (m ++ c :: r))) :=
      skipLayout_stop (by decide) (by decide) _
    refine ⟨m ++ c :: r, ?_, skipLayout_delimiter hm hc⟩
    rw [readValue_eq, hs]
    simp only [if_pos, h]
    rfl

variable {stock : Value → List Char → Prop}

-- a list is read through its items, so the two go down the derivation together
mutual

theorem Spelled.readable (hstock : ∀ v t, stock v t → Readable v t) {v : Value} {t : List Char}
    (h : Spelled stock v t) : Readable v t :=
  match h with
  | .base ht => hstock _ _ ht
  | .list ht => .list (readItems_spelled hstock ht)

theorem readItems_spelled (hstock : ∀ v t, stock v t → Readable v t) {vs : List Value}
    {t : List Char} (h : SpelledItems stock vs t) (r : List Char) :
    readItems (t ++ r) = .ok (vs, r) := by
  match h with
  | .nil hl =>
    rw [List.append_assoc, List.singleton_append, readItems_eq, skipLayout_delimiter hl rfl]
    rfl
  | .last (l := l) (t := t) (m := m) hl ht hm =>
    obtain ⟨d, u, w, hs, hd, hv, hw⟩ := (ht.readable hstock).item (c := '}') hl hm rfl r
    have he : l ++ t ++ m ++ ['}'] ++ r = l ++ (t ++ (m ++ '}' :: r)) := by simp
    rw [he, readItems_eq, hs]
    simp only [if_neg hd, hv, hw]
    rfl
  | .cons (l := l) (t := t) (m := m) (s := s) hl ht hm hi =>
    obtain ⟨d, u, w, hs, hd, hv, hw⟩ := (ht.readable hstock).item (c := ',') hl hm rfl (s ++ r)
    have he : l ++ t ++ m ++ ',' :: s ++ r = l ++ (t ++ (m ++ ',' :: (s ++ r))) := by simp
    rw [he, readItems_eq, hs]
    simp only [if_neg hd, hv, hw, if_pos, readItems_spelled hstock hi r]
    rfl

end

def isBeforeEquals (c : Char) : Bool := isNamePart c || isBlank c

theorem key?_named {k w : List Char} (hk : IsSegment k) (hw : Blank w) (hr : r.head? ≠ some '=') :
    key? (k ++ (w ++ '=' :: r)) = some (k, r) := by
  have hb : ∀ c ∈ (w ++ '=' :: r).head?, isNamePart c = false := by
    cases w with
    | nil => rintro _ ⟨rfl⟩; decide
    | cons c w => rintro _ ⟨rfl⟩; exact isNamePart_of_isBlank (hw c List.mem_cons_self)
  have hd : (w ++ '=' :: r).dropWhile isBlank = '=' :: r := by
    apply dropWhile_append_stop hw
    rintro _ ⟨rfl⟩
    decide
  rw [key?, segment?_append hk hb]
  simp only [hd, if_neg hr]

theorem key?_cases {k : List Char} (h : key? s = some (k, r)) :
    ∃ w, IsSegment k ∧ Blank w ∧ r.head? ≠ some '=' ∧ s = k ++ (w ++ '=' :: r) := by
  rw [key?] at h
  split at h
  · cases h
  · next k' u hu =>
    obtain ⟨hk, rfl⟩ := segment?_eq_some hu
    split at h
    · next v hv =>
      split at h
      · cases h
      · next hr =>
        cases h
        have hw : Blank (u.takeWhile isBlank) :=
          fun c hc => List.all_eq_true.mp List.all_takeWhile c hc
        refine ⟨u.takeWhile isBlank, hk, hw, hr, ?_⟩
        rw [← hv, List.takeWhile_append_dropWhile]
    · cases h

theorem mem_of_key? {k : List Char} (h : key? s = some (k, r)) : '=' ∈ s := by
  obtain ⟨w, -, -, -, rfl⟩ := key?_cases h
  simp

theorem isBeforeEquals_of_mem {k w : List Char} (hk : IsSegment k) (hw : Blank w) :
    ∀ c ∈ k ++ w, isBeforeEquals c = true := by
  intro c hc
  rcases List.mem_append.mp hc with hpart | hblank
  · simp [isBeforeEquals, hk.isNamePart c hpart]
  · simp [isBeforeEquals, hw c hblank]

theorem ne_key_of_delimiter {m u v : List Char} {c : Char} (hm : Layout m) (hc : isStop c = true)
    (hu : ∀ x ∈ u, isBeforeEquals x = true) (r : List Char) : m ++ c :: r ≠ u ++ '=' :: v := by
  intro he
  have hstop : isBeforeEquals c = false ∧ c ≠ '=' := by
    rcases eq_of_isStop hc with rfl | rfl | rfl <;> decide
  have hd := head?_dropWhile_layout (p := isBeforeEquals)
    (fun x hb => by simp [isBeforeEquals, hb]) (by decide) hm hstop.1 r
  have hequals : (u ++ '=' :: v).dropWhile isBeforeEquals = '=' :: v := by
    apply dropWhile_append_stop hu
    rintro _ ⟨rfl⟩
    decide
  rw [he, hequals] at hd
  simp [hstop.2.symm] at hd

theorem key?_delimiter {m : List Char} {c : Char} (ht : key? t = none) (hm : Layout m)
    (hc : isStop c = true) (r : List Char) : key? (t ++ (m ++ c :: r)) = none := by
  cases hkey : key? (t ++ (m ++ c :: r)) with
  | none => rfl
  | some p =>
    exfalso
    obtain ⟨w, hk, hw, hr, he⟩ := key?_cases hkey
    have he : t ++ (m ++ c :: r) = p.1 ++ w ++ '=' :: p.2 := by rw [he, List.append_assoc]
    rcases List.append_eq_append_iff.mp he with ⟨u, hu, hrest⟩ | ⟨u, hu, hrest⟩
    · have hbefore : ∀ x ∈ u, isBeforeEquals x = true := by
        intro x hx
        exact isBeforeEquals_of_mem hk hw x (hu ▸ List.mem_append_right t hx)
      exact ne_key_of_delimiter hm hc hbefore r hrest
    · cases u with
      | nil => exact ne_key_of_delimiter (u := []) hm hc (by simp) r hrest.symm
      | cons x u =>
        rw [List.cons_append] at hrest
        obtain ⟨hx, hrest⟩ := List.cons.inj hrest
        have hhead : u.head? ≠ some '=' := by
          intro hu
          rw [hrest, List.head?_append, hu] at hr
          exact hr rfl
        rw [hu, ← hx, List.append_assoc, key?_named hk hw hhead] at ht
        cases ht

inductive SpelledItem (stock : Value → List Char → Prop) : Item → List Char → Prop where
  | positional {v : Value} {t : List Char} (ht : Spelled stock v t) (hk : key? t = none) :
      SpelledItem stock (none, v) t
  | named {k w l t : List Char} {v : Value} (hk : IsSegment k) (hw : Blank w) (hl : Layout l)
      (ht : Spelled stock v t) : SpelledItem stock (some k, v) (k ++ w ++ '=' :: l ++ t)

inductive SpelledArguments (stock : Value → List Char → Prop) : List Item → List Char → Prop where
  | last {i : Item} {l t m : List Char} (hl : Layout l) (ht : SpelledItem stock i t)
      (hm : Layout m) : SpelledArguments stock [i] (l ++ t ++ m ++ [')'])
  | cons {i : Item} {is : List Item} {l t m s : List Char} (hl : Layout l)
      (ht : SpelledItem stock i t) (hm : Layout m) (hs : SpelledArguments stock is s) :
      SpelledArguments stock (i :: is) (l ++ t ++ m ++ ',' :: s)

inductive SpelledArgumentList (stock : Value → List Char → Prop) :
    List Item → List Char → Prop where
  | nil {l : List Char} (hl : Layout l) : SpelledArgumentList stock [] (l ++ [')'])
  | some {is : List Item} {t : List Char} (ht : SpelledArguments stock is t) :
      SpelledArgumentList stock is t

inductive SpelledWhole (stock : Value → List Char → Prop) : Annotation → List Char → Prop where
  | mk {segs : List (List Char)} {l t m : List Char} {is : List Item} (hs : IsDotted segs)
      (hl : Layout l) (ht : SpelledArgumentList stock is t) (hm : Layout m) :
      SpelledWhole stock ⟨joinDots segs, positionals is, keywordsOf is⟩
        ('@' :: dots segs ++ l ++ '(' :: t ++ m)

section Arguments

variable {i : Item} {is : List Item} (hstock : ∀ v t, stock v t → Readable v t)
include hstock

theorem SpelledItem.head (h : SpelledItem stock i t) :
    ∃ c u, t = c :: u ∧ isBlank c = false ∧ c ≠ '/' ∧ c ≠ ')' := by
  cases h with
  | positional ht _ =>
    obtain ⟨c, u, rfl, hb, hc⟩ := (ht.readable hstock).head
    simp only [List.mem_cons, List.not_mem_nil, or_false, not_or] at hc
    exact ⟨c, u, rfl, hb, hc.1, hc.2.2.1⟩
  | named hk _ _ _ =>
    obtain ⟨c, u, rfl, hc, _⟩ := hk
    have hp := isNamePart_of_isNameStart hc
    exact ⟨c, _, rfl, isBlank_of_isNamePart hp, ne_mark_of_isNamePart hp (by decide),
      ne_mark_of_isNamePart hp (by decide)⟩

theorem readArgument_spelled (h : SpelledItem stock i t) {m : List Char} {c : Char}
    (hm : Layout m) (hc : isStop c = true) (r : List Char) :
    ∃ u, readArgument (t ++ (m ++ c :: r)) = .ok (i.1, i.2, u) ∧ skipLayout u = .ok (c :: r) := by
  cases h with
  | positional ht hk =>
    obtain ⟨u, hv, hu⟩ := (ht.readable hstock).reads m c r hm hc
    refine ⟨u, ?_, hu⟩
    rw [readArgument_eq, key?_delimiter hk hm hc]
    simp only [hv]
    rfl
  | @named k w l t v hk hw hl ht =>
    obtain ⟨u, hv, hu⟩ := (ht.readable hstock).reads m c r hm hc
    have hne : (l ++ (t ++ (m ++ c :: r))).head? ≠ some '=' := by
      obtain ⟨d, u, rfl, _, hd⟩ := (ht.readable hstock).head
      apply head?_layout hl (by decide) (by decide)
      rintro ⟨rfl⟩
      exact hd (by decide)
    have he : k ++ w ++ '=' :: l ++ t ++ (m ++ c :: r) =
        k ++ (w ++ '=' :: (l ++ (t ++ (m ++ c :: r)))) := by simp
    refine ⟨u, ?_, hu⟩
    rw [he, readArgument_eq, key?_named hk hw hne]
    simp only [readValue_layout hl, hv]
    rfl

theorem skipLayout_item (h : SpelledItem stock i t) {l : List Char} (hl : Layout l)
    (r : List Char) : skipLayout (l ++ (t ++ r)) = .ok (t ++ r) := by
  obtain ⟨c, u, rfl, hb, hc, _⟩ := h.head hstock
  exact skipLayout_head hl hb hc

omit hstock in
theorem add_items (i : Item) (is : List Item) :
    Arguments.add i.1 i.2 ⟨positionals is, keywordsOf is⟩ =
      ⟨positionals (i :: is), keywordsOf (i :: is)⟩ := by
  obtain ⟨_ | k, v⟩ := i
  · rfl
  · rfl

theorem arguments_spelled (h : SpelledArguments stock is t) (r : List Char) :
    arguments (t ++ r) = .ok (⟨positionals is, keywordsOf is⟩, r) := by
  induction h with
  | @last i l t m hl ht hm =>
    obtain ⟨u, ha, hu⟩ := readArgument_spelled hstock ht (c := ')') hm rfl r
    have he : l ++ t ++ m ++ [')'] ++ r = l ++ (t ++ (m ++ ')' :: r)) := by simp
    rw [he, arguments_eq, skipLayout_item hstock ht hl, ← add_items]
    simp only [ha, hu]
    rfl
  | @cons i is l t m s hl ht hm _ ih =>
    obtain ⟨u, ha, hu⟩ := readArgument_spelled hstock ht (c := ',') hm rfl (s ++ r)
    have he : l ++ t ++ m ++ ',' :: s ++ r = l ++ (t ++ (m ++ ',' :: (s ++ r))) := by simp
    rw [he, arguments_eq, skipLayout_item hstock ht hl, ← add_items]
    simp only [ha, hu, ih]
    rfl

theorem skipLayout_arguments (h : SpelledArguments stock is t) :
    ∃ c u, SpelledArguments stock is (c :: u) ∧ c ≠ ')' ∧
      ∀ r, skipLayout (t ++ r) = .ok (c :: (u ++ r)) := by
  cases h with
  | @last i l t m hl ht hm =>
    obtain ⟨c, u, rfl, _, _, hc⟩ := ht.head hstock
    refine ⟨c, u ++ m ++ [')'], .last .nil ht hm, hc, ?_⟩
    intro r
    have hs := skipLayout_item hstock ht hl (m ++ ')' :: r)
    simpa using hs
  | @cons i is l t m s hl ht hm hi =>
    obtain ⟨c, u, rfl, _, _, hc⟩ := ht.head hstock
    refine ⟨c, u ++ m ++ ',' :: s, .cons .nil ht hm hi, hc, ?_⟩
    intro r
    have hs := skipLayout_item hstock ht hl (m ++ ',' :: (s ++ r))
    simpa using hs

theorem argumentList_spelled (h : SpelledArgumentList stock is t) (r : List Char) :
    argumentList (t ++ r) = .ok (⟨positionals is, keywordsOf is⟩, r) := by
  cases h with
  | @nil l hl =>
    have hs : skipLayout (l ++ [')'] ++ r) = .ok (')' :: r) := by
      rw [List.append_assoc, skipLayout_append hl]
      exact skipLayout_isStop rfl
    rw [argumentList, hs]
    rfl
  | some ht =>
    obtain ⟨c, u, hu, hc, hs⟩ := skipLayout_arguments hstock ht
    rw [argumentList, hs]
    split
    · next he => cases he
    · next he => cases he; exact absurd rfl hc
    · next he =>
      cases he
      exact arguments_spelled hstock hu r

end Arguments

theorem SpelledArguments.last_eq {is : List Item} (h : SpelledArguments stock is t) :
    ∃ u, t = u ++ [')'] := by
  induction h with
  | last hl ht hm => exact ⟨_, rfl⟩
  | @cons i is l t m s hl ht hm _ ih =>
    obtain ⟨u, rfl⟩ := ih
    exact ⟨l ++ t ++ m ++ ',' :: u, by simp⟩

theorem SpelledArgumentList.last_eq {is : List Item} (h : SpelledArgumentList stock is t) :
    ∃ u, t = u ++ [')'] := by
  cases h with
  | nil hl => exact ⟨_, rfl⟩
  | some ht => exact ht.last_eq

theorem endsName_layout {l : List Char} (hl : Layout l) (r : List Char) :
    EndsName (l ++ '(' :: r) := by
  constructor
  · intro c hc
    by_contra hp
    have hp : isNamePart c = true := by simpa using hp
    apply head?_layout hl (isBlank_of_isNamePart hp) (ne_mark_of_isNamePart hp (by decide)) _ hc
    rintro ⟨rfl⟩
    exact absurd hp (by decide)
  · intro t ht
    have hm := head?_dropWhile_layout (p := isBlank) (fun _ hb => hb) (by decide) hl
      (c := '(') (by decide) r
    rw [ht] at hm
    simp at hm

theorem ofTrimmed_parts (hstock : ∀ v t, stock v t → Readable v t) {segs : List (List Char)}
    {l m : List Char} {is : List Item} (hs : IsDotted segs) (hl : Layout l)
    (ht : SpelledArgumentList stock is t) (hm : skipLayout m = .ok []) :
    ofTrimmed ('@' :: (dots segs ++ (l ++ '(' :: (t ++ m)))) =
      .ok ⟨joinDots segs, positionals is, keywordsOf is⟩ := by
  have hd := hs.dropWhile_append (l ++ '(' :: (t ++ m))
  have hn := dottedName?_dots hs (endsName_layout hl (t ++ m))
  have hp : skipLayout (l ++ '(' :: (t ++ m)) = .ok ('(' :: (t ++ m)) :=
    skipLayout_head hl (by decide) (by decide)
  have ha := argumentList_spelled hstock ht m
  simp only [ofTrimmed, hd, hn, hp, ha, hm, bind, Except.bind, pure, Except.pure]

theorem trim_at_cons {c : Char} (hc : isBlank c = false) (u m : List Char) :
    trim ('@' :: u ++ c :: m) = '@' :: (u ++ c :: dropTail isBlank m) := by
  have hd : ('@' :: u ++ c :: m).dropWhile isBlank = '@' :: u ++ c :: m := by
    apply dropWhile_stop
    rintro _ ⟨rfl⟩
    decide
  rw [trim, hd, dropTail_append_cons hc]
  rfl

theorem ofTrimmed_spelled (hstock : ∀ v t, stock v t → Readable v t) {a : Annotation}
    (h : SpelledWhole stock a t) : ofTrimmed (trim t) = .ok a := by
  cases h with
  | @mk segs l t m is hs hl ht hm =>
    obtain ⟨u, rfl⟩ := ht.last_eq
    have he : '@' :: dots segs ++ l ++ '(' :: (u ++ [')']) ++ m =
        '@' :: (dots segs ++ l ++ '(' :: u) ++ ')' :: m := by simp
    have hd : '@' :: (dots segs ++ l ++ '(' :: u ++ ')' :: dropTail isBlank m) =
        '@' :: (dots segs ++ (l ++ '(' :: (u ++ [')'] ++ dropTail isBlank m))) := by simp
    rw [he, trim_at_cons (by decide), hd]
    exact ofTrimmed_parts hstock hs hl ht (skipLayout_dropTail hm)

end Wiring.Annotation
