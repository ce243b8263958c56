import Wiring.Proofs.Annotation.Expressions
import Wiring.Proofs.Annotation.Outcomes
import Wiring.Proofs.Classification.Relations
import Wiring.Proofs.Solid

namespace Wiring.Annotation

open Wiring.Text

variable {s t r : List Char}

theorem isSegment_of_dotSegments (t : List Char) : ∀ seg ∈ (dotSegments t).1, IsSegment seg := by
  fun_induction dotSegments t with
  | case1 t _ => simp
  | case2 t seg r hd segs rest he ih =>
    rw [he] at ih
    intro x hx
    rcases List.mem_cons.mp hx with rfl | hx
    · exact (dotSegment?_eq_some hd).1
    · exact ih x hx

theorem isDotted_of_dottedName? {segs : List (List Char)} (h : dottedName? t = some (segs, r)) :
    IsDotted segs := by
  rw [dottedName?] at h
  split at h
  · cases h
  · next seg u hseg =>
    cases h
    constructor
    · exact List.cons_ne_nil _ _
    · intro x hx
      rcases List.mem_cons.mp hx with rfl | hx
      · exact (segment?_eq_some hseg).1
      · exact isSegment_of_dotSegments u x hx

theorem IsSegment.dot_notMem (hs : IsSegment s) : '.' ∉ s :=
  fun h => ne_mark_of_isNamePart (hs.isNamePart _ h) (by decide) rfl

theorem IsSegment.solid (hs : IsSegment s) : Solid (String.ofList s) := by
  apply solid_ofList
  · obtain ⟨c, u, rfl, _⟩ := hs
    exact List.cons_ne_nil _ _
  · intro c hc
    exact isBlank_of_isNamePart (hs.isNamePart c hc)

theorem lastSegment_dots (segs : List (List Char)) {seg : List Char} (hseg : '.' ∉ seg) :
    lastSegment (dots (segs ++ [seg])) = seg := by
  cases segs with
  | nil =>
    have hdots : dots ([] ++ [seg]) = seg := by simp [dots]
    rw [hdots, lastSegment_of_notMem hseg]
  | cons x segs =>
    have hdots : dots (x :: segs ++ [seg]) = dots (x :: segs) ++ '.' :: seg := by
      rw [List.cons_append, dots_cons, dots_cons, List.flatMap_append]
      simp
    rw [hdots, lastSegment_append hseg]

theorem IsDotted.simpleName_eq {segs : List (List Char)} (hs : IsDotted segs) :
    Text.simpleName (joinDots segs) = String.ofList (segs.getLast hs.1) := by
  have hlast := hs.2 _ (List.getLast_mem hs.1)
  have h := lastSegment_dots segs.dropLast hlast.dot_notMem
  rw [List.dropLast_append_getLast] at h
  rw [Text.simpleName, joinDots, String.toList_ofList]
  exact congrArg String.ofList h

theorem IsDotted.solid {segs : List (List Char)} (hs : IsDotted segs) :
    Solid (Text.simpleName (joinDots segs)) := by
  rw [hs.simpleName_eq]
  exact (hs.2 _ (List.getLast_mem hs.1)).solid

end Wiring.Annotation

namespace Wiring

open Wiring.Text

def Value.NamesClasses (v : Value) : Prop := ∀ x ∈ v.classNames, Solid x

theorem Value.namesClasses_list {vs : List Value} (h : ∀ v ∈ vs, v.NamesClasses) :
    (Value.list vs).NamesClasses := by
  intro x hx
  obtain ⟨v, hv, hx⟩ := Value.holdsClass_list.mp ((Value.mem_classNames _ x).mp hx)
  exact h v hv x ((Value.mem_classNames v x).mpr hx)

namespace Annotation

theorem namesClasses_classify (e : List Char) : (classify e).NamesClasses := by
  rw [classify]
  split
  · next segs hname =>
    have hsegs := isDotted_of_dottedName? hname
    split
    · next hclass =>
      have hlength : 2 ≤ segs.length := by simp at hclass; exact hclass.1
      have hdotted : IsDotted segs.dropLast := by
        constructor
        · intro hnil
          have hdrop := congrArg List.length hnil
          rw [List.length_dropLast, List.length_nil] at hdrop
          omega
        · exact fun x hx => hsegs.2 x ((List.dropLast_sublist segs).subset hx)
      intro x hx
      rw [Value.classNames, List.mem_singleton] at hx
      rw [hx]
      exact hdotted.solid
    · split
      · rintro x ⟨⟩
      · rintro x ⟨⟩
  · rintro x ⟨⟩

mutual

theorem namesClasses_value {s r : List Char} {v : Value} (h : readValue s = .ok (v, r)) :
    v.NamesClasses := by
  obtain ⟨c, u, hu, ⟨vs, -, hitems, rfl⟩ | ⟨x, -, -, rfl⟩ | ⟨-, hexpr⟩⟩ := readValue_cases h
  · have hle := skipLayout_le hu
    exact Value.namesClasses_list (namesClasses_items hitems)
  · rintro x ⟨⟩
  · obtain ⟨ps, -, -, rfl⟩ := readExpression_cases hexpr
    exact namesClasses_classify _
termination_by (s.length, 0)
decreasing_by
  rw [List.length_cons] at hle
  exact Prod.Lex.left _ _ (by omega)

theorem namesClasses_items {s r : List Char} {vs : List Value} (h : readItems s = .ok (vs, r)) :
    ∀ v ∈ vs, v.NamesClasses := by
  obtain ⟨c, u, hu, ⟨-, rfl, -⟩ | ⟨v, after, d, rest, hvalue, hrest, hnext⟩⟩ := readItems_cases h
  · simp
  · have hle := skipLayout_le hu
    have hv := namesClasses_value hvalue
    rcases hnext with ⟨-, rfl, -⟩ | ⟨ws, -, hitems, rfl⟩
    · simpa using hv
    · have hshorter : after.length < (c :: u).length := shorter_of_answer hvalue
      have hle' := skipLayout_le hrest
      have hws := namesClasses_items hitems
      exact List.forall_mem_cons.mpr ⟨hv, hws⟩
termination_by (s.length, 1)
decreasing_by
  · exact Prod.Lex.right' _ hle Nat.zero_lt_one
  · rw [List.length_cons] at hle'
    exact Prod.Lex.left _ _ (by omega)

end

def values (a : Annotation) : List Value := a.positional ++ a.named.map (·.2)

theorem Interleaves.mem_values {items : List Item} {a : Annotation} (hi : Interleaves items a)
    {v : Value} (hv : v ∈ a.values) : ∃ i ∈ items, i.2 = v := by
  rw [values, ← hi.positional, ← hi.named] at hv
  rcases List.mem_append.mp hv with hv | hv
  · obtain ⟨i, hm, he⟩ := List.mem_filterMap.mp hv
    split at he
    · exact ⟨i, hm, Option.some.inj he⟩
    · cases he
  · obtain ⟨p, hp, rfl⟩ := List.mem_map.mp hv
    obtain ⟨i, hm, he⟩ := List.mem_filterMap.mp hp
    obtain ⟨k, -, rfl⟩ := Option.map_eq_some_iff.mp he
    exact ⟨i, hm, rfl⟩

theorem namesClasses_argument {s r : List Char} {k : Option (List Char)} {v : Value}
    (h : readArgument s = .ok (k, v, r)) : v.NamesClasses := by
  obtain ⟨-, -, hv⟩ | ⟨key, u, -, -, hv⟩ := readArgument_cases h
  · exact namesClasses_value hv
  · exact namesClasses_value hv

theorem namesClasses_read {s : List Char} {a : Annotation} (h : read s = .ok a) :
    ∀ v ∈ a.values, v.NamesClasses := by
  intro v hv
  obtain ⟨items, hread, hi⟩ := read_items h
  obtain ⟨i, hm, rfl⟩ := hi.mem_values hv
  obtain ⟨u, t, ha⟩ := hread i hm
  exact namesClasses_argument ha

theorem keyword?_mem_values {a : Annotation} {key : String} {v : Value}
    (h : a.keyword? key = some v) : v ∈ a.values := by
  obtain ⟨p, hp, rfl⟩ := Option.map_eq_some_iff.mp h
  exact List.mem_append_right _ (List.mem_map_of_mem (List.mem_of_find?_eq_some hp))

theorem namesClasses_value? {a : Annotation} {v : Value} (ha : ∀ v ∈ a.values, v.NamesClasses)
    (h : a.value? = some v) : v.NamesClasses := by
  have hpositional : ∀ w ∈ a.positional, w.NamesClasses :=
    fun w hw => ha w (List.mem_append_left _ hw)
  rw [value?] at h
  split at h
  · exact ha v (keyword?_mem_values h)
  · next w hw =>
    cases h
    exact hpositional v (hw ▸ List.mem_singleton_self v)
  · cases h
    exact Value.namesClasses_list hpositional

end Annotation

end Wiring
