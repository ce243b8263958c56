import Wiring.Proofs.Annotation.Layout
import Wiring.Proofs.Runs

namespace Wiring.Annotation

open Wiring.Text

variable {s r : List Char}

theorem isSegment_of_all {c : Char} (hc : isNameStart c = true) (hs : s.all isNamePart = true) :
    IsSegment (c :: s) := ⟨c, s, rfl, hc, List.all_eq_true.mp hs⟩

theorem IsSegment.isNamePart (hs : IsSegment s) : ∀ c ∈ s, isNamePart c = true := by
  obtain ⟨c, t, rfl, hc, ht⟩ := hs
  rintro x (_ | ⟨_, hx⟩)
  · exact isNamePart_of_isNameStart hc
  · exact ht x hx

theorem IsSegment.head_notBlank (hs : IsSegment s) (t : List Char) :
    ∀ c ∈ (s ++ t).head?, isBlank c = false := by
  obtain ⟨c, s, rfl, hc, _⟩ := hs
  rintro _ ⟨rfl⟩
  exact isBlank_of_isNamePart (isNamePart_of_isNameStart hc)

theorem segment?_append (hs : IsSegment s) (hr : ∀ c ∈ r.head?, isNamePart c = false) :
    segment? (s ++ r) = some (s, r) := by
  obtain ⟨c, t, rfl, hc, ht⟩ := hs
  rw [List.cons_append, segment?, if_pos hc, takeWhile_append_stop ht hr,
    dropWhile_append_stop ht hr]

theorem segment?_eq_some {t seg : List Char} (h : segment? t = some (seg, r)) :
    IsSegment seg ∧ t = seg ++ r := by
  cases t with
  | nil => cases h
  | cons c t =>
    rw [segment?] at h
    split at h
    · next hc =>
      cases h
      refine ⟨⟨c, _, rfl, hc, ?_⟩, ?_⟩
      · exact fun x hx => List.all_eq_true.mp List.all_takeWhile x hx
      · rw [List.cons_append, List.takeWhile_append_dropWhile]
    · cases h

theorem segment?_of_head {c : Char} (hc : isNameStart c = false) : segment? (c :: r) = none := by
  simp [segment?, hc]

structure EndsName (r : List Char) : Prop where
  no_part : ∀ c ∈ r.head?, isNamePart c = false
  no_dot : ∀ t, r.dropWhile isBlank ≠ '.' :: t

theorem endsName_nil : EndsName [] := by
  constructor
  · simp
  · simp

theorem dotSegment?_append (hs : IsSegment s) (hr : ∀ c ∈ r.head?, isNamePart c = false) :
    dotSegment? ('.' :: (s ++ r)) = some (s, r) := by
  have hd : ('.' :: (s ++ r)).dropWhile isBlank = '.' :: (s ++ r) := by
    apply dropWhile_stop
    rintro _ ⟨rfl⟩
    decide
  rw [dotSegment?, hd]
  show segment? ((s ++ r).dropWhile isBlank) = some (s, r)
  rw [dropWhile_stop (hs.head_notBlank r), segment?_append hs hr]

theorem dotSegment?_eq_some {t seg : List Char} (h : dotSegment? t = some (seg, r)) :
    IsSegment seg ∧ ∃ v w, Blank v ∧ Blank w ∧ t = v ++ '.' :: w ++ (seg ++ r) := by
  have hblank (u : List Char) : Blank (u.takeWhile isBlank) :=
    fun x hx => List.all_eq_true.mp List.all_takeWhile x hx
  rw [dotSegment?] at h
  split at h
  · next u hu =>
    obtain ⟨hs, he⟩ := segment?_eq_some h
    refine ⟨hs, t.takeWhile isBlank, u.takeWhile isBlank, hblank t, hblank u, ?_⟩
    have ht := List.takeWhile_append_dropWhile (p := isBlank) (l := t)
    rw [← he, List.append_assoc, List.cons_append, List.takeWhile_append_dropWhile, ← hu, ht]
  · cases h

theorem dotSegment?_of_endsName (h : EndsName r) : dotSegment? r = none := by
  rw [dotSegment?]
  split
  · next u hu => exact absurd hu (h.no_dot u)
  · rfl

theorem EndsName.no_part_dots (hr : EndsName r) (segs : List (List Char)) :
    ∀ c ∈ (segs.flatMap ('.' :: ·) ++ r).head?, isNamePart c = false := by
  cases segs with
  | nil => exact hr.no_part
  | cons s segs =>
    rintro _ ⟨rfl⟩
    decide

theorem dotSegments_append {segs : List (List Char)} (hs : ∀ s ∈ segs, IsSegment s)
    (hr : EndsName r) : dotSegments (segs.flatMap ('.' :: ·) ++ r) = (segs, r) := by
  induction segs with
  | nil =>
    rw [List.flatMap_nil, List.nil_append, dotSegments]
    split
    · rfl
    · next he => rw [dotSegment?_of_endsName hr] at he; cases he
  | cons s segs ih =>
    have hd := dotSegment?_append (hs s List.mem_cons_self) (hr.no_part_dots segs)
    rw [List.flatMap_cons, List.append_assoc, List.cons_append, dotSegments]
    split
    · next he => rw [hd] at he; cases he
    · next seg u he =>
      rw [hd] at he
      cases he
      rw [ih (fun s h => hs s (List.mem_cons_of_mem _ h))]

theorem dots_cons (s : List Char) (segs : List (List Char)) :
    dots (s :: segs) = s ++ segs.flatMap ('.' :: ·) := by
  induction segs generalizing s with
  | nil => simp [dots]
  | cons t segs ih =>
    have h : dots (s :: t :: segs) = s ++ '.' :: dots (t :: segs) := by simp [dots]
    rw [h, ih, List.flatMap_cons, List.cons_append]

theorem dottedName?_dots {segs : List (List Char)} (hs : IsDotted segs) (hr : EndsName r) :
    dottedName? (dots segs ++ r) = some (segs, r) := by
  obtain ⟨hne, hs⟩ := hs
  obtain ⟨s, segs, rfl⟩ := List.exists_cons_of_ne_nil hne
  have hseg := segment?_append (hs s List.mem_cons_self) (hr.no_part_dots segs)
  rw [dots_cons, List.append_assoc, dottedName?, hseg]
  simp only [dotSegments_append (fun s h => hs s (List.mem_cons_of_mem _ h)) hr]

theorem spacedName_of_dotSegments {t : List Char} (h : (dotSegments t).2 = []) (hs : IsSegment s) :
    SpacedName (s ++ t) := by
  fun_induction dotSegments t generalizing s with
  | case1 t _ =>
    cases h
    rw [List.append_nil]
    exact .segment hs
  | case2 t seg r hd segs rest he ih =>
    obtain ⟨hseg, v, w, hv, hw, rfl⟩ := dotSegment?_eq_some hd
    rw [he] at ih
    have hn := SpacedName.dot hs hv hw (ih h hseg)
    simpa only [List.append_assoc, List.cons_append] using hn

theorem spacedName_of_dottedName? {t : List Char} {segs : List (List Char)}
    (h : dottedName? t = some (segs, [])) : SpacedName t := by
  rw [dottedName?] at h
  split at h
  · cases h
  · next seg r hseg =>
    obtain ⟨hs, rfl⟩ := segment?_eq_some hseg
    have hr : (dotSegments r).2 = [] := by
      injection h with h
      exact congrArg Prod.snd h
    exact spacedName_of_dotSegments hr hs

end Wiring.Annotation
