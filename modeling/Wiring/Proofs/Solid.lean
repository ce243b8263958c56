import Wiring.Java.Letter
import Wiring.Proofs.Annotation.Letters
import Wiring.Proofs.Runs
import Wiring.TypeName

namespace Wiring.Text

structure Solid (s : String) : Prop where
  ne_empty : s ≠ ""
  no_blank : ∀ c ∈ s.toList, isBlank c = false

theorem solid_ofList {s : List Char} (hne : s ≠ []) (h : ∀ c ∈ s, isBlank c = false) :
    Solid (String.ofList s) := by
  constructor
  · intro he
    apply hne
    rw [← String.toList_ofList (l := s), he]
    rfl
  · simpa using h

theorem mem_of_mem_lastSegment {c : Char} {s : List Char} (h : c ∈ lastSegment s) : c ∈ s :=
  List.mem_reverse.mp ((List.takeWhile_sublist _).subset (List.mem_reverse.mp h))

theorem lastSegment_append {s : List Char} (hs : '.' ∉ s) (t : List Char) :
    lastSegment (t ++ '.' :: s) = s := by
  have hstop : (s.reverse ++ '.' :: t.reverse).takeWhile (· ≠ '.') = s.reverse := by
    apply takeWhile_append_stop
    · intro c hc
      have hne : c ≠ '.' := ne_of_mem_of_not_mem (List.mem_reverse.mp hc) hs
      simpa using hne
    · simp
  have hr : (t ++ '.' :: s).reverse = s.reverse ++ '.' :: t.reverse := by simp
  rw [lastSegment, hr, hstop, List.reverse_reverse]

theorem lastSegment_of_notMem {s : List Char} (hs : '.' ∉ s) : lastSegment s = s := by
  have hall : s.reverse.takeWhile (· ≠ '.') = s.reverse := by
    have hrun := takeWhile_append_stop (p := (· ≠ '.')) (s := s.reverse) (r := []) ?_ (by simp)
    · simpa using hrun
    · intro c hc
      have hne : c ≠ '.' := ne_of_mem_of_not_mem (List.mem_reverse.mp hc) hs
      simpa using hne
  rw [lastSegment, hall, List.reverse_reverse]

end Wiring.Text

namespace Wiring.TypeName

open Wiring.Text

theorem mem_of_mem_dropBrackets {c : Char} {s : List Char} (h : c ∈ dropBrackets s) : c ∈ s := by
  fun_induction dropBrackets s with
  | case1 => exact h
  | case2 r ih => exact List.mem_cons_of_mem _ (List.mem_cons_of_mem _ (ih h))
  | case3 d r _ ih =>
    rcases List.mem_cons.mp h with rfl | h
    · exact List.mem_cons_self
    · exact List.mem_cons_of_mem _ (ih h)

theorem mem_of_mem_dropEllipsis {c : Char} {s : List Char} (h : c ∈ dropEllipsis s) : c ∈ s := by
  fun_induction dropEllipsis s with
  | case1 => exact h
  | case2 r ih =>
    exact List.mem_cons_of_mem _ (List.mem_cons_of_mem _ (List.mem_cons_of_mem _ (ih h)))
  | case3 d r _ ih =>
    rcases List.mem_cons.mp h with rfl | h
    · exact List.mem_cons_self
    · exact List.mem_cons_of_mem _ (ih h)

theorem isBlank_of_mem_simple {c : Char} {s : List Char} (h : c ∈ simple s) : isBlank c = false :=
  isBlank_of_mem_squeeze
    (mem_of_mem_dropBrackets (mem_of_mem_dropEllipsis (mem_of_mem_lastSegment h)))

end Wiring.TypeName

namespace Wiring.Java

open Wiring.Text

/-- A letter, and then letters, marks and digits. -/
def IsIdentifier (s : String) : Prop :=
  ∃ c r, s.toList = c :: r ∧ isLetter c = true ∧ ∀ x ∈ r, isLetterOrMark x = true

theorem isLetter_of_isBlank {c : Char} (h : isBlank c = true) :
    isLetter c = false ∧ isLetterOrMark c = false := by
  have hall : ∀ n ∈ codes blankRanges,
      isLetter (Char.ofNat n) = false ∧ isLetterOrMark (Char.ofNat n) = false := by decide +kernel
  have hc := hall c.toNat (mem_codes_of_within h)
  rwa [Char.ofNat_toNat] at hc

theorem IsIdentifier.solid {s : String} (h : IsIdentifier s) : Solid s := by
  obtain ⟨c, r, hs, hc, hr⟩ := h
  constructor
  · rintro rfl
    cases hs
  · rw [hs]
    intro x hx
    by_contra hb
    have hblank : isBlank x = true := by simpa using hb
    rcases List.mem_cons.mp hx with rfl | hx
    · exact absurd hc (by simp [(isLetter_of_isBlank hblank).1])
    · exact absurd (hr x hx) (by simp [(isLetter_of_isBlank hblank).2])

end Wiring.Java
