import Wiring.Proofs.Solid

/-!
The written form of a class type: segments with dots between them, each with annotations before its
name and type arguments after it, and array brackets at the end. White space stands wherever it may.
-/

namespace Wiring.TypeName

open Wiring.Text
open Annotation (Blank)

def delimiters : List Char := ['@', '<', '[', ']', '(', ')', '.']

/-- Letters, numbers, marks, currency signs and connectors of any script, and whatever else neither
is white space nor sets off a part. -/
def isIdentifierPart (c : Char) : Bool := !isBlank c && !delimiters.contains c

structure IsName (s : List Char) : Prop where
  ne_nil : s ≠ []
  parts : ∀ c ∈ s, isIdentifierPart c = true

instance (w : List Char) : Decidable (Blank w) :=
  decidable_of_iff (w.all isBlank = true) List.all_eq_true

instance (s : List Char) : Decidable (IsName s) :=
  decidable_of_iff (s ≠ [] ∧ s.all isIdentifierPart = true)
    ⟨fun h => ⟨h.1, List.all_eq_true.mp h.2⟩, fun h => ⟨h.1, List.all_eq_true.mpr h.2⟩⟩

def behindParen (x : List Char) : List Char :=
  match x.dropWhile (· ≠ ')') with
  | [] => []
  | _ :: rest => rest ++ [')']

structure TypeAnnotation where
  name : List Char
  gap : List Char
  arguments : Option (List Char)
  after : List Char

namespace TypeAnnotation

def text (a : TypeAnnotation) : List Char :=
  '@' :: a.name ++ a.gap ++ a.arguments.elim [] (fun x => '(' :: x ++ [')']) ++ a.after

/-- The name is a qualified one of words and `$`; any other mark in it would end the annotation. -/
structure WellFormed (a : TypeAnnotation) : Prop where
  name_ne_nil : a.name ≠ []
  name_marks : ∀ c ∈ a.name, isMark c = true
  gap : Blank a.gap
  after : Blank a.after

instance (a : TypeAnnotation) : Decidable a.WellFormed :=
  decidable_of_iff
    (a.name ≠ [] ∧ a.name.all isMark = true ∧ Blank a.gap ∧ Blank a.after)
    ⟨fun h => ⟨h.1, List.all_eq_true.mp h.2.1, h.2.2.1, h.2.2.2⟩,
      fun h => ⟨h.1, List.all_eq_true.mpr h.2, h.3, h.4⟩⟩

def IsFlat (a : TypeAnnotation) : Prop := ∀ x ∈ a.arguments, ')' ∉ x

instance (a : TypeAnnotation) : Decidable a.IsFlat :=
  inferInstanceAs (Decidable (∀ x ∈ a.arguments, ')' ∉ x))

def leftover (a : TypeAnnotation) : List Char := a.arguments.elim [] behindParen

/-- Nothing that is left of the arguments looks like an annotation or like type arguments. -/
structure IsClean (a : TypeAnnotation) : Prop where
  no_at : '@' ∉ a.leftover
  no_angle : '<' ∉ a.leftover

instance (a : TypeAnnotation) : Decidable a.IsClean :=
  decidable_of_iff ('@' ∉ a.leftover ∧ '<' ∉ a.leftover)
    ⟨fun h => ⟨h.1, h.2⟩, fun h => ⟨h.1, h.2⟩⟩

end TypeAnnotation

structure Segment where
  lead : List Char
  annotations : List TypeAnnotation
  name : List Char
  gap : List Char
  arguments : Option (List Char)
  after : List Char

namespace Segment

def front (s : Segment) : List Char :=
  s.lead ++ s.annotations.flatMap TypeAnnotation.text ++ s.name ++ s.gap

def text (s : Segment) : List Char :=
  s.front ++ s.arguments.elim [] (fun x => '<' :: x ++ ['>']) ++ s.after

/-- The last annotation, if it has no arguments, is set apart from the name of the segment. -/
structure WellFormed (s : Segment) : Prop where
  lead : Blank s.lead
  annotations : ∀ a ∈ s.annotations, a.WellFormed
  apart : ∀ a ∈ s.annotations.getLast?, a.arguments = none → a.gap ++ a.after ≠ []
  name : IsName s.name
  gap : Blank s.gap
  after : Blank s.after

instance (s : Segment) : Decidable s.WellFormed :=
  decidable_of_iff
    (Blank s.lead ∧ (∀ a ∈ s.annotations, a.WellFormed) ∧
      (∀ a ∈ s.annotations.getLast?, a.arguments = none → a.gap ++ a.after ≠ []) ∧
      IsName s.name ∧ Blank s.gap ∧ Blank s.after)
    ⟨fun h => ⟨h.1, h.2.1, h.2.2.1, h.2.2.2.1, h.2.2.2.2.1, h.2.2.2.2.2⟩,
      fun h => ⟨h.1, h.2, h.3, h.4, h.5, h.6⟩⟩

def IsClean (s : Segment) : Prop := ∀ a ∈ s.annotations, a.IsClean

instance (s : Segment) : Decidable s.IsClean :=
  inferInstanceAs (Decidable (∀ a ∈ s.annotations, a.IsClean))

end Segment

inductive Dimension where
  | brackets (annotations : List TypeAnnotation) (gap after : List Char)
  | ellipsis (after : List Char)

namespace Dimension

def text : Dimension → List Char
  | brackets as gap after => as.flatMap TypeAnnotation.text ++ '[' :: gap ++ ']' :: after
  | ellipsis after => '.' :: '.' :: '.' :: after

def annotations : Dimension → List TypeAnnotation
  | brackets as _ _ => as
  | ellipsis _ => []

def WellFormed : Dimension → Prop
  | brackets as gap after => (∀ a ∈ as, a.WellFormed) ∧ Blank gap ∧ Blank after
  | ellipsis after => Blank after

instance : (d : Dimension) → Decidable d.WellFormed
  | brackets as gap after =>
    inferInstanceAs (Decidable ((∀ a ∈ as, a.WellFormed) ∧ Blank gap ∧ Blank after))
  | ellipsis after => inferInstanceAs (Decidable (Blank after))

end Dimension

structure WrittenType where
  outer : List Segment
  last : Segment
  dimensions : List Dimension

namespace WrittenType

def text (t : WrittenType) : List Char :=
  t.outer.flatMap (fun s => s.text ++ ['.']) ++ t.last.text ++ t.dimensions.flatMap Dimension.text

structure WellFormed (t : WrittenType) : Prop where
  outer : ∀ s ∈ t.outer, s.WellFormed
  last : t.last.WellFormed
  dimensions : ∀ d ∈ t.dimensions, d.WellFormed

instance (t : WrittenType) : Decidable t.WellFormed :=
  decidable_of_iff ((∀ s ∈ t.outer, s.WellFormed) ∧ t.last.WellFormed ∧
    ∀ d ∈ t.dimensions, d.WellFormed) ⟨fun h => ⟨h.1, h.2.1, h.2.2⟩, fun h => ⟨h.1, h.2, h.3⟩⟩

end WrittenType

end Wiring.TypeName
