import Wiring.Annotation.Reader

/-!
The written forms of annotations: what may stand between the parts of one, and how its names and
values are spelled.
-/

namespace Wiring.Annotation

open Wiring.Text

def IsSegment (s : List Char) : Prop :=
  ∃ c r, s = c :: r ∧ isNameStart c = true ∧ ∀ x ∈ r, isNamePart x = true

def IsDotted (segs : List (List Char)) : Prop := segs ≠ [] ∧ ∀ s ∈ segs, IsSegment s

def dots (segs : List (List Char)) : List Char := ['.'].intercalate segs

def Blank (w : List Char) : Prop := ∀ c ∈ w, isBlank c = true

inductive SpacedName : List Char → Prop where
  | segment {s : List Char} (hs : IsSegment s) : SpacedName s
  | dot {s v w t : List Char} (hs : IsSegment s) (hv : Blank v) (hw : Blank w)
      (ht : SpacedName t) : SpacedName (s ++ v ++ '.' :: w ++ t)

inductive Layout : List Char → Prop where
  | nil : Layout []
  | blank {c : Char} {l : List Char} (hc : isBlank c = true) (hl : Layout l) : Layout (c :: l)
  | line {body l : List Char} (hb : '\n' ∉ body) (hl : Layout l) :
      Layout ('/' :: '/' :: body ++ '\n' :: l)
  | block {body l : List Char} (hb : ¬ ['*', '/'] <:+: body) (hl : Layout l) :
      Layout ('/' :: '*' :: body ++ '*' :: '/' :: l)

def marks : List Char := ['"', '\'', ',', '(', ')', '[', ']', '{', '}', '/']

def escape (c : Char) : List Char := if c = '"' ∨ c = '\\' then ['\\', c] else [c]

def quoted (s : List Char) : List Char := '"' :: s.flatMap escape ++ ['"']

structure IsPlain (t : List Char) : Prop where
  head : ∃ c s, t = c :: s ∧ isBlank c = false
  last : ∃ s c, t = s ++ [c] ∧ isBlank c = false
  chars : ∀ c ∈ t, c ∉ marks ∧ c ≠ '='

structure IsLiteral (t : List Char) : Prop extends IsPlain t where
  no_name : String.ofList t ∈ keywords ∨ ¬ SpacedName t

mutual

inductive Written : Value → List Char → Prop where
  | string (s : List Char) : Written (.string (String.ofList s)) (quoted s)
  | classLiteral {segs : List (List Char)} (hs : IsDotted segs) :
      Written (.reference (joinDots segs) true) (dots segs ++ ".class".toList)
  | reference {segs : List (List Char)} (hs : IsDotted segs) (hk : joinDots segs ∉ keywords)
      (hc : 2 ≤ segs.length → segs.getLast? ≠ some "class".toList) :
      Written (.reference (joinDots segs) false) (dots segs)
  | literal {t : List Char} (ht : IsLiteral t) : Written (.literal (String.ofList t)) t
  | list {vs : List Value} {t : List Char} (ht : WrittenItems vs t) : Written (.list vs) ('{' :: t)

inductive WrittenItems : List Value → List Char → Prop where
  | nil {l : List Char} (hl : Layout l) : WrittenItems [] (l ++ ['}'])
  | last {v : Value} {l t m : List Char} (hl : Layout l) (ht : Written v t) (hm : Layout m) :
      WrittenItems [v] (l ++ t ++ m ++ ['}'])
  | cons {v : Value} {vs : List Value} {l t m s : List Char} (hl : Layout l) (ht : Written v t)
      (hm : Layout m) (hs : WrittenItems vs s) : WrittenItems (v :: vs) (l ++ t ++ m ++ ',' :: s)

end

abbrev Item := Option (List Char) × Value

def positionals (items : List Item) : List Value :=
  items.filterMap (fun p => if p.1.isNone then some p.2 else none)

def keywordsOf (items : List Item) : List (String × Value) :=
  items.filterMap (fun p => p.1.map (fun k => (String.ofList k, p.2)))

inductive WrittenItem : Item → List Char → Prop where
  | positional {v : Value} {t : List Char} (ht : Written v t) : WrittenItem (none, v) t
  | named {k w l t : List Char} {v : Value} (hk : IsSegment k) (hw : Blank w) (hl : Layout l)
      (ht : Written v t) : WrittenItem (some k, v) (k ++ w ++ '=' :: l ++ t)

inductive WrittenArguments : List Item → List Char → Prop where
  | last {i : Item} {l t m : List Char} (hl : Layout l) (ht : WrittenItem i t) (hm : Layout m) :
      WrittenArguments [i] (l ++ t ++ m ++ [')'])
  | cons {i : Item} {is : List Item} {l t m s : List Char} (hl : Layout l) (ht : WrittenItem i t)
      (hm : Layout m) (hs : WrittenArguments is s) :
      WrittenArguments (i :: is) (l ++ t ++ m ++ ',' :: s)

inductive WrittenArgumentList : List Item → List Char → Prop where
  | nil {l : List Char} (hl : Layout l) : WrittenArgumentList [] (l ++ [')'])
  | some {is : List Item} {t : List Char} (ht : WrittenArguments is t) : WrittenArgumentList is t

/-- Positional and named values may stand in any order; each group keeps its own. -/
inductive WrittenAnnotation : Annotation → List Char → Prop where
  | mk {segs : List (List Char)} {l t m : List Char} {is : List Item} (hs : IsDotted segs)
      (hl : Layout l) (ht : WrittenArgumentList is t) (hm : Layout m) :
      WrittenAnnotation ⟨joinDots segs, positionals is, keywordsOf is⟩
        ('@' :: dots segs ++ l ++ '(' :: t ++ m)

end Wiring.Annotation
