import Wiring.Proofs.Java.Places

/-!
Trees of whole Java texts as a grammar gives them, where every piece of text is a construct that
knows its lines, its slot in the construct around it and the constructs within it. The declarations
of a file are read off such a tree.
-/

namespace Wiring.Java

/-- A mark is an annotation. Constructs that the scan does not look for, such as comments, are of
another kind. -/
inductive ConstructKind where
  | type (kind : TypeKind)
  | field (constant : Bool)
  | constructor
  | method
  | formal
  | spread
  | declarator
  | modifiers
  | mark
  | enumDeclarations
  | package
  | identifier
  | other
  deriving DecidableEq, Repr

inductive Slot where
  | name
  | type
  | body
  | parameters
  | declarator
  deriving DecidableEq, Repr

/-- Punctuation and keywords have no name in the grammar. -/
structure Construct where
  kind : ConstructKind
  slot : Option Slot
  named : Bool
  text : List Char
  line : Nat
  lastLine : Nat
  children : List Construct

namespace Construct

def child? (s : Slot) (n : Construct) : Option Construct :=
  n.children.find? (fun x => x.slot = some s)

def namedChildren (n : Construct) : List Construct := n.children.filter named

def textOf (n : Option Construct) : List Char := n.elim [] text

def name (n : Construct) : String := String.ofList (textOf (n.child? .name))

def annotations (n : Construct) : List (List Char) :=
  (n.children.filter (fun m => m.kind = .modifiers)).flatMap (fun m =>
    (m.children.filter (fun a => a.kind = .mark)).map text)

def isFormal (n : Construct) : Bool := n.kind = .formal || n.kind = .spread

def formalType? (n : Construct) : Option Construct :=
  if n.kind = .spread then
    n.namedChildren.find? (fun x => x.kind ≠ .modifiers && x.kind ≠ .declarator)
  else n.child? .type

def formalName? (n : Construct) : Option Construct :=
  if n.kind = .spread then
    (n.namedChildren.filter (fun x => x.kind = .declarator)).getLast?.bind (child? .name)
  else n.child? .name

def formal (n : Construct) : Formal :=
  ⟨String.ofList (textOf n.formalName?), textOf n.formalType?, n.line, n.annotations⟩

def formals (n : Construct) : List Formal :=
  (n.child? .parameters).elim [] (fun ps => (ps.namedChildren.filter isFormal).map formal)

def variableNames (n : Construct) : List String :=
  (n.children.filter (fun x => x.slot = some .declarator)).map name

def member? (n : Construct) : Option Member :=
  match n.kind with
  | .field constant =>
    some (.field constant n.line n.annotations (textOf (n.child? .type)) n.variableNames)
  | .constructor => some (.constructor n.line n.annotations n.formals)
  | .method => some (.method n.line n.annotations (textOf (n.child? .type)) n.name n.formals)
  | _ => none

def isType (n : Construct) : Bool :=
  match n.kind with
  | .type _ => true
  | _ => false

def header (kind : TypeKind) (n : Construct) : Header := ⟨kind, n.name, n.line, n.annotations⟩

def opened (n : Construct) : List Construct :=
  if n.kind = .enumDeclarations then n.namedChildren else [n]

def members (n : Construct) : List Construct :=
  (n.child? .body).elim [] (fun b => b.namedChildren.flatMap opened)

theorem sizeOf_lt_of_mem_children {n x : Construct} (h : x ∈ n.children) : sizeOf x < sizeOf n := by
  have hlt := List.sizeOf_lt_of_mem h
  cases n
  simp only [mk.sizeOf_spec] at *
  omega

theorem mem_children_of_mem_namedChildren {n x : Construct} (h : x ∈ n.namedChildren) :
    x ∈ n.children := (List.mem_filter.mp h).1

theorem mem_children_of_child? {s : Slot} {n x : Construct} (h : n.child? s = some x) :
    x ∈ n.children := List.mem_of_find?_eq_some h

theorem mem_opened {n x : Construct} :
    x ∈ n.opened ↔ (n.kind = .enumDeclarations ∧ x ∈ n.namedChildren) ∨
      (n.kind ≠ .enumDeclarations ∧ x = n) := by
  unfold opened
  split <;> simp_all

theorem mem_members {n x : Construct} :
    x ∈ n.members ↔ ∃ b, n.child? .body = some b ∧ ∃ e ∈ b.namedChildren, x ∈ e.opened := by
  unfold members
  cases n.child? .body <;> simp

theorem sizeOf_lt_of_mem_members {n x : Construct} (h : x ∈ n.members) : sizeOf x < sizeOf n := by
  obtain ⟨b, hb, e, he, hx⟩ := mem_members.mp h
  have hbn := sizeOf_lt_of_mem_children (mem_children_of_child? hb)
  have heb := sizeOf_lt_of_mem_children (mem_children_of_mem_namedChildren he)
  obtain ⟨_, hx⟩ | ⟨_, rfl⟩ := mem_opened.mp hx
  · have hxe := sizeOf_lt_of_mem_children (mem_children_of_mem_namedChildren hx)
    omega
  · omega

def item? (n : Construct) : Option Item :=
  match n.kind with
  | .type kind => some (.type (n.header kind) (n.members.attach.filterMap (fun x => x.val.item?)))
  | _ => n.member?.map .member
termination_by sizeOf n
decreasing_by exact sizeOf_lt_of_mem_members x.property

theorem item?_of_type {n : Construct} {kind : TypeKind} (h : n.kind = .type kind) :
    n.item? = some (.type (n.header kind) (n.members.filterMap item?)) := by
  rw [item?, h]
  simp only [List.filterMap_subtype, List.unattach_attach]

theorem item?_of_not_type {n : Construct} (h : n.isType = false) :
    n.item? = n.member?.map .member := by
  rw [item?]
  unfold isType at h
  split
  · simp_all
  · rfl

def package (root : Construct) : List Char :=
  textOf (((root.namedChildren.filter (fun x => x.kind = .package)).flatMap namedChildren).find?
    (fun x => x.kind = .identifier))

def unit (damaged : Bool) (root : Construct) : Unit :=
  ⟨root.package, root.namedChildren.filterMap item?, damaged⟩

mutual

def Everywhere (p : Construct → Prop) : Construct → Prop
  | n@⟨_, _, _, _, _, _, children⟩ => p n ∧ EverywhereAll p children

def EverywhereAll (p : Construct → Prop) : List Construct → Prop
  | [] => True
  | x :: xs => x.Everywhere p ∧ EverywhereAll p xs

end

mutual

def decidableEverywhere {p : Construct → Prop} [DecidablePred p] :
    (n : Construct) → Decidable (n.Everywhere p)
  | ⟨_, _, _, _, _, _, children⟩ =>
    have := decidableEverywhereAll (p := p) children
    inferInstanceAs (Decidable (_ ∧ EverywhereAll p children))

def decidableEverywhereAll {p : Construct → Prop} [DecidablePred p] :
    (xs : List Construct) → Decidable (EverywhereAll p xs)
  | [] => inferInstanceAs (Decidable True)
  | x :: xs =>
    have := decidableEverywhere (p := p) x
    have := decidableEverywhereAll (p := p) xs
    inferInstanceAs (Decidable (x.Everywhere p ∧ EverywhereAll p xs))

end

instance {p : Construct → Prop} [DecidablePred p] : DecidablePred (Everywhere p) :=
  decidableEverywhere

theorem everywhereAll_iff {p : Construct → Prop} {xs : List Construct} :
    EverywhereAll p xs ↔ ∀ x ∈ xs, x.Everywhere p := by
  induction xs with
  | nil => simp [EverywhereAll]
  | cons x xs ih => simp [EverywhereAll, ih]

theorem everywhere_iff {p : Construct → Prop} {n : Construct} :
    n.Everywhere p ↔ p n ∧ ∀ x ∈ n.children, x.Everywhere p := by
  cases n
  rw [Everywhere, everywhereAll_iff]

structure InLine (n : Construct) : Prop where
  span : n.line ≤ n.lastLine
  within : ∀ x ∈ n.children, n.line ≤ x.line ∧ x.lastLine ≤ n.lastLine
  inOrder : n.children.Pairwise (fun x y => x.lastLine ≤ y.line)

instance : DecidablePred InLine := fun n =>
  decidable_of_iff (n.line ≤ n.lastLine ∧
    (∀ x ∈ n.children, n.line ≤ x.line ∧ x.lastLine ≤ n.lastLine) ∧
      n.children.Pairwise (fun x y => x.lastLine ≤ y.line))
    ⟨fun h => ⟨h.1, h.2.1, h.2.2⟩, fun h => ⟨h.1, h.2, h.3⟩⟩

def IsPlaced (n : Construct) : Prop := n.Everywhere InLine

def IsReadable (n : Construct) : Prop :=
  n.Everywhere (fun x => x.kind = .mark → Annotation.fault? x.text = none)

instance : DecidablePred IsPlaced := fun n => inferInstanceAs (Decidable (n.Everywhere InLine))

instance : DecidablePred IsReadable := fun n =>
  inferInstanceAs (Decidable (n.Everywhere (fun x => x.kind = .mark → _)))

end Construct

end Wiring.Java
