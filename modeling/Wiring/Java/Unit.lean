/-!
The declarations of a Java source file as a tree. Annotations and types are kept as they are
written.
-/

namespace Wiring.Java

inductive TypeKind where
  | classType
  | interface
  | enum
  | record
  deriving DecidableEq, Repr

def TypeKind.name : TypeKind → String
  | classType => "class_declaration"
  | interface => "interface_declaration"
  | enum => "enum_declaration"
  | record => "record_declaration"

structure Header where
  kind : TypeKind
  name : String
  line : Nat
  annotations : List (List Char)
  deriving DecidableEq, Repr

structure Formal where
  name : String
  type : List Char
  line : Nat
  annotations : List (List Char)
  deriving DecidableEq, Repr

inductive MemberKind where
  | field
  | constant
  | constructor
  | method
  deriving DecidableEq, Repr

def MemberKind.name : MemberKind → String
  | field => "field_declaration"
  | constant => "constant_declaration"
  | constructor => "constructor_declaration"
  | method => "method_declaration"

/-- A field has a name for each variable it declares; constants are the fields of interfaces. -/
inductive Member where
  | field (constant : Bool) (line : Nat) (annotations : List (List Char)) (type : List Char)
      (names : List String)
  | constructor (line : Nat) (annotations : List (List Char)) (formals : List Formal)
  | method (line : Nat) (annotations : List (List Char)) (type : List Char) (name : String)
      (formals : List Formal)
  deriving DecidableEq, Repr

namespace Member

def kind : Member → MemberKind
  | field true .. => .constant
  | field false .. => .field
  | constructor .. => .constructor
  | method .. => .method

def line : Member → Nat
  | field _ n .. => n
  | constructor n .. => n
  | method n .. => n

end Member

inductive Item where
  | member (m : Member)
  | type (header : Header) (body : List Item)

structure Unit where
  package : List Char
  items : List Item
  damaged : Bool

end Wiring.Java
