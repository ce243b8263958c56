import Wiring.Annotation.Basic

namespace Wiring

inductive DeclarationKind where
  | classType
  | field
  | constructorParameter
  | methodParameter
  | method
  deriving DecidableEq, Repr

namespace DeclarationKind

def name : DeclarationKind → String
  | classType => "class"
  | field => "field"
  | constructorParameter => "constructor_parameter"
  | methodParameter => "method_parameter"
  | method => "method"

def all : List DeclarationKind :=
  [classType, field, constructorParameter, methodParameter, method]

def ofName? (s : String) : Option DeclarationKind := all.find? (fun k => k.name == s)

end DeclarationKind

structure Parameter where
  member : String
  type : String
  annotations : List Annotation
  line : Nat

structure Declaration where
  kind : DeclarationKind
  className : String
  package : String
  type : String
  member : String
  annotations : List Annotation
  owner : List Annotation
  parameters : List Parameter
  line : Nat

namespace Declaration

def has (d : Declaration) (k : Annotation.Kind) : Bool := d.annotations.any (fun a => a.kind == k)

def ownerHas (d : Declaration) (k : Annotation.Kind) : Bool := d.owner.any (fun a => a.kind == k)

end Declaration

end Wiring
