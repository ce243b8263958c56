import Wiring.Annotation.Reader
import Wiring.Classification
import Wiring.Java.Unit
import Wiring.TypeName

namespace Wiring.Java

open Annotation (Malformed)

inductive Finding where
  | declared (d : Declaration)
  | noticed (n : Notice)

namespace Finding

def declaration? : Finding → Option Declaration
  | declared d => some d
  | noticed _ => none

def notice? : Finding → Option Notice
  | declared _ => none
  | noticed n => some n

end Finding

def Formal.read (f : Formal) : Except Malformed Parameter := do
  let annotations ← Annotation.readAll f.annotations
  return ⟨f.name, String.ofList (TypeName.simple f.type), annotations, f.line⟩

def parameterDeclaration (kind : DeclarationKind) (package className : String)
    (owner : List Annotation) (p : Parameter) : Declaration :=
  ⟨kind, className, package, p.type, p.member, p.annotations, owner, [], p.line⟩

def Member.declarations (package className : String) :
    Member → Except Malformed (List Declaration)
  | .field _ line tokens type names => do
    let annotations ← Annotation.readAll tokens
    let type := String.ofList (TypeName.simple type)
    return names.map (fun name =>
      ⟨.field, className, package, type, name, annotations, [], [], line⟩)
  | .constructor _ tokens formals => do
    let owner ← Annotation.readAll tokens
    let parameters ← formals.mapM Formal.read
    return parameters.map (parameterDeclaration .constructorParameter package className owner)
  | .method line tokens type name formals => do
    let annotations ← Annotation.readAll tokens
    let parameters ← formals.mapM Formal.read
    let type := String.ofList (TypeName.simple type)
    return ⟨.method, className, package, type, name, annotations, [], parameters, line⟩ ::
      parameters.map (parameterDeclaration .methodParameter package className annotations)

def Member.findings (path package className : String) (m : Member) : List Finding :=
  match m.declarations package className with
  | .ok ds => ds.map .declared
  | .error cause => [.noticed (.skippedMember path m.line m.kind className cause)]

def Header.finding (path package : String) (h : Header) : Finding :=
  match Annotation.readAll h.annotations with
  | .ok annotations =>
    .declared ⟨.classType, h.name, package, h.name, "", annotations, [], [], h.line⟩
  | .error cause => .noticed (.skippedType path h.line h.name cause)

mutual

def Item.findings (path package className : String) : Item → List Finding
  | .member m => m.findings path package className
  | .type h body =>
    if h.name.isEmpty then [.noticed (.namelessType path h.line h.kind)]
    else h.finding path package :: findingsOfAll path package h.name body

def findingsOfAll (path package className : String) : List Item → List Finding
  | [] => []
  | i :: is => i.findings path package className ++ findingsOfAll path package className is

end

def Item.isType : Item → Bool
  | .member _ => false
  | .type .. => true

def Unit.findings (path package : String) (u : Unit) : List Finding :=
  findingsOfAll path package "" (u.items.filter Item.isType)

end Wiring.Java
