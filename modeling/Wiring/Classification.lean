import Wiring.Config
import Wiring.Declaration
import Wiring.Entity
import Wiring.Notice

namespace Wiring

namespace Value

mutual

def classNames : Value → List String
  | .reference name true => [Text.simpleName name]
  | .list items => classNamesAll items
  | _ => []

def classNamesAll : List Value → List String
  | [] => []
  | v :: vs => v.classNames ++ classNamesAll vs

end

def string? : Value → Option String
  | .string s => some s
  | _ => none

def strings : Value → List String
  | .string s => [s]
  | .list items => items.filterMap string?
  | _ => []

def isGiven : Value → Bool
  | .list [] => false
  | _ => true

end Value

namespace Annotation

def beanName? (a : Annotation) : Option String :=
  match (a.value?.elim [] Value.strings).head? with
  | some s => some s
  | none => ((a.keyword? "name").elim [] Value.strings).head?

def scanKeys : List String := ["value", "basePackages", "basePackageClasses"]

def hasScanArguments (a : Annotation) : Bool :=
  if a.positional.isEmpty then a.named.any (fun p => scanKeys.contains p.1)
  else a.positional.any Value.isGiven

def scanClasses (a : Annotation) : List String :=
  (a.keyword? "basePackageClasses").elim [] Value.classNames

/-- The packages to scan for an annotation on the given class, each once. Of all classes only
that class has a known package. Without arguments its package is meant. -/
def scanPackages (a : Annotation) (className package : String) : List String :=
  let named := a.value?.elim [] Value.strings ++
    (a.keyword? "basePackages").elim [] Value.strings
  let own := a.scanClasses.filter (· == className)
  let found := (named ++ own.map (fun _ => package)).eraseDups
  if found.isEmpty && !a.hasScanArguments then [package] else found

end Annotation

namespace Declaration

open Annotation

def stereotypes (c : Config) (d : Declaration) : List Stereotype :=
  d.annotations.filterMap (fun a => c.stereotypes.get? a.simpleName)

def annotationEntities (d : Declaration) (a : Annotation) : List Entity :=
  match a.kind with
  | .classImport => (a.value?.elim [] Value.classNames).map (.classImport d.className)
  | .componentScan => (a.scanPackages d.className d.package).map (.scan d.className)
  | .springBootApplication => [.scan d.className d.package]
  | _ => []

def classEntities (c : Config) (d : Declaration) : List Entity :=
  (if d.has .configuration then [.configuration d.className d.package] else []) ++
  ((Stereotype.mostSpecific? (d.stereotypes c)).toList.map
    (fun s => .component d.className s d.package)) ++
  d.annotations.flatMap d.annotationEntities

def beanAnnotation? (d : Declaration) : Option Annotation :=
  d.annotations.find? (fun a => a.kind == .bean)

def hasProduct (d : Declaration) : Bool := !d.type.isEmpty && d.type != "void"

def methodEntities (d : Declaration) : List Entity :=
  match d.beanAnnotation? with
  | none => []
  | some a =>
    if d.hasProduct then
      let typed := d.parameters.filter (fun p => !p.type.isEmpty)
      let named := (a.beanName?.filter (fun n => !n.isEmpty)).getD d.member
      .bean d.className d.type d.member named (typed.map (·.type)) ::
        typed.map (fun p => .autowired d.type p.type true p.member)
    else []

theorem methodEntities_eq (d : Declaration) :
    d.methodEntities = (d.beanAnnotation?.map Annotation.beanName?).elim [] (fun name =>
      if d.hasProduct then
        .bean d.className d.type d.member ((name.filter (fun n => !n.isEmpty)).getD d.member)
            ((d.parameters.filter (fun p => !p.type.isEmpty)).map (·.type)) ::
          (d.parameters.filter (fun p => !p.type.isEmpty)).map
            (fun p => .autowired d.type p.type true p.member)
      else []) := by
  unfold methodEntities
  cases d.beanAnnotation? with
  | none => rfl
  | some a => rfl

def autowiredHere (d : Declaration) : Bool := d.has .autowired || d.ownerHas .autowired

def dependency (d : Declaration) (byConstructor : Bool) : List Entity :=
  if d.type.isEmpty then [] else [.autowired d.className d.type byConstructor d.member]

def entities (c : Config) (d : Declaration) : List Entity :=
  match d.kind with
  | .classType => d.classEntities c
  | .method => d.methodEntities
  | .field => if d.has .autowired then d.dependency false else []
  | .constructorParameter => if d.autowiredHere then d.dependency true else []
  | .methodParameter =>
    if d.ownerHas .bean then [] else if d.autowiredHere then d.dependency false else []

def notices (d : Declaration) : List Notice :=
  match d.kind with
  | .classType =>
    d.annotations.flatMap (fun a =>
      if a.kind == .componentScan then
        (a.scanClasses.filter (· != d.className)).map (.unknownScanClass · d.className)
      else [])
  | .method =>
    if d.has .bean && !d.hasProduct then [.noReturnType d.className d.member] else []
  | _ => []

end Declaration

end Wiring
