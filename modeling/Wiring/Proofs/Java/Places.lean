import Wiring.Source

namespace Wiring.Annotation

def fault? (token : List Char) : Option Malformed :=
  match read token with
  | .ok _ => none
  | .error cause => some cause

def readable (tokens : List (List Char)) : List Annotation :=
  tokens.filterMap (fun t => (read t).toOption)

theorem readAll_eq (tokens : List (List Char)) :
    readAll tokens = (tokens.findSome? fault?).elim (.ok (readable tokens)) .error := by
  induction tokens with
  | nil => rfl
  | cons t ts ih =>
    have hcons : readAll (t :: ts) = (read t >>= fun a => readAll ts >>= fun as => pure (a :: as)) :=
      List.mapM_cons
    rw [hcons, ih, List.findSome?_cons]
    cases ht : read t with
    | error cause => simp [fault?, ht, bind, Except.bind]
    | ok a =>
      have hr : readable (t :: ts) = a :: readable ts := by simp [readable, ht, Except.toOption]
      rw [hr]
      cases ts.findSome? fault? <;> simp [fault?, ht, bind, Except.bind, pure, Except.pure]

end Wiring.Annotation

namespace Wiring.Java

open Annotation (Malformed fault? readable readAll_eq)

namespace Formal

def parameter (f : Formal) : Parameter :=
  ⟨f.name, String.ofList (TypeName.simple f.type), readable f.annotations, f.line⟩

theorem mapM_read_eq (fs : List Formal) :
    fs.mapM Formal.read =
      ((fs.flatMap (·.annotations)).findSome? fault?).elim (.ok (fs.map parameter)) .error := by
  induction fs with
  | nil => rfl
  | cons f fs ih =>
    have hread : f.read = (f.annotations.findSome? fault?).elim (.ok f.parameter) .error := by
      rw [Formal.read, readAll_eq]
      cases f.annotations.findSome? fault? <;> rfl
    rw [List.mapM_cons, ih, hread, List.flatMap_cons, List.findSome?_append]
    cases f.annotations.findSome? fault? with
    | some cause => rfl
    | none => cases (fs.flatMap (·.annotations)).findSome? fault? <;> rfl

theorem readOwner_eq {α : Type} (ts : List (List Char)) (fs : List Formal)
    (f : List Annotation → List Parameter → α) :
    (do
      let owner ← Annotation.readAll ts
      let parameters ← fs.mapM Formal.read
      return f owner parameters) =
      ((ts ++ fs.flatMap (·.annotations)).findSome? fault?).elim
        (.ok (f (readable ts) (fs.map parameter))) .error := by
  rw [readAll_eq, mapM_read_eq, List.findSome?_append]
  cases ts.findSome? fault? with
  | some cause => rfl
  | none => cases (fs.flatMap (·.annotations)).findSome? fault? <;> rfl

end Formal

inductive Place where
  | header (h : Header)
  | member (className : String) (m : Member)
  deriving DecidableEq, Repr

namespace Place

def tokens : Place → List (List Char)
  | header h => h.annotations
  | member _ (.field _ _ ts _ _) => ts
  | member _ (.constructor _ ts fs) => ts ++ fs.flatMap (·.annotations)
  | member _ (.method _ ts _ _ fs) => ts ++ fs.flatMap (·.annotations)

def fault? (p : Place) : Option Malformed := p.tokens.findSome? Annotation.fault?

def isMalformed (p : Place) : Bool := p.fault?.isSome

def declared (package : String) : Place → List Declaration
  | header h => [⟨.classType, h.name, package, h.name, "", readable h.annotations, [], [], h.line⟩]
  | member c (.field _ line ts type names) =>
    names.map (fun name =>
      ⟨.field, c, package, String.ofList (TypeName.simple type), name, readable ts, [], [], line⟩)
  | member c (.constructor _ ts fs) =>
    (fs.map Formal.parameter).map (parameterDeclaration .constructorParameter package c (readable ts))
  | member c (.method line ts type name fs) =>
    ⟨.method, c, package, String.ofList (TypeName.simple type), name, readable ts, [],
      fs.map Formal.parameter, line⟩ ::
    (fs.map Formal.parameter).map (parameterDeclaration .methodParameter package c (readable ts))

def skip (path : String) (cause : Malformed) : Place → Notice
  | header h => .skippedType path h.line h.name cause
  | member c m => .skippedMember path m.line m.kind c cause

def findings (path package : String) : Place → List Finding
  | header h => [h.finding path package]
  | member c m => m.findings path package c

theorem declarations_member (package c : String) (m : Member) :
    m.declarations package c =
      (member c m).fault?.elim (.ok ((member c m).declared package)) .error := by
  cases m with
  | field constant line ts type names =>
    rw [Member.declarations, readAll_eq, fault?, tokens]
    cases ts.findSome? Annotation.fault? <;> rfl
  | constructor line ts fs => exact Formal.readOwner_eq ts fs _
  | method line ts type name fs => exact Formal.readOwner_eq ts fs _

theorem findings_eq (path package : String) (p : Place) :
    p.findings path package =
      p.fault?.elim ((p.declared package).map .declared) (fun cause => [.noticed (p.skip path cause)]) := by
  cases p with
  | header h =>
    rw [findings, Header.finding, readAll_eq, fault?, tokens]
    cases h.annotations.findSome? Annotation.fault? <;> rfl
  | member c m =>
    rw [findings, Member.findings, declarations_member]
    cases (member c m).fault? <;> rfl

theorem declarations_findings (path package : String) (p : Place) :
    (p.findings path package).filterMap Finding.declaration? =
      if p.isMalformed then [] else p.declared package := by
  rw [findings_eq, isMalformed]
  cases p.fault? with
  | some cause => rfl
  | none => simp [List.filterMap_map, Function.comp_def, Finding.declaration?]

theorem notices_findings (path package : String) (p : Place) :
    (p.findings path package).filterMap Finding.notice? =
      (p.fault?.map (fun cause => p.skip path cause)).toList := by
  rw [findings_eq]
  cases p.fault? with
  | some cause => rfl
  | none => simp [List.filterMap_map, Function.comp_def, Finding.notice?]

end Place

mutual

def Item.places (className : String) : Item → List Place
  | .member m => [.member className m]
  | .type h body => if h.name = "" then [] else .header h :: placesOfAll h.name body

def placesOfAll (className : String) : List Item → List Place
  | [] => []
  | i :: is => i.places className ++ placesOfAll className is

end

def Unit.places (u : Unit) : List Place := placesOfAll "" (u.items.filter Item.isType)

section Views

variable {α : Type} (view : Finding → Option α) (path package : String)

mutual

theorem filterMap_findings
    (hview : ∀ line kind, view (.noticed (.namelessType path line kind)) = none)
    (className : String) (i : Item) :
    (i.findings path package className).filterMap view =
      (i.places className).flatMap (fun p => (p.findings path package).filterMap view) := by
  cases i with
  | member m => simp [Item.findings, Item.places, Place.findings]
  | type h body =>
    rw [Item.findings, Item.places]
    by_cases hn : h.name = ""
    · simp [hn, hview]
    · have hne : ¬ h.name.isEmpty = true := by simpa using hn
      rw [if_neg hn, if_neg hne, List.flatMap_cons, ← filterMap_findingsOfAll hview h.name body,
        Place.findings, ← List.filterMap_append]
      rfl

theorem filterMap_findingsOfAll
    (hview : ∀ line kind, view (.noticed (.namelessType path line kind)) = none)
    (className : String) (is : List Item) :
    (findingsOfAll path package className is).filterMap view =
      (placesOfAll className is).flatMap (fun p => (p.findings path package).filterMap view) := by
  cases is with
  | nil => rfl
  | cons i is =>
    rw [findingsOfAll, placesOfAll, List.filterMap_append, List.flatMap_append,
      filterMap_findings hview className i, filterMap_findingsOfAll hview className is]

end

end Views

end Wiring.Java
