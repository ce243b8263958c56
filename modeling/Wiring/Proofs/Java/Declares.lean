import Wiring.Proofs.Java.Sites

namespace Wiring.Java.Site

open Construct
open Annotation (readable)

/-- What a construct declares: a named type itself, a field its variables, a constructor its
parameters, a method itself and then its parameters, and all else nothing. -/
inductive Declares (package : String) (s : Site) : List Declaration → Prop where
  | type {name : String} {as : List Annotation} (type : s.construct.IsNamedType name)
      (annotated : s.construct.Annotated as) :
      Declares package s [⟨.classType, name, package, name, "", as, [], [], s.construct.line⟩]
  | nameless {kind : TypeKind} (type : s.construct.kind = .type kind)
      (unnamed : s.construct.Says (InSlot .name) []) : Declares package s []
  | field {constant : Bool} {type : List Char} {as : List Annotation} {ds : List Declaration}
      (kind : s.construct.kind = .field constant) (typed : s.construct.Says (InSlot .type) type)
      (annotated : s.construct.Annotated as)
      (declarators : Picks (fun x d => x.slot = some .declarator ∧
        ∃ name, x.Says (InSlot .name) name ∧
          d = ⟨.field, s.className, package, String.ofList (TypeName.simple type),
            String.ofList name, as, [], [], s.construct.line⟩) s.construct.children ds) :
      Declares package s ds
  | constructor {as : List Annotation} {ps : List Parameter}
      (kind : s.construct.kind = .constructor) (annotated : s.construct.Annotated as)
      (parameters : s.construct.Parameters ps) :
      Declares package s (ps.map (fun p =>
        ⟨.constructorParameter, s.className, package, p.type, p.member, p.annotations, as, [],
          p.line⟩))
  | method {name type : List Char} {as : List Annotation} {ps : List Parameter}
      (kind : s.construct.kind = .method) (named : s.construct.Says (InSlot .name) name)
      (typed : s.construct.Says (InSlot .type) type) (annotated : s.construct.Annotated as)
      (parameters : s.construct.Parameters ps) :
      Declares package s (⟨.method, s.className, package, String.ofList (TypeName.simple type),
          String.ofList name, as, [], ps, s.construct.line⟩ ::
        ps.map (fun p =>
          ⟨.methodParameter, s.className, package, p.type, p.member, p.annotations, as, [],
            p.line⟩))
  | other (type : ∀ kind, s.construct.kind ≠ .type kind)
      (field : ∀ constant, s.construct.kind ≠ .field constant)
      (constructor : s.construct.kind ≠ .constructor) (method : s.construct.kind ≠ .method) :
      Declares package s []

def place? (s : Site) : Option Place :=
  match s.construct.kind with
  | .type kind => if s.construct.name = "" then none else some (.header (s.construct.header kind))
  | _ => s.construct.member?.map (.member s.className)

def declared (package : String) (s : Site) : List Declaration :=
  s.place?.toList.flatMap (Place.declared package)

theorem place?_of_not_type {s : Site} (h : s.construct.isType = false) :
    s.place? = s.construct.member?.map (.member s.className) := by
  unfold place?
  unfold Construct.isType at h
  split
  · simp_all
  · rfl

theorem picks_variableNames (n : Construct) {f : String → Declaration}
    {R : Construct → Declaration → Prop} (h : ∀ x d, R x d ↔ x.slot = some .declarator ∧
      ∃ name, x.Says (InSlot .name) name ∧ d = f (String.ofList name)) :
    Picks R n.children (n.variableNames.map f) := by
  rw [variableNames, List.map_map]
  apply picks_map_filter
  · intro x hx
    exact (h _ _).mpr ⟨by simpa using hx, _, says_child? x .name, rfl⟩
  · intro x hx d hd
    simp [((h _ _).mp hd).1] at hx

section Declared

variable {s : Site} {package : String}

theorem declared_of_type {kind : TypeKind} (h : s.construct.kind = .type kind) :
    s.declared package = if s.construct.name = "" then [] else
      [⟨.classType, s.construct.name, package, s.construct.name, "",
        readable s.construct.annotations, [], [], s.construct.line⟩] := by
  unfold declared place?
  rw [h]
  dsimp only
  split
  · rfl
  · rfl

theorem declared_of_field {constant : Bool} (h : s.construct.kind = .field constant) :
    s.declared package = s.construct.variableNames.map (fun name =>
      ⟨.field, s.className, package,
        String.ofList (TypeName.simple (textOf (s.construct.child? .type))), name,
        readable s.construct.annotations, [], [], s.construct.line⟩) := by
  simp [declared, place?, h, member?, Place.declared]

theorem declared_of_constructor (h : s.construct.kind = .constructor) :
    s.declared package = (s.construct.formals.map Formal.parameter).map
      (parameterDeclaration .constructorParameter package s.className
        (readable s.construct.annotations)) := by
  simp [declared, place?, h, member?, Place.declared]

theorem declared_of_method (h : s.construct.kind = .method) :
    s.declared package =
      ⟨.method, s.className, package,
        String.ofList (TypeName.simple (textOf (s.construct.child? .type))), s.construct.name,
        readable s.construct.annotations, [], s.construct.formals.map Formal.parameter,
        s.construct.line⟩ ::
      (s.construct.formals.map Formal.parameter).map
        (parameterDeclaration .methodParameter package s.className
          (readable s.construct.annotations)) := by
  simp [declared, place?, h, member?, Place.declared]

theorem declared_of_no_member (htype : s.construct.isType = false)
    (h : s.construct.member? = none) : s.declared package = [] := by
  rw [declared, place?_of_not_type htype, h]
  rfl

end Declared

theorem declares_declared (package : String) (s : Site) :
    s.Declares package (s.declared package) := by
  have hannotated := annotated_readable s.construct
  have htype := says_child? s.construct .type
  have hname := says_child? s.construct .name
  have hparameters := parameters_formals s.construct
  cases hk : s.construct.kind with
  | type kind =>
    rw [declared_of_type hk]
    split
    · next hempty =>
      refine .nameless hk ?_
      have hchars : textOf (s.construct.child? .name) = [] := by simpa [name] using hempty
      exact hchars ▸ hname
    · next hempty =>
      exact .type (isNamedType_iff.mpr ⟨isType_iff.mpr ⟨kind, hk⟩, hempty, rfl⟩) hannotated
  | field constant =>
    rw [declared_of_field hk]
    exact .field hk htype hannotated (picks_variableNames _ (fun _ _ => Iff.rfl))
  | constructor =>
    rw [declared_of_constructor hk]
    exact .constructor hk hannotated hparameters
  | method =>
    rw [declared_of_method hk]
    exact .method hk hname htype hannotated hparameters
  | _ =>
    rw [declared_of_no_member (by simp [isType, hk]) (by simp [member?, hk])]
    exact .other (by simp [hk]) (by simp [hk]) (by simp [hk]) (by simp [hk])

theorem Declares.className {root : Construct} {package : String} {s : Site} {ds : List Declaration}
    (h : s.Declares package ds) (hs : root.Reaches s) :
    ∀ d ∈ ds, d.package = package ∧ if d.kind = .classType then s.construct.IsNamedType d.className
      else ∃ t, root.IsOwner t s d.className := by
  intro d hd
  cases h with
  | type htype _ =>
    obtain rfl := List.mem_singleton.mp hd
    exact ⟨rfl, htype⟩
  | nameless _ _ => cases hd
  | field hk _ _ hvariables =>
    obtain ⟨x, -, -, name, -, rfl⟩ := hvariables.exists_of_mem hd
    exact ⟨rfl, hs.exists_owner (by simp [isType, hk])⟩
  | constructor hk _ _ =>
    obtain ⟨p, -, rfl⟩ := List.mem_map.mp hd
    exact ⟨rfl, hs.exists_owner (by simp [isType, hk])⟩
  | method hk _ _ _ _ =>
    have howner := hs.exists_owner (by simp [isType, hk])
    obtain rfl | hd := List.mem_cons.mp hd
    · exact ⟨rfl, howner⟩
    · obtain ⟨p, -, rfl⟩ := List.mem_map.mp hd
      exact ⟨rfl, howner⟩
  | other _ _ _ _ => cases hd

end Wiring.Java.Site
