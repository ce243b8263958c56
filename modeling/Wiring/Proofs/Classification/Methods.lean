import Wiring.Proofs.Classification.Relations
import Wiring.Proofs.Java.Places

namespace Wiring

open Java (parameterDeclaration)
open Annotation (readAll_eq isBean_iff isAutowired_iff)

namespace Declaration

section Method

variable {d : Declaration}

theorem methodEntities_of_bean (hb : d.has .bean = true) (ht : d.hasProduct = true) :
    ∃ a ∈ d.annotations, a.kind = .bean ∧ d.methodEntities =
      .bean d.className d.type d.member ((a.beanName?.filter (fun n => !n.isEmpty)).getD d.member)
          ((d.parameters.filter (fun p => p.type ≠ "")).map (·.type)) ::
        (d.parameters.filter (fun p => p.type ≠ "")).map
          (fun p => .autowired d.type p.type true p.member) := by
  obtain ⟨a, ha⟩ := Option.isSome_iff_exists.mp (beanAnnotation?_isSome.mpr (has_iff.mp hb))
  have hkind : a.kind = .bean := by simpa using List.find?_some ha
  have htyped : (fun p : Parameter => !p.type.isEmpty) =
      (fun p : Parameter => decide (p.type ≠ "")) := by
    funext p
    rw [Bool.eq_iff_iff]
    simp
  refine ⟨a, List.mem_of_find?_eq_some ha, hkind, ?_⟩
  simp only [methodEntities, ha, if_pos ht, htyped]

theorem methodEntities_of_not_hasProduct (ht : ¬ d.hasProduct = true) : d.methodEntities = [] := by
  unfold methodEntities
  split
  · rfl
  · rw [if_neg ht]

theorem methodEntities_of_not_bean (hb : ¬ d.has .bean = true) : d.methodEntities = [] := by
  have hnone : d.beanAnnotation? = none := by
    rw [← Option.not_isSome_iff_eq_none, beanAnnotation?_isSome, ← has_iff]
    exact hb
  rw [methodEntities, hnone]

end Method

section Parameters

variable (c : Config) (package className : String) (owner : List Annotation)

theorem entities_of_methodParameter {d : Declaration} (hd : d.kind = .methodParameter) :
    d.entities c =
      if d.ownerHas .bean then [] else if d.autowiredHere then d.dependency false else [] := by
  rw [entities, hd]

theorem entities_methodParameter_of_bean (hb : ∃ a ∈ owner, a.kind = .bean) (p : Parameter) :
    (parameterDeclaration .methodParameter package className owner p).entities c = [] := by
  rw [entities_of_methodParameter c rfl]
  exact if_pos (ownerHas_iff.mpr hb)

theorem entities_methodParameter (hb : ∀ a ∈ owner, a.kind ≠ .bean) (p : Parameter) :
    (parameterDeclaration .methodParameter package className owner p).entities c =
      if p.type ≠ "" ∧ ∃ a ∈ p.annotations ++ owner, a.kind = .autowired then
        [.autowired className p.type false p.member]
      else [] := by
  let d := parameterDeclaration .methodParameter package className owner p
  have howner : ¬ d.ownerHas .bean = true := by
    rw [ownerHas_iff]
    rintro ⟨a, ha, hk⟩
    exact hb a ha hk
  have hhere : d.autowiredHere = true ↔ ∃ a ∈ p.annotations ++ owner, a.kind = .autowired := by
    rw [autowiredHere_iff]
    simp only [List.mem_append]
    rfl
  show d.entities c = _
  rw [entities_of_methodParameter c rfl, if_neg howner]
  by_cases ht : p.type = ""
  · have hnone : d.dependency false = [] := if_pos (String.isEmpty_iff.mpr ht)
    simp [hnone, ht]
  · have hone : d.dependency false = [.autowired className p.type false p.member] :=
      if_neg (mt String.isEmpty_iff.mp ht)
    simp only [hone, hhere, ne_eq, ht, not_false_eq_true, true_and]

theorem entities_methodParameters (hb : ∀ a ∈ owner, a.kind ≠ .bean) (ps : List Parameter) :
    (ps.map (parameterDeclaration .methodParameter package className owner)).flatMap
        (Declaration.entities c) =
      (ps.filter (fun p => p.type ≠ "" ∧ ∃ a ∈ p.annotations ++ owner, a.kind = .autowired)).map
        (fun p => .autowired className p.type false p.member) := by
  induction ps with
  | nil => rfl
  | cons p ps ih =>
    rw [List.map_cons, List.flatMap_cons, ih, entities_methodParameter c package className owner hb,
      List.filter_cons]
    split
    · next h => rw [if_pos (decide_eq_true h)]; rfl
    · next h => rw [if_neg (by simpa using h)]; rfl

end Parameters

end Declaration

namespace Java

open Declaration

theorem declarations_method {package className name : String} {line : Nat}
    {tokens : List (List Char)} {type : List Char} {formals : List Formal} {ds : List Declaration}
    (h : (Member.method line tokens type name formals).declarations package className = .ok ds) :
    ∃ marks parameters, Annotation.readAll tokens = .ok marks ∧
      formals.mapM Formal.read = .ok parameters ∧
      ds = ⟨.method, className, package, String.ofList (TypeName.simple type), name, marks, [],
          parameters, line⟩ ::
        parameters.map (parameterDeclaration .methodParameter package className marks) := by
  rw [Member.declarations] at h
  cases hm : Annotation.readAll tokens with
  | error cause => rw [hm] at h; cases h
  | ok marks =>
    cases hp : formals.mapM Formal.read with
    | error cause => rw [hm, hp] at h; cases h
    | ok parameters =>
      rw [hm, hp] at h
      cases h
      exact ⟨marks, parameters, rfl, rfl, rfl⟩

/-- A method that makes a bean is reported with one dependency of the bean for each parameter that
has a type. Of any other method the parameters that are to be wired are reported, as dependencies of
its class. -/
theorem entities_method (c : Config) {package className name : String} {line : Nat}
    {tokens : List (List Char)} {type : List Char} {formals : List Formal} {ds : List Declaration}
    (h : (Member.method line tokens type name formals).declarations package className = .ok ds) :
    ∃ marks parameters, Annotation.readAll tokens = .ok marks ∧
      formals.mapM Formal.read = .ok parameters ∧
      let product := String.ofList (TypeName.simple type)
      let typed := parameters.filter (fun p => p.type ≠ "")
      let found := ds.flatMap (Declaration.entities c)
      ((∃ a ∈ marks, a.simpleName = "Bean") → product ≠ "" → product ≠ "void" →
          ∃ a ∈ marks, a.simpleName = "Bean" ∧ found =
            .bean className product name ((a.beanName?.filter (fun n => !n.isEmpty)).getD name)
                (typed.map (·.type)) ::
              typed.map (fun p => .autowired product p.type true p.member)) ∧
        ((∃ a ∈ marks, a.simpleName = "Bean") → product = "" ∨ product = "void" → found = []) ∧
        ((∀ a ∈ marks, a.simpleName ≠ "Bean") → found =
          (typed.filter (fun p => ∃ a ∈ p.annotations ++ marks, a.simpleName = "Autowired")).map
            (fun p => .autowired className p.type false p.member)) := by
  obtain ⟨marks, parameters, hmarks, hparameters, rfl⟩ := declarations_method h
  refine ⟨marks, parameters, hmarks, hparameters, ?_⟩
  intro product typed found
  simp only [← isBean_iff, ← isAutowired_iff, ne_eq]
  let d : Declaration :=
    ⟨.method, className, package, product, name, marks, [], parameters, line⟩
  have hfound : found = d.methodEntities ++ (parameters.map
      (parameterDeclaration .methodParameter package className marks)).flatMap
        (Declaration.entities c) := List.flatMap_cons
  have hsilent : (∃ a ∈ marks, a.kind = .bean) → found = d.methodEntities := by
    intro hb
    have hnil : (parameters.map (parameterDeclaration .methodParameter package className
        marks)).flatMap (Declaration.entities c) = [] := by
      rw [List.flatMap_map, List.flatMap_eq_nil_iff]
      intro p _
      exact entities_methodParameter_of_bean c package className marks hb p
    rw [hfound, hnil, List.append_nil]
  refine ⟨?_, ?_, ?_⟩
  · intro hb hne hvoid
    rw [hsilent hb]
    exact methodEntities_of_bean (has_iff.mpr hb) ((hasProduct_iff (d := d)).mpr ⟨hne, hvoid⟩)
  · intro hb hnone
    rw [hsilent hb]
    apply methodEntities_of_not_hasProduct
    rw [hasProduct_iff]
    tauto
  · intro hb
    have hmethod : d.methodEntities = [] := by
      apply methodEntities_of_not_bean
      rw [has_iff]
      rintro ⟨a, ha, hk⟩
      exact hb a ha hk
    rw [hfound, hmethod, List.nil_append, entities_methodParameters c package className marks hb,
      List.filter_filter]
    congr 2
    funext p
    simp [Bool.and_comm]

theorem entities_method_setter :
    let formals : List Formal :=
      [⟨"a", "p.Dep".toList, 2, ["@Lazy".toList]⟩, ⟨"b", "List<B>".toList, 3, []⟩]
    let setter : Member := .method 2 ["@Autowired".toList] "void".toList "wire" formals
    ∃ ds, setter.declarations "q" "Garage" = .ok ds ∧ ds.flatMap (Declaration.entities .default) =
      [.autowired "Garage" "Dep" false "a", .autowired "Garage" "List" false "b"] := by
  intro formals setter
  have hread : (Place.member "Garage" setter).fault? = none :=
    Option.isNone_iff_eq_none.mp (by decide +kernel)
  have hds : setter.declarations "q" "Garage" = .ok ((Place.member "Garage" setter).declared "q") := by
    rw [Place.declarations_member, hread]
    rfl
  refine ⟨_, hds, ?_⟩
  obtain ⟨marks, parameters, hm, hp, -, -, hplain⟩ := entities_method .default hds
  have hmarks : marks = Annotation.readable ["@Autowired".toList] := by
    have hnone : ["@Autowired".toList].findSome? Annotation.fault? = none :=
      Option.isNone_iff_eq_none.mp (by decide +kernel)
    rw [readAll_eq, hnone] at hm
    cases hm
    rfl
  have hparameters : parameters = formals.map Formal.parameter := by
    have hnone : (formals.flatMap (·.annotations)).findSome? Annotation.fault? = none :=
      Option.isNone_iff_eq_none.mp (by decide +kernel)
    rw [Formal.mapM_read_eq, hnone] at hp
    cases hp
    rfl
  subst hmarks hparameters
  exact (hplain (by decide +kernel)).trans (by decide +kernel)

end Java

end Wiring
