import Wiring.Classification

namespace Wiring

namespace Annotation

def shorthand (name : String) (v : Value) : Annotation := ⟨name, [v], []⟩

def spelledOut (name : String) (v : Value) : Annotation := ⟨name, [], [("value", v)]⟩

section Readings

variable (name : String) (v : Value)

theorem value?_spelledOut : (spelledOut name v).value? = (shorthand name v).value? := rfl

theorem keyword?_spelledOut (key : String) (h : key ≠ "value") :
    (spelledOut name v).keyword? key = (shorthand name v).keyword? key := by
  have hne : ("value" == key) = false := beq_false_of_ne (Ne.symm h)
  simp [keyword?, spelledOut, shorthand, hne]

theorem beanName?_spelledOut : (spelledOut name v).beanName? = (shorthand name v).beanName? := by
  simp only [beanName?, value?_spelledOut, keyword?_spelledOut name v "name" (by decide)]

theorem hasScanArguments_spelledOut : (spelledOut name v).hasScanArguments = true := rfl

theorem hasScanArguments_shorthand : (shorthand name v).hasScanArguments = v.isGiven := by
  simp [hasScanArguments, shorthand]

end Readings

end Annotation

theorem Value.isGiven_eq_false {v : Value} : v.isGiven = false ↔ v = .list [] := by
  constructor
  · intro h
    cases v with
    | list items =>
      cases items with
      | nil => rfl
      | cons _ _ => cases h
    | _ => cases h
  · rintro rfl
    rfl

namespace Annotation

variable {name : String} {v : Value}

theorem scanPackages_spelledOut (hv : v ≠ .list []) (className package : String) :
    (spelledOut name v).scanPackages className package =
      (shorthand name v).scanPackages className package := by
  have hgiven : (shorthand name v).hasScanArguments = true := by
    rw [hasScanArguments_shorthand]
    simpa using mt Value.isGiven_eq_false.mp hv
  have hclasses : (spelledOut name v).scanClasses = (shorthand name v).scanClasses := by
    rw [scanClasses, keyword?_spelledOut name v "basePackageClasses" (by decide), scanClasses]
  simp only [scanPackages, value?_spelledOut, hclasses, hgiven, hasScanArguments_spelledOut,
    keyword?_spelledOut name v "basePackages" (by decide)]

theorem scanPackages_empty (name className package : String) :
    (spelledOut name (.list [])).scanPackages className package = [] ∧
      (shorthand name (.list [])).scanPackages className package = [package] :=
  ⟨rfl, rfl⟩

end Annotation

namespace Declaration

open Annotation (shorthand spelledOut beanName?_spelledOut scanPackages_spelledOut value?_spelledOut)

def put (d : Declaration) (before after : List Annotation) (a : Annotation) : Declaration :=
  { d with annotations := before ++ a :: after }

section Replace

variable (c : Config) (d : Declaration) (before after : List Annotation) {a b : Annotation}

theorem has_put_congr (hkind : a.kind = b.kind) (k : Annotation.Kind) :
    (d.put before after a).has k = (d.put before after b).has k := by
  simp only [has, put, List.any_append, List.any_cons, hkind]

theorem stereotypes_put_congr (hname : a.simpleName = b.simpleName) :
    (d.put before after a).stereotypes c = (d.put before after b).stereotypes c := by
  simp only [stereotypes, put, List.filterMap_append, List.filterMap_cons, hname]

theorem classEntities_put_iff (hname : a.simpleName = b.simpleName) (hkind : a.kind = b.kind) :
    (d.put before after a).classEntities c = (d.put before after b).classEntities c ↔
      d.annotationEntities a = d.annotationEntities b := by
  have hannotation : ∀ x y, (d.put before after x).annotationEntities y = d.annotationEntities y :=
    fun _ _ => rfl
  have hlist : ∀ x, (d.put before after x).annotations.flatMap
        (d.put before after x).annotationEntities =
      before.flatMap d.annotationEntities ++
        (d.annotationEntities x ++ after.flatMap d.annotationEntities) := by
    intro x
    rw [put, List.flatMap_append, List.flatMap_cons]
    rfl
  rw [classEntities, classEntities, has_put_congr d before after hkind,
    stereotypes_put_congr c d before after hname, hlist, hlist]
  constructor
  · intro h
    exact List.append_cancel_right (List.append_cancel_left (List.append_cancel_left h))
  · intro h
    rw [h]
    rfl

theorem methodEntities_put_congr (hkind : a.kind = b.kind) (hbean : a.beanName? = b.beanName?) :
    (d.put before after a).methodEntities = (d.put before after b).methodEntities := by
  have hfirst : (d.put before after a).beanAnnotation?.map Annotation.beanName? =
      (d.put before after b).beanAnnotation?.map Annotation.beanName? := by
    simp only [beanAnnotation?, put, List.find?_append, List.find?_cons, hkind]
    cases before.find? (fun a => a.kind == .bean) with
    | some x => rfl
    | none =>
      cases b.kind == .bean with
      | true => simp [hbean]
      | false => rfl
  rw [methodEntities_eq, methodEntities_eq, hfirst]
  rfl

end Replace

variable (c : Config) (d : Declaration) (before after : List Annotation)

theorem annotationEntities_spelledOut (name : String) (v : Value) :
    d.annotationEntities (spelledOut name v) = d.annotationEntities (shorthand name v) ↔
      ¬ ((shorthand name v).kind = .componentScan ∧ v = .list []) := by
  have hkind : (spelledOut name v).kind = (shorthand name v).kind := rfl
  unfold annotationEntities
  rw [hkind]
  cases (shorthand name v).kind with
  | componentScan =>
    by_cases hv : v = .list []
    · subst hv
      obtain ⟨hnone, hown⟩ := Annotation.scanPackages_empty name d.className d.package
      simp [hnone, hown]
    · simp [scanPackages_spelledOut hv, hv]
  | classImport => simp [value?_spelledOut]
  | _ => simp

/-- Writing out the name of a single value leaves what a declaration contributes as it is, unless it
is a class that scans for components and the value is the empty list. -/
theorem entities_spelledOut (name : String) (v : Value) :
    (d.put before after (spelledOut name v)).entities c =
        (d.put before after (shorthand name v)).entities c ↔
      ¬ (d.kind = .classType ∧ (shorthand name v).kind = .componentScan ∧ v = .list []) := by
  have hkind : (spelledOut name v).kind = (shorthand name v).kind := rfl
  have hhas := has_put_congr d before after hkind
  unfold entities
  have hd : ∀ a, (d.put before after a).kind = d.kind := fun _ => rfl
  rw [hd, hd]
  cases d.kind with
  | classType =>
    have hclass := classEntities_put_iff c d before after (a := spelledOut name v)
      (b := shorthand name v) rfl hkind
    simp [hclass, annotationEntities_spelledOut]
  | method =>
    have hmethod := methodEntities_put_congr d before after hkind
      (beanName?_spelledOut name v)
    simp [hmethod]
  | field => simp [hhas]; rfl
  | constructorParameter => simp [autowiredHere, hhas]; rfl
  | methodParameter => simp [autowiredHere, hhas]; rfl

theorem entities_scan_of_nothing :
    let scanning (a : Annotation) : Declaration := ⟨.classType, "A", "p", "A", "", [a], [], [], 1⟩
    (scanning (shorthand "ComponentScan" (.list []))).entities .default = [.scan "A" "p"] ∧
      (scanning (spelledOut "ComponentScan" (.list []))).entities .default = [] := by
  decide +kernel

end Declaration

end Wiring
