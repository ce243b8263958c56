import Wiring.Proofs.Classification.Relations

namespace Wiring

namespace Annotation

structure IsUnknown (c : Config) (a : Annotation) : Prop where
  kind : a.kind = .other
  name : a.simpleName ∉ c.stereotypes.map (·.1)

/-- Names are exchanged for others that end in the same simple name, and unknown annotations are put
in anywhere. -/
inductive Embellished (c : Config) : List Annotation → List Annotation → Prop where
  | nil : Embellished c [] []
  | renamed {a : Annotation} {name : String} {as bs : List Annotation}
      (hn : Text.simpleName name = a.simpleName) (h : Embellished c as bs) :
      Embellished c (a :: as) ({ a with name := name } :: bs)
  | inserted {a : Annotation} {as bs : List Annotation} (ha : a.IsUnknown c)
      (h : Embellished c as bs) : Embellished c as (a :: bs)

structure IsBlind {α : Type} (c : Config) (f : Annotation → List α) : Prop where
  renamed : ∀ a name, Text.simpleName name = a.simpleName → f { a with name := name } = f a
  unknown : ∀ a, a.IsUnknown c → f a = []

section Reading

variable {c : Config} {as bs : List Annotation}

theorem Embellished.flatMap_eq {α : Type} {f : Annotation → List α} (h : Embellished c as bs)
    (hf : IsBlind c f) : bs.flatMap f = as.flatMap f := by
  induction h with
  | nil => rfl
  | renamed hn _ ih => rw [List.flatMap_cons, List.flatMap_cons, hf.renamed _ _ hn, ih]
  | inserted ha _ ih => rw [List.flatMap_cons, hf.unknown _ ha, List.nil_append, ih]

theorem kind_renamed {a : Annotation} {name : String} (h : Text.simpleName name = a.simpleName) :
    ({ a with name := name } : Annotation).kind = a.kind := by
  rw [kind, kind, simpleName, h]

theorem isBlind_of_kind {α : Type} {k : Kind} {f : Annotation → α} (hk : k ≠ .other)
    (hf : ∀ a name, f { a with name := name } = f a) :
    IsBlind c (fun a => if a.kind == k then [f a] else []) where
  renamed a name h := by simp only [kind_renamed h, hf]
  unknown a ha := by rw [ha.kind, if_neg (by simpa using hk.symm)]

theorem head?_flatMap_if {α : Type} (p : Annotation → Bool) (f : Annotation → α)
    (as : List Annotation) :
    (as.flatMap (fun a => if p a then [f a] else [])).head? = (as.find? p).map f := by
  induction as with
  | nil => rfl
  | cons a as ih =>
    rw [List.flatMap_cons, List.find?_cons]
    cases p a with
    | true => rfl
    | false => exact ih

theorem Embellished.find?_kind {α : Type} {k : Kind} {f : Annotation → α}
    (h : Embellished c as bs) (hk : k ≠ .other) (hf : ∀ a name, f { a with name := name } = f a) :
    (bs.find? (fun a => a.kind == k)).map f = (as.find? (fun a => a.kind == k)).map f := by
  have hread := h.flatMap_eq (isBlind_of_kind hk hf)
  rw [← head?_flatMap_if, hread, head?_flatMap_if]

theorem Embellished.any_kind {k : Kind} (h : Embellished c as bs) (hk : k ≠ .other) :
    bs.any (fun a => a.kind == k) = as.any (fun a => a.kind == k) := by
  have hfirst := h.find?_kind (f := fun _ => ()) hk (fun _ _ => rfl)
  have hsome := congrArg Option.isSome hfirst
  rwa [Option.isSome_map, Option.isSome_map, List.isSome_find?, List.isSome_find?] at hsome

end Reading

end Annotation

open Annotation (Embellished IsBlind)

def Parameter.Embellished (c : Config) (p q : Parameter) : Prop :=
  ∃ as, Annotation.Embellished c p.annotations as ∧ q = { p with annotations := as }

theorem Parameter.Embellished.map_filter_eq {α : Type} {c : Config} {ps qs : List Parameter}
    {r : Parameter → Bool} {f : Parameter → α} (h : List.Forall₂ (Parameter.Embellished c) ps qs)
    (hr : ∀ p as, r { p with annotations := as } = r p)
    (hf : ∀ p as, f { p with annotations := as } = f p) :
    (qs.filter r).map f = (ps.filter r).map f := by
  induction h with
  | nil => rfl
  | @cons p q ps qs hpq _ ih =>
    obtain ⟨as, -, rfl⟩ := hpq
    rw [List.filter_cons, List.filter_cons, hr]
    split
    · rw [List.map_cons, List.map_cons, hf, ih]
    · exact ih

namespace Declaration

def withAnnotations (d : Declaration) (as os : List Annotation) (ps : List Parameter) :
    Declaration :=
  { d with annotations := as, owner := os, parameters := ps }

section Embellished

variable {c : Config} {d : Declaration} {as os : List Annotation} {ps : List Parameter}

theorem has_embellished (ha : Embellished c d.annotations as) {k : Annotation.Kind}
    (hk : k ≠ .other) : (d.withAnnotations as os ps).has k = d.has k := ha.any_kind hk

theorem ownerHas_embellished (ho : Embellished c d.owner os) {k : Annotation.Kind}
    (hk : k ≠ .other) : (d.withAnnotations as os ps).ownerHas k = d.ownerHas k := ho.any_kind hk

theorem autowiredHere_embellished (ha : Embellished c d.annotations as)
    (ho : Embellished c d.owner os) :
    (d.withAnnotations as os ps).autowiredHere = d.autowiredHere := by
  rw [autowiredHere, autowiredHere, has_embellished ha (by decide),
    ownerHas_embellished ho (by decide)]

theorem stereotypes_embellished (ha : Embellished c d.annotations as) :
    (d.withAnnotations as os ps).stereotypes c = d.stereotypes c := by
  have hblind : IsBlind c (fun a => (c.stereotypes.get? a.simpleName).toList) := by
    constructor
    · intro a name hn
      exact congrArg (fun n => (c.stereotypes.get? n).toList) hn
    · intro a hu
      rw [StereotypeMap.get?_eq_none hu.name]
      rfl
  have hread := ha.flatMap_eq hblind
  rw [stereotypes, stereotypes, List.filterMap_eq_flatMap_toList, List.filterMap_eq_flatMap_toList]
  exact hread

theorem isBlind_annotationEntities (c : Config) (d : Declaration) :
    IsBlind c d.annotationEntities := by
  constructor
  · intro a name hn
    rw [annotationEntities, Annotation.kind_renamed hn]
    rfl
  · intro a hu
    rw [annotationEntities, hu.kind]

theorem classEntities_embellished (ha : Embellished c d.annotations as) :
    (d.withAnnotations as os ps).classEntities c = d.classEntities c := by
  have hread := ha.flatMap_eq (isBlind_annotationEntities c d)
  rw [classEntities, classEntities, has_embellished ha (by decide), stereotypes_embellished ha]
  exact congrArg _ hread

theorem methodEntities_embellished (ha : Embellished c d.annotations as)
    (hp : List.Forall₂ (Parameter.Embellished c) d.parameters ps) :
    (d.withAnnotations as os ps).methodEntities = d.methodEntities := by
  have hbean : (d.withAnnotations as os ps).beanAnnotation?.map Annotation.beanName? =
      d.beanAnnotation?.map Annotation.beanName? := ha.find?_kind (by decide) (fun _ _ => rfl)
  have htypes := Parameter.Embellished.map_filter_eq hp (r := fun p => !p.type.isEmpty)
    (f := fun p => p.type) (fun _ _ => rfl) (fun _ _ => rfl)
  have hwired := Parameter.Embellished.map_filter_eq hp (r := fun p => !p.type.isEmpty)
    (f := fun p => Entity.autowired d.type p.type true p.member) (fun _ _ => rfl) (fun _ _ => rfl)
  rw [methodEntities_eq, methodEntities_eq, hbean]
  simp only [withAnnotations, htypes, hwired]
  rfl

theorem notices_embellished (ha : Embellished c d.annotations as) :
    (d.withAnnotations as os ps).notices = d.notices := by
  have hbean : (d.withAnnotations as os ps).has .bean = d.has .bean :=
    has_embellished ha (by decide)
  have hblind : IsBlind c (fun a =>
      if a.kind == .componentScan then
        (a.scanClasses.filter (· != d.className)).map (Notice.unknownScanClass · d.className)
      else []) := by
    constructor
    · intro a name hn
      have hk := Annotation.kind_renamed hn
      rw [hk]
      rfl
    · intro a hu
      rw [hu.kind]
      rfl
  have hkind : (d.withAnnotations as os ps).kind = d.kind := rfl
  unfold notices
  rw [hkind]
  cases d.kind with
  | classType => exact ha.flatMap_eq hblind
  | method =>
    simp only [hbean]
    rfl
  | _ => rfl

/-- What a declaration contributes, and what is logged of it, stays the same if the names of
annotations are qualified in another way and unknown annotations are put in, on the declaration, on
its owner and on its parameters. -/
theorem entities_embellished (ha : Embellished c d.annotations as) (ho : Embellished c d.owner os)
    (hp : List.Forall₂ (Parameter.Embellished c) d.parameters ps) :
    (d.withAnnotations as os ps).entities c = d.entities c ∧
      (d.withAnnotations as os ps).notices = d.notices := by
  refine ⟨?_, notices_embellished ha⟩
  have hhas : (d.withAnnotations as os ps).has .autowired = d.has .autowired :=
    has_embellished ha (by decide)
  have howner : (d.withAnnotations as os ps).ownerHas .bean = d.ownerHas .bean :=
    ownerHas_embellished ho (by decide)
  have hhere : (d.withAnnotations as os ps).autowiredHere = d.autowiredHere :=
    autowiredHere_embellished ha ho
  have hkind : (d.withAnnotations as os ps).kind = d.kind := rfl
  have hdependency : (d.withAnnotations as os ps).dependency = d.dependency := rfl
  unfold entities
  rw [hkind]
  cases d.kind with
  | classType => exact classEntities_embellished ha
  | method => exact methodEntities_embellished ha hp
  | field => simp only [hhas, hdependency]
  | constructorParameter => simp only [hhere, hdependency]
  | methodParameter => simp only [howner, hhere, hdependency]

theorem entities_embellished_factory :
    let name : Value := .string "x"
    let plain : Declaration := ⟨.method, "A", "p", "B", "b", [⟨"Bean", [name], []⟩], [],
      [⟨"c", "C", [⟨"Autowired", [], []⟩], 2⟩], 2⟩
    let as : List Annotation :=
      [⟨"a.Lazy", [], []⟩, ⟨"org.spring.Bean", [name], []⟩, ⟨"Primary", [name], []⟩]
    let ps : List Parameter := [⟨"c", "C", [⟨"a.b.Autowired", [], []⟩, ⟨"Lazy", [], []⟩], 2⟩]
    Embellished .default plain.annotations as ∧ Embellished .default plain.owner [] ∧
      List.Forall₂ (Parameter.Embellished .default) plain.parameters ps ∧
      (plain.withAnnotations as [] ps).entities .default =
        [.bean "A" "B" "b" "x" ["C"], .autowired "B" "C" true "c"] := by
  intro name plain as ps
  have hlazy : ∀ n ∈ ["a.Lazy", "Lazy", "Primary"], ∀ vs,
      Annotation.IsUnknown .default ⟨n, vs, []⟩ := by
    have hall : ∀ n ∈ ["a.Lazy", "Lazy", "Primary"], Annotation.Kind.ofName (Text.simpleName n) =
        .other ∧ Text.simpleName n ∉ defaultStereotypes.map (·.1) := by decide +kernel
    intro n hn vs
    exact ⟨(hall n hn).1, (hall n hn).2⟩
  have ha : Embellished .default plain.annotations as :=
    .inserted (hlazy _ (by decide) _)
      (.renamed (a := ⟨"Bean", [name], []⟩) (by decide +kernel)
        (.inserted (hlazy _ (by decide) _) .nil))
  have hparameter : Embellished .default [⟨"Autowired", [], []⟩]
      [⟨"a.b.Autowired", [], []⟩, ⟨"Lazy", [], []⟩] :=
    .renamed (a := ⟨"Autowired", [], []⟩) (by decide +kernel)
      (.inserted (hlazy _ (by decide) _) .nil)
  have hp : List.Forall₂ (Parameter.Embellished .default) plain.parameters ps :=
    .cons ⟨_, hparameter, rfl⟩ .nil
  exact ⟨ha, .nil, hp, (entities_embellished ha .nil hp).1.trans (by decide +kernel)⟩

end Embellished

end Declaration

end Wiring
