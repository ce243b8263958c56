import Wiring.Analysis
import Wiring.Proofs.Graph.Contents

namespace Wiring

namespace Annotation

variable {a : Annotation}

theorem isConfiguration_iff : a.kind = .configuration ↔ a.simpleName = "Configuration" :=
  kind_eq_iff nofun

theorem isImport_iff : a.kind = .classImport ↔ a.simpleName = "Import" :=
  kind_eq_iff nofun

theorem isBean_iff : a.kind = .bean ↔ a.simpleName = "Bean" :=
  kind_eq_iff nofun

theorem isAutowired_iff : a.kind = .autowired ↔ a.simpleName = "Autowired" :=
  kind_eq_iff nofun

end Annotation

namespace Value

/-- The value is or holds, at some depth, a class literal of the given simple name. -/
inductive HoldsClass : Value → String → Prop where
  | literal (name : String) : HoldsClass (.reference name true) (Text.simpleName name)
  | item {v : Value} {vs : List Value} {x : String} (hv : v ∈ vs) (hx : HoldsClass v x) :
      HoldsClass (.list vs) x

theorem holdsClass_list {vs : List Value} {x : String} :
    HoldsClass (.list vs) x ↔ ∃ v ∈ vs, HoldsClass v x := by
  constructor
  · rintro (_ | ⟨hv, hx⟩)
    exact ⟨_, hv, hx⟩
  · rintro ⟨v, hv, hx⟩
    exact .item hv hx

mutual

theorem mem_classNames (v : Value) (x : String) : x ∈ v.classNames ↔ v.HoldsClass x := by
  cases v with
  | string s => exact ⟨nofun, nofun⟩
  | literal t => exact ⟨nofun, nofun⟩
  | reference name isClass =>
    cases isClass with
    | false => exact ⟨nofun, nofun⟩
    | true =>
      rw [classNames, List.mem_singleton]
      constructor
      · rintro rfl; exact .literal name
      · rintro ⟨⟩; rfl
  | list items => rw [classNames, mem_classNamesAll items x, holdsClass_list]

theorem mem_classNamesAll (vs : List Value) (x : String) :
    x ∈ classNamesAll vs ↔ ∃ v ∈ vs, v.HoldsClass x := by
  cases vs with
  | nil => simp [classNamesAll]
  | cons v vs =>
    rw [classNamesAll, List.mem_append, mem_classNames v x, mem_classNamesAll vs x,
      List.exists_mem_cons_iff]

end

end Value

def Entity.edges (x : Entity) : List Edge := (x.change "").edges

theorem Entity.edges_change (x : Entity) (package : String) : (x.change package).edges = x.edges := by
  cases x <;> rfl

namespace Declaration

open Annotation (isImport_iff isBean_iff isAutowired_iff)

inductive Draws (d : Declaration) : Edge → Prop where
  | classImport {a : Annotation} {v : Value} {x : String} (hd : d.kind = .classType)
      (ha : a ∈ d.annotations) (hn : a.simpleName = "Import") (hv : a.value? = some v)
      (hx : v.HoldsClass x) : Draws d ⟨d.className, x, .classImport, "@Import"⟩
  | bean {a : Annotation} (hd : d.kind = .method) (ha : a ∈ d.annotations)
      (hn : a.simpleName = "Bean") (ht : d.type ≠ "") (hv : d.type ≠ "void") :
      Draws d ⟨d.className, d.type, .bean, "@Bean"⟩
  | beanParameter {a : Annotation} {p : Parameter} (hd : d.kind = .method)
      (ha : a ∈ d.annotations) (hn : a.simpleName = "Bean") (ht : d.type ≠ "")
      (hv : d.type ≠ "void") (hp : p ∈ d.parameters) (hpt : p.type ≠ "") :
      Draws d ⟨d.type, p.type, .autowired, "@Autowired (CI)"⟩
  | constructorParameter {a : Annotation} (hd : d.kind = .constructorParameter)
      (ha : a ∈ d.annotations ∨ a ∈ d.owner) (hn : a.simpleName = "Autowired") (ht : d.type ≠ "") :
      Draws d ⟨d.className, d.type, .autowired, "@Autowired (CI)"⟩
  | field {a : Annotation} (hd : d.kind = .field) (ha : a ∈ d.annotations)
      (hn : a.simpleName = "Autowired") (ht : d.type ≠ "") :
      Draws d ⟨d.className, d.type, .autowired, "@Autowired"⟩
  | methodParameter {a : Annotation} (hd : d.kind = .methodParameter)
      (hb : ∀ b ∈ d.owner, b.simpleName ≠ "Bean") (ha : a ∈ d.annotations ∨ a ∈ d.owner)
      (hn : a.simpleName = "Autowired") (ht : d.type ≠ "") :
      Draws d ⟨d.className, d.type, .autowired, "@Autowired"⟩

theorem has_iff {d : Declaration} {k : Annotation.Kind} :
    d.has k = true ↔ ∃ a ∈ d.annotations, a.kind = k := by
  simp [has]

theorem ownerHas_iff {d : Declaration} {k : Annotation.Kind} :
    d.ownerHas k = true ↔ ∃ a ∈ d.owner, a.kind = k := by
  simp [ownerHas]

theorem autowiredHere_iff {d : Declaration} :
    d.autowiredHere = true ↔ ∃ a, (a ∈ d.annotations ∨ a ∈ d.owner) ∧ a.kind = .autowired := by
  simp only [autowiredHere, Bool.or_eq_true, has_iff, ownerHas_iff, or_and_right, exists_or]

theorem hasProduct_iff {d : Declaration} : d.hasProduct = true ↔ d.type ≠ "" ∧ d.type ≠ "void" := by
  simp [hasProduct]

theorem beanAnnotation?_isSome {d : Declaration} :
    d.beanAnnotation?.isSome = true ↔ ∃ a ∈ d.annotations, a.kind = .bean := by
  simp [beanAnnotation?]

variable (c : Config) (d : Declaration)

theorem edges_dependency (byConstructor : Bool) :
    (d.dependency byConstructor).flatMap Entity.edges =
      if d.type = "" then []
      else [⟨d.className, d.type, .autowired, autowiredLabel byConstructor⟩] := by
  unfold dependency
  by_cases h : d.type = ""
  · rw [if_pos h, if_pos (String.isEmpty_iff.mpr h)]; rfl
  · rw [if_neg h, if_neg (mt String.isEmpty_iff.mp h)]; rfl

theorem mem_edges_dependency_if {byConstructor b : Bool} {e : Edge} :
    e ∈ (if b then d.dependency byConstructor else []).flatMap Entity.edges ↔
      b = true ∧ d.type ≠ "" ∧
        e = ⟨d.className, d.type, .autowired, autowiredLabel byConstructor⟩ := by
  cases b with
  | false => simp
  | true =>
    rw [if_pos rfl, edges_dependency]
    by_cases h : d.type = ""
    · simp [h]
    · simp [h]

theorem edges_annotationEntities (a : Annotation) :
    (d.annotationEntities a).flatMap Entity.edges =
      if a.kind = .classImport then
        (a.value?.elim [] Value.classNames).map (⟨d.className, ·, .classImport, importLabel⟩)
      else [] := by
  have himport : ∀ x, Entity.edges (.classImport d.className x) =
      [⟨d.className, x, .classImport, importLabel⟩] := fun _ => rfl
  have hscan : ∀ x, Entity.edges (.scan d.className x) = [] := fun _ => rfl
  unfold annotationEntities
  cases a.kind <;> simp [List.flatMap_map, himport, hscan, ← List.map_eq_flatMap]

theorem edges_classEntities :
    (d.classEntities c).flatMap Entity.edges =
      d.annotations.flatMap (fun a => (d.annotationEntities a).flatMap Entity.edges) := by
  have hrole : ∀ s, Entity.edges (.component d.className s d.package) = [] := fun _ => rfl
  have hconfiguration : Entity.edges (.configuration d.className d.package) = [] := rfl
  unfold classEntities
  rw [List.flatMap_append, List.flatMap_append, List.flatMap_assoc]
  split <;> simp [List.flatMap_map, hrole, hconfiguration]

theorem edges_methodEntities :
    d.methodEntities.flatMap Entity.edges =
      if d.beanAnnotation?.isSome && d.hasProduct then
        ⟨d.className, d.type, .bean, beanLabel⟩ ::
          (d.parameters.filter (fun p => !p.type.isEmpty)).map
            (fun p => ⟨d.type, p.type, .autowired, autowiredLabel true⟩)
      else [] := by
  have hbean : ∀ name types, Entity.edges (.bean d.className d.type d.member name types) =
      [⟨d.className, d.type, .bean, beanLabel⟩] := fun _ _ => rfl
  have hparameter : ∀ p : Parameter, Entity.edges (.autowired d.type p.type true p.member) =
      [⟨d.type, p.type, .autowired, autowiredLabel true⟩] := fun _ => rfl
  unfold methodEntities
  cases d.beanAnnotation? with
  | none => rfl
  | some a =>
    by_cases h : d.hasProduct = true
    · simp [h, List.flatMap_map, hbean, hparameter, ← List.map_eq_flatMap]
    · simp [h]

theorem mem_edges_classEntities (hd : d.kind = .classType) (e : Edge) :
    e ∈ (d.classEntities c).flatMap Entity.edges ↔ d.Draws e := by
  rw [edges_classEntities, List.mem_flatMap]
  constructor
  · rintro ⟨a, ha, he⟩
    rw [edges_annotationEntities] at he
    split at he
    · next hk =>
      obtain ⟨x, hx, rfl⟩ := List.mem_map.mp he
      cases hv : a.value? with
      | none => rw [hv] at hx; cases hx
      | some v =>
        rw [hv] at hx
        exact .classImport hd ha (isImport_iff.mp hk) hv ((v.mem_classNames x).mp hx)
    · cases he
  · intro h
    cases h with
    | @classImport a v x _ ha hn hv hx =>
      refine ⟨a, ha, ?_⟩
      rw [edges_annotationEntities, if_pos (isImport_iff.mpr hn), hv]
      exact List.mem_map.mpr ⟨x, (v.mem_classNames x).mpr hx, rfl⟩
    | _ hm => cases hm.symm.trans hd

theorem mem_edges_methodEntities (hd : d.kind = .method) (e : Edge) :
    e ∈ d.methodEntities.flatMap Entity.edges ↔ d.Draws e := by
  rw [edges_methodEntities]
  constructor
  · intro he
    split at he
    · next h =>
      obtain ⟨hb, hp⟩ := Bool.and_eq_true_iff.mp h
      obtain ⟨a, ha, hk⟩ := beanAnnotation?_isSome.mp hb
      obtain ⟨ht, hv⟩ := hasProduct_iff.mp hp
      rcases List.mem_cons.mp he with rfl | he
      · exact .bean hd ha (isBean_iff.mp hk) ht hv
      · obtain ⟨p, hp, rfl⟩ := List.mem_map.mp he
        obtain ⟨hp, hpt⟩ := List.mem_filter.mp hp
        exact .beanParameter hd ha (isBean_iff.mp hk) ht hv hp (by simpa using hpt)
    · cases he
  · have hgiven : ∀ a ∈ d.annotations, a.simpleName = "Bean" → d.type ≠ "" → d.type ≠ "void" →
        (d.beanAnnotation?.isSome && d.hasProduct) = true := by
      intro a ha hn ht hv
      rw [beanAnnotation?_isSome.mpr ⟨a, ha, isBean_iff.mpr hn⟩, hasProduct_iff.mpr ⟨ht, hv⟩]
      rfl
    intro h
    cases h with
    | bean _ ha hn ht hv =>
      rw [if_pos (hgiven _ ha hn ht hv)]
      exact List.mem_cons_self
    | @beanParameter a p _ ha hn ht hv hp hpt =>
      rw [if_pos (hgiven a ha hn ht hv)]
      apply List.mem_cons_of_mem
      exact List.mem_map.mpr ⟨p, List.mem_filter.mpr ⟨hp, by simpa using hpt⟩, rfl⟩
    | _ hm => cases hm.symm.trans hd

theorem mem_edges_entities (e : Edge) : e ∈ (d.entities c).flatMap Entity.edges ↔ d.Draws e := by
  unfold entities
  -- each kind of declaration draws only the edges of its own constructors
  cases hd : d.kind with
  | classType => exact mem_edges_classEntities c d hd e
  | method => exact mem_edges_methodEntities d hd e
  | field =>
    rw [mem_edges_dependency_if, has_iff]
    constructor
    · rintro ⟨⟨a, ha, hk⟩, ht, rfl⟩
      exact .field hd ha (isAutowired_iff.mp hk) ht
    · intro h
      cases h with
      | field _ ha hn ht => exact ⟨⟨_, ha, isAutowired_iff.mpr hn⟩, ht, rfl⟩
      | _ hm => cases hm.symm.trans hd
  | constructorParameter =>
    rw [mem_edges_dependency_if, autowiredHere_iff]
    constructor
    · rintro ⟨⟨a, ha, hk⟩, ht, rfl⟩
      exact .constructorParameter hd ha (isAutowired_iff.mp hk) ht
    · intro h
      cases h with
      | constructorParameter _ ha hn ht => exact ⟨⟨_, ha, isAutowired_iff.mpr hn⟩, ht, rfl⟩
      | _ hm => cases hm.symm.trans hd
  | methodParameter =>
    by_cases hb : d.ownerHas .bean = true
    · rw [if_pos hb]
      obtain ⟨b, hbo, hbk⟩ := ownerHas_iff.mp hb
      constructor
      · intro h; cases h
      · intro h
        cases h with
        | methodParameter _ hnone => exact absurd (isBean_iff.mp hbk) (hnone b hbo)
        | _ hm => cases hm.symm.trans hd
    · rw [if_neg hb, mem_edges_dependency_if, autowiredHere_iff]
      constructor
      · rintro ⟨⟨a, ha, hk⟩, ht, rfl⟩
        have hnone : ∀ b ∈ d.owner, b.simpleName ≠ "Bean" :=
          fun b hbo hbn => hb (ownerHas_iff.mpr ⟨b, hbo, isBean_iff.mpr hbn⟩)
        exact .methodParameter hd hnone ha (isAutowired_iff.mp hk) ht
      · intro h
        cases h with
        | methodParameter _ _ ha hn ht => exact ⟨⟨_, ha, isAutowired_iff.mpr hn⟩, ht, rfl⟩
        | _ hm => cases hm.symm.trans hd

end Declaration

theorem Batch.edges_changes (b : Batch Entity) :
    b.changes.flatMap Change.edges = b.entities.flatMap Entity.edges := by
  rw [Batch.changes, List.flatMap_map]
  congr 1
  funext x
  exact x.edges_change b.package

namespace Graph

theorem mem_edges_build (c : Config) (files : List Scanned) (e : Edge) :
    e ∈ (build (files.map (Scanned.batch c))).edges ↔
      ∃ f ∈ files, ∃ d ∈ f.declarations, d.Draws e := by
  have hfile : ∀ f : Scanned, e ∈ (f.batch c).changes.flatMap Change.edges ↔
      ∃ d ∈ f.declarations, d.Draws e := by
    intro f
    rw [Batch.edges_changes, Scanned.batch, Scanned.entities, List.flatMap_assoc, List.mem_flatMap]
    simp only [Declaration.mem_edges_entities]
  rw [build_eq_changes, edges_changes valid_empty, mem_gather, List.flatMap_map, List.flatMap_assoc,
    List.mem_flatMap]
  simp only [hfile]
  simp [empty]

theorem edges_build (c : Config) (files : List Scanned) :
    (build (files.map (Scanned.batch c))).edges.Nodup ∧
      ∀ e, e ∈ (build (files.map (Scanned.batch c))).edges ↔
        ∃ f ∈ files, ∃ d ∈ f.declarations, d.Draws e :=
  ⟨(valid_build _).edges_nodup, mem_edges_build c files⟩

end Graph

end Wiring
