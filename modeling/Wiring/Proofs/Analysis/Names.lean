import Wiring.Proofs.Annotation.ClassNames
import Wiring.Proofs.Graph.Reference
import Wiring.Proofs.Java.Mending

namespace Wiring

open Wiring.Text

namespace Declaration

structure Clean (d : Declaration) : Prop where
  className : Solid d.className
  type : ∀ c ∈ d.type.toList, isBlank c = false
  parameters : ∀ p ∈ d.parameters, ∀ c ∈ p.type.toList, isBlank c = false
  annotations : ∀ a ∈ d.annotations, ∀ v ∈ a.values, v.NamesClasses

variable {d : Declaration} {e : Entity}

theorem Clean.annotationEntities (hd : d.Clean) {a : Annotation} (ha : a ∈ d.annotations)
    (he : e ∈ d.annotationEntities a) : ∀ x ∈ e.classes, Solid x := by
  have hscan : ∀ package, ∀ x ∈ (Entity.scan d.className package).classes, Solid x := by
    intro package
    simpa [Entity.classes] using hd.className
  unfold Declaration.annotationEntities at he
  split at he
  · obtain ⟨name, hname, rfl⟩ := List.mem_map.mp he
    have hsolid : Solid name := by
      cases hv : a.value? with
      | none => simp [hv] at hname
      | some v =>
        rw [hv, Option.elim_some] at hname
        exact Annotation.namesClasses_value? (hd.annotations a ha) hv name hname
    simpa [Entity.classes] using ⟨hd.className, hsolid⟩
  · obtain ⟨package, -, rfl⟩ := List.mem_map.mp he
    exact hscan package
  · rw [List.mem_singleton.mp he]
    exact hscan d.package
  · cases he

theorem Clean.classEntities (hd : d.Clean) {c : Config} (he : e ∈ d.classEntities c) :
    ∀ x ∈ e.classes, Solid x := by
  unfold Declaration.classEntities at he
  rcases List.mem_append.mp he with he | he
  · rcases List.mem_append.mp he with he | he
    · split at he
      · rw [List.mem_singleton.mp he]
        simpa [Entity.classes] using hd.className
      · cases he
    · obtain ⟨s, -, rfl⟩ := List.mem_map.mp he
      simpa [Entity.classes] using hd.className
  · obtain ⟨a, ha, he⟩ := List.mem_flatMap.mp he
    exact hd.annotationEntities ha he

theorem Clean.methodEntities (hd : d.Clean) (he : e ∈ d.methodEntities) :
    ∀ x ∈ e.classes, Solid x := by
  unfold Declaration.methodEntities at he
  split at he
  · cases he
  · split at he
    · next hproduct =>
      have htype : Solid d.type := ⟨(hasProduct_iff.mp hproduct).1, hd.type⟩
      rcases List.mem_cons.mp he with rfl | he
      · simpa [Entity.classes] using ⟨hd.className, htype⟩
      · obtain ⟨p, hp, rfl⟩ := List.mem_map.mp he
        obtain ⟨hp, hne⟩ := List.mem_filter.mp hp
        have hparameter : Solid p.type := ⟨by simpa using hne, hd.parameters p hp⟩
        simpa [Entity.classes] using ⟨htype, hparameter⟩
    · cases he

theorem Clean.dependency (hd : d.Clean) {byConstructor : Bool}
    (he : e ∈ d.dependency byConstructor) : ∀ x ∈ e.classes, Solid x := by
  unfold Declaration.dependency at he
  split at he
  · cases he
  · next hne =>
    have htype : Solid d.type := ⟨by simpa using hne, hd.type⟩
    rw [List.mem_singleton.mp he]
    simpa [Entity.classes] using ⟨hd.className, htype⟩

theorem Clean.entities (hd : d.Clean) {c : Config} (he : e ∈ d.entities c) :
    ∀ x ∈ e.classes, Solid x := by
  unfold Declaration.entities at he
  split at he
  · exact hd.classEntities he
  · exact hd.methodEntities he
  · split at he
    · exact hd.dependency he
    · cases he
  · split at he
    · exact hd.dependency he
    · cases he
  · split at he
    · cases he
    · split at he
      · exact hd.dependency he
      · cases he

end Declaration

namespace Java

def Unit.NamesTypes (u : Unit) : Prop := ∀ h, .header h ∈ u.places → IsIdentifier h.name

mutual

theorem Item.class_of_member {className c : String} {m : Member} (i : Item)
    (h : .member c m ∈ i.places className) :
    (c = className ∧ i.isType = false) ∨ ∃ t, .header t ∈ i.places className ∧ t.name = c := by
  cases i with
  | member x =>
    rw [Item.places, List.mem_singleton] at h
    cases h
    exact .inl ⟨rfl, rfl⟩
  | type t body =>
    rw [Item.places] at h ⊢
    split at h
    · cases h
    · next hne =>
      rw [if_neg hne]
      obtain ⟨⟩ | ⟨_, h⟩ := h
      rcases class_of_memberAll body h with ⟨rfl, -⟩ | ⟨u, hu, rfl⟩
      · exact .inr ⟨t, List.mem_cons_self, rfl⟩
      · exact .inr ⟨u, List.mem_cons_of_mem _ hu, rfl⟩

theorem class_of_memberAll {className c : String} {m : Member} (is : List Item)
    (h : .member c m ∈ placesOfAll className is) :
    (c = className ∧ ∃ i ∈ is, i.isType = false) ∨
      ∃ t, .header t ∈ placesOfAll className is ∧ t.name = c := by
  cases is with
  | nil => cases h
  | cons i is =>
    rw [placesOfAll] at h ⊢
    rcases List.mem_append.mp h with h | h
    · rcases Item.class_of_member i h with ⟨rfl, hi⟩ | ⟨t, ht, rfl⟩
      · exact .inl ⟨rfl, i, List.mem_cons_self, hi⟩
      · exact .inr ⟨t, List.mem_append_left _ ht, rfl⟩
    · rcases class_of_memberAll is h with ⟨rfl, j, hj, hout⟩ | ⟨t, ht, rfl⟩
      · exact .inl ⟨rfl, j, List.mem_cons_of_mem _ hj, hout⟩
      · exact .inr ⟨t, List.mem_append_right _ ht, rfl⟩

end

theorem Unit.class_of_member {u : Unit} {c : String} {m : Member} (h : .member c m ∈ u.places) :
    ∃ t, .header t ∈ u.places ∧ t.name = c := by
  rcases class_of_memberAll _ h with ⟨-, i, hi, hout⟩ | ht
  · rw [(List.mem_filter.mp hi).2] at hout
    cases hout
  · exact ht

theorem namesClasses_readable (tokens : List (List Char)) :
    ∀ a ∈ Annotation.readable tokens, ∀ v ∈ a.values, v.NamesClasses := by
  intro a ha
  obtain ⟨t, -, hread⟩ := List.mem_filterMap.mp ha
  cases h : Annotation.read t with
  | error cause => rw [h] at hread; cases hread
  | ok b =>
    rw [h] at hread
    cases hread
    exact Annotation.namesClasses_read h

theorem isBlank_of_mem_type (type : List Char) :
    ∀ c ∈ (String.ofList (TypeName.simple type)).toList, isBlank c = false := by
  intro c hc
  rw [String.toList_ofList] at hc
  exact TypeName.isBlank_of_mem_simple hc

theorem clean_parameter (kind : DeclarationKind) (package : String) {c : String} (hc : Solid c)
    (owner : List Annotation) (f : Formal) :
    (parameterDeclaration kind package c owner f.parameter).Clean where
  className := hc
  type := isBlank_of_mem_type f.type
  parameters := by simp [parameterDeclaration]
  annotations := namesClasses_readable f.annotations

theorem Place.clean_member {c : String} (hc : Solid c) (package : String) (m : Member) :
    ∀ d ∈ (member c m).declared package, d.Clean := by
  intro d hd
  cases m with
  | field constant line ts type names =>
    obtain ⟨name, -, rfl⟩ := List.mem_map.mp hd
    exact ⟨hc, isBlank_of_mem_type type, by simp, namesClasses_readable ts⟩
  | constructor line ts fs =>
    obtain ⟨p, hp, rfl⟩ := List.mem_map.mp hd
    obtain ⟨f, -, rfl⟩ := List.mem_map.mp hp
    exact clean_parameter _ package hc _ f
  | method line ts type name fs =>
    rcases List.mem_cons.mp hd with rfl | hd
    · refine ⟨hc, isBlank_of_mem_type type, ?_, namesClasses_readable ts⟩
      intro p hp
      obtain ⟨f, -, rfl⟩ := List.mem_map.mp hp
      exact isBlank_of_mem_type f.type
    · obtain ⟨p, hp, rfl⟩ := List.mem_map.mp hd
      obtain ⟨f, -, rfl⟩ := List.mem_map.mp hp
      exact clean_parameter _ package hc _ f

theorem Unit.NamesTypes.clean_declared {u : Unit} (hu : u.NamesTypes) {p : Place}
    (hp : p ∈ u.places) (package : String) : ∀ d ∈ p.declared package, d.Clean := by
  cases p with
  | header h =>
    intro d hd
    rw [List.mem_singleton.mp hd]
    have hname := (hu h hp).solid
    exact ⟨hname, hname.no_blank, by simp, namesClasses_readable h.annotations⟩
  | member c m =>
    obtain ⟨t, ht, rfl⟩ := Unit.class_of_member hp
    exact Place.clean_member (hu t ht).solid package m

theorem Unit.NamesTypes.clean_declarations {u : Unit} (hu : u.NamesTypes) (path package : String) :
    ∀ d ∈ (Source.scanUnit path package u).declarations, d.Clean := by
  intro d hd
  rw [declarations_scanUnit] at hd
  obtain ⟨p, hp, hd⟩ := List.mem_flatMap.mp hd
  split at hd
  · cases hd
  · exact hu.clean_declared hp _ d hd

end Java

def Source.NamesTypes (s : Source) : Prop :=
  ∀ text, Text.encode s.text = .ok text → (Java.Unit.ofText text).NamesTypes

theorem Source.NamesTypes.solid_classes {s : Source} (hs : s.NamesTypes) (c : Config) {e : Entity}
    (he : e ∈ (s.batch c).entities) : ∀ x ∈ e.classes, Solid x := by
  rw [Source.batch, Source.analyze, Source.scan] at he
  cases htext : Text.encode s.text with
  | error cause => rw [htext] at he; cases he
  | ok text =>
    rw [htext] at he
    obtain ⟨d, hd, he⟩ := List.mem_flatMap.mp he
    exact ((hs text htext).clean_declarations _ _ d hd).entities he

namespace Entity

theorem ends_mem_classes {e : Entity} {d : Edge} (h : e.edge? = some d) :
    d.source ∈ e.classes ∧ d.target ∈ e.classes := by
  cases e with
  | autowired source target byConstructor member =>
    cases byConstructor <;> cases h <;> simp [classes]
  | classImport _ _ => cases h; simp [classes]
  | bean _ _ _ _ _ => cases h; simp [classes]
  | _ => cases h

theorem source_mem_classes {e : Entity} {s : Scan} (h : e.scan? = some s) :
    s.source ∈ e.classes := by
  cases e with
  | scan _ _ => cases h; simp [classes]
  | _ => cases h

end Entity

namespace Analysis

/-- Whatever types, annotations, comments and white space the sources hold, all names in their graph
are proper ones. -/
theorem solid_graph (c : Config) (sources : List Source) (h : ∀ s ∈ sources, s.NamesTypes) :
    (∀ n ∈ (graph c sources).nodes, Solid n.name) ∧
      (∀ e ∈ (graph c sources).edges, Solid e.source ∧ Solid e.target) ∧
        ∀ s ∈ (graph c sources).scans, Solid s.source := by
  have hall : ∀ e ∈ entitiesOf (sources.map (Source.batch c)), ∀ x ∈ e.classes, Solid x := by
    intro e he
    obtain ⟨b, hb, he⟩ := List.mem_flatMap.mp he
    obtain ⟨s, hs, rfl⟩ := List.mem_map.mp hb
    exact (h s hs).solid_classes c he
  obtain ⟨htable, hedges, hscans⟩ := Graph.build_eq_reference (sources.map (Source.batch c))
  refine ⟨?_, ?_, ?_⟩
  · intro n hn
    rw [graph, Graph.nodes, htable, List.map_map] at hn
    obtain ⟨name, hname, rfl⟩ := List.mem_map.mp hn
    obtain ⟨e, he, hx⟩ := List.mem_flatMap.mp (List.mem_eraseDups.mp hname)
    exact hall e he name hx
  · intro d hd
    rw [graph, hedges] at hd
    obtain ⟨e, he, hd⟩ := List.mem_filterMap.mp (List.mem_eraseDups.mp hd)
    obtain ⟨hsource, htarget⟩ := Entity.ends_mem_classes hd
    exact ⟨hall e he _ hsource, hall e he _ htarget⟩
  · intro s hs
    rw [graph, hscans] at hs
    obtain ⟨e, he, hs⟩ := List.mem_filterMap.mp (List.mem_eraseDups.mp hs)
    exact hall e he _ (Entity.source_mem_classes hs)

theorem solid_graph_spaced :
    let text := "@Configuration\nclass A\x7b @Bean d.\tE <F> e(G /* g */ [] g)\x7b\x7d \x7d"
    let source : Source := ⟨"A.java", "", CodePoint.ofString text⟩
    source.NamesTypes ∧ (graph .default [source]).names = ["A", "E", "G/*g*/"] ∧
      ∀ n ∈ (graph .default [source]).nodes, Solid n.name := by
  intro text source
  have hencode : Text.encode source.text = .ok text.toList := Text.encode_ofString text
  have hplaces : (Java.Unit.ofText text.toList).places =
      [.header ⟨.classType, "A", 1, ["@Configuration".toList]⟩,
        .member "A" (.method 2 ["@Bean".toList] "d.\tE <F>".toList "e"
          [⟨"g", "G /* g */ []".toList, 2, []⟩])] := by
    decide +kernel
  have hsource : source.NamesTypes := by
    intro t ht h hh
    rw [hencode] at ht
    cases ht
    rw [hplaces] at hh
    have hname : h.name = "A" := by
      simp only [List.mem_cons, Java.Place.header.injEq, List.not_mem_nil, or_false,
        reduceCtorEq] at hh
      rw [hh]
    rw [hname]
    exact ⟨'A', [], rfl, by decide, by simp⟩
  exact ⟨hsource, by decide +kernel,
    (solid_graph .default [source] (by simpa using hsource)).1⟩

end Analysis

end Wiring
