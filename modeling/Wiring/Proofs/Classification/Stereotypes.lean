import Wiring.Proofs.Classification.Relations
import Wiring.Proofs.Graph.Reference

namespace Wiring

namespace Declaration

open Annotation (isConfiguration_iff)

inductive Gives (c : Config) (d : Declaration) : Stereotype → Prop where
  | configured {a : Annotation} {s : Stereotype} (hd : d.kind = .classType)
      (ha : a ∈ d.annotations) (hs : c.stereotypes.get? a.simpleName = some s) : Gives c d s
  | configuration {a : Annotation} (hd : d.kind = .classType) (ha : a ∈ d.annotations)
      (hn : a.simpleName = "Configuration") : Gives c d .configuration

def Produces (d : Declaration) (name : String) : Prop :=
  d.kind = .method ∧ (∃ a ∈ d.annotations, a.simpleName = "Bean") ∧ d.type = name

theorem Draws.source {d : Declaration} {e : Edge} (h : d.Draws e) :
    e.source = d.className ∨ d.Produces e.source := by
  cases h with
  | beanParameter hd ha hn => exact .inr ⟨hd, ⟨_, ha, hn⟩, rfl⟩
  | _ => exact .inl rfl

variable {c : Config} {d : Declaration}

theorem mem_stereotypes {s : Stereotype} :
    s ∈ d.stereotypes c ↔ ∃ a ∈ d.annotations, c.stereotypes.get? a.simpleName = some s := by
  simp [stereotypes, List.mem_filterMap]

variable (c d)

theorem role?_annotationEntities (package : String) (a : Annotation) :
    ∀ e ∈ d.annotationEntities a, e.role? package = none := by
  intro e he
  unfold annotationEntities at he
  split at he
  · obtain ⟨x, _, rfl⟩ := List.mem_map.mp he; rfl
  · obtain ⟨x, _, rfl⟩ := List.mem_map.mp he; rfl
  · rw [List.mem_singleton.mp he]; rfl
  · cases he

theorem role?_methodEntities (package : String) :
    ∀ e ∈ d.methodEntities, e.role? package = none := by
  intro e he
  unfold methodEntities at he
  split at he
  · cases he
  · split at he
    · rcases List.mem_cons.mp he with rfl | he
      · rfl
      · obtain ⟨p, _, rfl⟩ := List.mem_map.mp he; rfl
    · cases he

theorem role?_dependency (package : String) (byConstructor : Bool) :
    ∀ e ∈ d.dependency byConstructor, e.role? package = none := by
  intro e he
  unfold dependency at he
  split at he
  · cases he
  · rw [List.mem_singleton.mp he]; rfl

theorem role?_entities (package : String) (hd : d.kind ≠ .classType) :
    ∀ e ∈ d.entities c, e.role? package = none := by
  intro e he
  unfold entities at he
  cases hk : d.kind with
  | classType => exact absurd hk hd
  | method =>
    rw [hk] at he
    exact d.role?_methodEntities package e he
  | field =>
    rw [hk, List.mem_ite_nil_right] at he
    exact d.role?_dependency package false e he.2
  | constructorParameter =>
    rw [hk, List.mem_ite_nil_right] at he
    exact d.role?_dependency package true e he.2
  | methodParameter =>
    rw [hk, List.mem_ite_nil_left, List.mem_ite_nil_right] at he
    exact d.role?_dependency package false e he.2.2

def toldStereotypes : List Stereotype :=
  (if d.has .configuration then [.configuration] else []) ++
    (Stereotype.mostSpecific? (d.stereotypes c)).toList

theorem roles_entities (package : String) (hd : d.kind = .classType) :
    (d.entities c).filterMap (Entity.role? package) =
      (d.toldStereotypes c).map
        (fun s => ⟨d.className, s, if d.package = "" then package else d.package⟩) := by
  have hrest : (d.annotations.flatMap d.annotationEntities).filterMap (Entity.role? package) = [] := by
    rw [List.filterMap_eq_nil_iff]
    intro e he
    obtain ⟨a, _, he⟩ := List.mem_flatMap.mp he
    exact d.role?_annotationEntities package a e he
  simp only [entities, hd, classEntities, toldStereotypes, List.filterMap_append, hrest]
  split <;> cases Stereotype.mostSpecific? (d.stereotypes c) <;> simp [Entity.role?]

variable {c d}

theorem gives_of_mem_toldStereotypes (hd : d.kind = .classType) {s : Stereotype}
    (hs : s ∈ d.toldStereotypes c) : d.Gives c s := by
  rcases List.mem_append.mp hs with hs | hs
  · obtain ⟨hc, hs⟩ := List.mem_ite_nil_right.mp hs
    obtain ⟨a, ha, hk⟩ := has_iff.mp hc
    rw [List.mem_singleton.mp hs]
    exact .configuration hd ha (isConfiguration_iff.mp hk)
  · obtain ⟨hs, _⟩ := Stereotype.mostSpecific?_eq_some_iff.mp (Option.mem_toList.mp hs)
    obtain ⟨a, ha, hs⟩ := mem_stereotypes.mp hs
    exact .configured hd ha hs

theorem Gives.exists_told {s : Stereotype} (h : d.Gives c s) :
    ∃ t ∈ d.toldStereotypes c, t.rank ≤ s.rank := by
  cases h with
  | configured hd ha hs =>
    have hmem : s ∈ d.stereotypes c := mem_stereotypes.mpr ⟨_, ha, hs⟩
    cases hbest : Stereotype.mostSpecific? (d.stereotypes c) with
    | none =>
      rw [Stereotype.mostSpecific?_eq_none] at hbest
      rw [hbest] at hmem
      cases hmem
    | some t =>
      refine ⟨t, ?_, (Stereotype.mostSpecific?_eq_some_iff.mp hbest).2 s hmem⟩
      simp [toldStereotypes, hbest]
  | configuration hd ha hn =>
    refine ⟨.configuration, ?_, Nat.le_refl _⟩
    simp [toldStereotypes, has_iff.mpr ⟨_, ha, isConfiguration_iff.mpr hn⟩]

theorem Gives.kind_eq {s : Stereotype} (h : d.Gives c s) : d.kind = .classType := by
  cases h with
  | configured hd => exact hd
  | configuration hd => exact hd

end Declaration

def Granted (c : Config) (files : List Scanned) (name : String) (s : Stereotype) : Prop :=
  ∃ f ∈ files, ∃ d ∈ f.declarations, d.className = name ∧ d.Gives c s

theorem mem_rolesToldFor {c : Config} {files : List Scanned} {name : String} {r : Role} :
    r ∈ rolesToldFor (files.map (Scanned.batch c)) name ↔
      (∃ f ∈ files, ∃ d ∈ f.declarations, r ∈ (d.entities c).filterMap (Entity.role? f.package)) ∧
        r.className = name := by
  simp only [rolesToldFor, rolesTold, Scanned.batch, Scanned.entities, List.flatMap_map,
    List.filterMap_flatMap, List.mem_filter, List.mem_flatMap, decide_eq_true_eq]

section Files

variable {c : Config} {files : List Scanned} {name : String}

theorem granted_of_mem_rolesToldFor {s : Stereotype}
    (hs : s ∈ (rolesToldFor (files.map (Scanned.batch c)) name).map (·.stereotype)) :
    Granted c files name s := by
  obtain ⟨r, hr, rfl⟩ := List.mem_map.mp hs
  obtain ⟨⟨f, hf, d, hd, hr⟩, hname⟩ := mem_rolesToldFor.mp hr
  by_cases hk : d.kind = .classType
  · rw [d.roles_entities c f.package hk] at hr
    obtain ⟨s, htold, rfl⟩ := List.mem_map.mp hr
    exact ⟨f, hf, d, hd, hname, Declaration.gives_of_mem_toldStereotypes hk htold⟩
  · obtain ⟨e, he, hr⟩ := List.mem_filterMap.mp hr
    rw [d.role?_entities c f.package hk e he] at hr
    cases hr

theorem Granted.exists_told {s : Stereotype} (h : Granted c files name s) :
    ∃ t ∈ (rolesToldFor (files.map (Scanned.batch c)) name).map (·.stereotype), t.rank ≤ s.rank := by
  obtain ⟨f, hf, d, hd, hname, hs⟩ := h
  obtain ⟨t, ht, hle⟩ := hs.exists_told
  refine ⟨t, List.mem_map.mpr ⟨⟨name, t, if d.package = "" then f.package else d.package⟩, ?_, rfl⟩, hle⟩
  rw [mem_rolesToldFor]
  refine ⟨⟨f, hf, d, hd, ?_⟩, rfl⟩
  rw [d.roles_entities c f.package hs.kind_eq]
  exact List.mem_map.mpr ⟨t, ht, by rw [hname]⟩

end Files

namespace Graph

theorem lookup_of_node? {g : Graph} {name : String} {n : Node} (h : g.node? name = some n) :
    g.lookup name = n := by
  rw [lookup, h]
  rfl

theorem node?_isSome_of_stereotype {g : Graph} {name : String}
    (h : (g.lookup name).stereotype ≠ none) : (g.node? name).isSome := by
  cases hn : g.node? name with
  | none =>
    rw [lookup, hn] at h
    exact absurd rfl h
  | some n => rfl

/-- A class carries the most specific of the stereotypes that its declarations are given in any
file, and is a placeholder where there is none. Edges start only at classes that are declared and
at the products of bean methods. -/
theorem stereotypes_build (c : Config) (files : List Scanned) (name : String) :
    let g := build (files.map (Scanned.batch c))
    (∀ n, g.node? name = some n →
      (∀ s, n.stereotype = some s ↔
        Granted c files name s ∧ ∀ t, Granted c files name t → s.rank ≤ t.rank) ∧
      (n.isPlaceholder = true ↔ ∀ s, ¬ Granted c files name s)) ∧
    ((∃ s, Granted c files name s) → (g.node? name).isSome) ∧
    ((∀ f ∈ files, ∀ d ∈ f.declarations, d.className ≠ name ∧ ¬ d.Produces name) →
      g.outgoing name = []) := by
  intro g
  have hlookup : (g.lookup name).stereotype =
      Stereotype.mostSpecific? ((rolesToldFor (files.map (Scanned.batch c)) name).map (·.stereotype)) := by
    rw [Stereotype.mostSpecific?_eq_argmin, lookup_build]
    rfl
  -- what is told is given, and what is given but not told is outdone by something told
  have hsome := Stereotype.mostSpecific?_eq_some_iff_given (Granted c files name)
    (fun _ => granted_of_mem_rolesToldFor) (fun _ => Granted.exists_told)
  have hnone := Stereotype.mostSpecific?_eq_none_iff_given (Granted c files name)
    (fun _ => granted_of_mem_rolesToldFor) (fun _ => Granted.exists_told)
  rw [← hlookup] at hnone
  simp only [← hlookup] at hsome
  refine ⟨?_, ?_, ?_⟩
  · intro n hn
    rw [lookup_of_node? hn] at hsome hnone
    exact ⟨hsome, Option.isNone_iff_eq_none.trans hnone⟩
  · rintro ⟨s, hs⟩
    apply node?_isSome_of_stereotype
    exact fun h => hnone.mp h s hs
  · intro h
    rw [outgoing, List.filter_eq_nil_iff]
    intro e he hsource
    obtain ⟨f, hf, d, hd, hdraws⟩ := (mem_edges_build c files e).mp he
    obtain ⟨hclass, hproduct⟩ := h f hf d hd
    rw [← beq_iff_eq.mp hsource] at hclass hproduct
    rcases hdraws.source with hs | hs
    · exact hclass hs.symm
    · exact hproduct hs

theorem stereotypes_build_two_files :
    let service : Declaration :=
      ⟨.classType, "A", "p", "A", "", [⟨"Service", [], []⟩, ⟨"Configuration", [], []⟩], [], [], 1⟩
    let injected : Declaration := ⟨.field, "A", "p", "B", "b", [⟨"Autowired", [], []⟩], [], [], 2⟩
    let controller : Declaration :=
      ⟨.classType, "A", "q", "A", "", [⟨"org.web.Controller", [], []⟩], [], [], 1⟩
    let files : List Scanned := [⟨"p/A.java", "p", false, [.declared service, .declared injected]⟩,
      ⟨"q/A.java", "q", false, [.declared controller]⟩]
    let g := build (files.map (Scanned.batch .default))
    g.node? "A" = some ⟨"A", some .controller, some "p"⟩ ∧
      (∀ t, Granted .default files "A" t → Stereotype.controller.rank ≤ t.rank) ∧
      g.node? "B" = some (.placeholder "B") ∧ (∀ s, ¬ Granted .default files "B" s) ∧
      g.outgoing "B" = [] := by
  intro service injected controller files g
  have ha : g.node? "A" = some ⟨"A", some .controller, some "p"⟩ := by decide +kernel
  have hb : g.node? "B" = some (.placeholder "B") := by decide +kernel
  have hA := stereotypes_build .default files "A"
  have hB := stereotypes_build .default files "B"
  have hdeclared : ∀ f ∈ files, ∀ d ∈ f.declarations, d.className ≠ "B" ∧ d.kind ≠ .method := by
    decide
  refine ⟨ha, (((hA.1 _ ha).1 .controller).mp rfl).2, hb, (hB.1 _ hb).2.mp rfl, hB.2.2 ?_⟩
  intro f hf d hd
  obtain ⟨hclass, hkind⟩ := hdeclared f hf d hd
  exact ⟨hclass, fun h => hkind h.1⟩

end Graph

end Wiring
