import Wiring.Proofs.Analysis.Irrelevance
import Wiring.Proofs.Annotation.Scripts
import Wiring.Proofs.Classification.Stereotypes
import Wiring.Proofs.Setup.Marks

namespace Wiring

open Wiring.Text

variable {s : Stereotype}

theorem stereotypes_withStereotypes (u : Setup) (k : Nat) {n : List Char} (hn : n.head? ≠ some '@')
    (s : Stereotype) :
    (u.withStereotypes [(String.ofList (List.replicate k '@' ++ n), s)]).build.stereotypes =
      defaultStereotypes.set (String.ofList n) s := by
  have hdrop : (List.replicate k '@' ++ n).dropWhile (· == '@') = n := by
    apply dropWhile_append_stop
    · intro c hc
      simp [List.eq_of_mem_replicate hc]
    · rintro c hc
      by_contra hat
      have hat : c = '@' := by simpa using hat
      rw [hat] at hc
      exact hn hc
  simp [Setup.withStereotypes, Setup.build, StereotypeMap.setAll, StereotypeMap.set, hdrop]

namespace Declaration

open Annotation

variable {c : Config} {d : Declaration} {a : Annotation} {name : String}

theorem component_notMem_annotationEntities {x p : String} {t : Stereotype} :
    .component x t p ∉ d.annotationEntities a := by
  intro h
  cases d.role?_annotationEntities "" a _ h

theorem component_mem_entities (hd : d.kind = .classType) (ha : d.annotations = [a])
    (hs : c.stereotypes.get? a.simpleName = some s) {t : Stereotype} {p : String} :
    .component d.className t p ∈ d.entities c ↔ t = s ∧ p = d.package := by
  have hstereotypes : d.stereotypes c = [s] := by simp [stereotypes, ha, hs]
  have hconfiguration : .component d.className t p ∉
      if d.has .configuration then [Entity.configuration d.className d.package] else [] := by
    split <;> simp
  simp [entities, hd, classEntities, hstereotypes, Stereotype.mostSpecific?, hconfiguration, ha,
    component_notMem_annotationEntities]

theorem gives_iff (hd : d.kind = .classType) (ha : d.annotations = [a])
    (hs : c.stereotypes.get? a.simpleName = some s) {t : Stereotype} :
    d.Gives c t ↔ t = s ∨ a.simpleName = "Configuration" ∧ t = .configuration := by
  constructor
  · intro h
    cases h with
    | configured _ hb ht =>
      rw [ha, List.mem_singleton] at hb
      rw [hb, hs] at ht
      exact .inl (Option.some.inj ht).symm
    | configuration _ hb hname =>
      rw [ha, List.mem_singleton] at hb
      exact .inr ⟨hb ▸ hname, rfl⟩
  · rintro (rfl | ⟨hname, rfl⟩)
    · exact .configured hd (ha ▸ List.mem_singleton_self a) hs
    · exact .configuration hd (ha ▸ List.mem_singleton_self a) hname

end Declaration

def DeclaredOnce (files : List Scanned) (d : Declaration) : Prop :=
  (∃ f ∈ files, d ∈ f.declarations) ∧
    ∀ f ∈ files, ∀ e ∈ f.declarations, e.kind = .classType → e.className = d.className → e = d

theorem DeclaredOnce.granted_iff {c : Config} {files : List Scanned} {d : Declaration}
    (h : DeclaredOnce files d) {t : Stereotype} :
    Granted c files d.className t ↔ d.Gives c t := by
  obtain ⟨⟨f, hf, hd⟩, honce⟩ := h
  constructor
  · rintro ⟨g, hg, e, he, hname, hgives⟩
    rwa [← honce g hg e he hgives.kind_eq hname]
  · intro hgives
    exact ⟨f, hf, d, hd, rfl, hgives⟩

namespace Graph

theorem exists_node_of_granted {c : Config} {files : List Scanned} {name : String}
    (hs : Granted c files name s) (hbest : ∀ t, Granted c files name t → s.rank ≤ t.rank) :
    ∃ node, (build (files.map (Scanned.batch c))).node? name = some node ∧
      node.stereotype = some s := by
  have hlookup : ((build (files.map (Scanned.batch c))).lookup name).stereotype = some s := by
    have hgiven := Stereotype.mostSpecific?_eq_some_iff_given (Granted c files name)
      (fun _ => granted_of_mem_rolesToldFor) (fun _ => Granted.exists_told) s
    rw [Stereotype.mostSpecific?_eq_argmin] at hgiven
    rw [lookup_build]
    exact hgiven.mpr ⟨hs, hbest⟩
  obtain ⟨node, hnode⟩ := Option.isSome_iff_exists.mp
    (node?_isSome_of_stereotype (by rw [hlookup]; exact Option.some_ne_none s))
  rw [lookup_of_node? hnode] at hlookup
  exact ⟨node, hnode, hlookup⟩

end Graph

/-- A class whose one annotation has a simple name that is set up for a stereotype is a component of
that stereotype, and so is its node; only `@Configuration` makes more of a class than a component. -/
theorem Setup.entities_withStereotypes (u : Setup) (k : Nat) {n : List Char}
    (hn : Annotation.IsSegment n) (s : Stereotype) :
    let name := String.ofList n
    let c := (u.withStereotypes [(String.ofList (List.replicate k '@' ++ n), s)]).build
    (∃ a, Annotation.read ('@' :: n) = .ok a ∧ a.simpleName = name) ∧
    ∀ d a, d.kind = .classType → d.annotations = [a] → a.simpleName = name →
      (∀ t p, .component d.className t p ∈ d.entities c ↔ t = s ∧ p = d.package) ∧
      ∀ files, DeclaredOnce files d →
        ∃ node, (Graph.build (files.map (Scanned.batch c))).node? d.className = some node ∧
          node.stereotype =
            if name = "Configuration" ∧ s = .component then some .configuration else some s := by
  intro name c
  have hc : c.stereotypes.get? name = some s := by
    have hat : n.head? ≠ some '@' := by
      obtain ⟨d, r, rfl, hd, -⟩ := hn
      rintro ⟨rfl⟩
      exact absurd hd (by decide)
    rw [stereotypes_withStereotypes u k hat]
    exact StereotypeMap.get?_set _ _ s
  constructor
  · have hdotted : Annotation.IsDotted [n] := ⟨by simp, by simpa using hn⟩
    have hread := Annotation.read_name hdotted
    have hdots : Annotation.dots [n] = n := List.append_nil n
    rw [hdots] at hread
    exact ⟨_, hread, hdotted.simpleName_eq⟩
  · intro d a hd ha hname
    rw [← hname] at hc
    refine ⟨fun t p => Declaration.component_mem_entities hd ha hc, ?_⟩
    intro files honce
    have hgiven {t : Stereotype} : Granted c files d.className t ↔
        t = s ∨ name = "Configuration" ∧ t = .configuration := by
      rw [honce.granted_iff, Declaration.gives_iff hd ha hc, hname]
    split
    · next h =>
      apply Graph.exists_node_of_granted (hgiven.mpr (.inr ⟨h.1, rfl⟩))
      intro t ht
      rcases hgiven.mp ht with rfl | ⟨-, rfl⟩
      · rw [h.2]
        decide
      · exact Nat.le_refl _
    · next h =>
      apply Graph.exists_node_of_granted (hgiven.mpr (.inl rfl))
      intro t ht
      rcases hgiven.mp ht with rfl | ⟨hconfiguration, rfl⟩
      · exact Nat.le_refl _
      · have hs : s ≠ .component := fun hs => h ⟨hconfiguration, hs⟩
        cases s <;> first | decide | exact absurd rfl hs

theorem Setup.entities_withStereotypes_named :
    let d : Declaration := ⟨.classType, "A", "p", "A", "", [⟨"com.acme.Named", [], []⟩], [], [], 1⟩
    let c := (Setup.empty.withStereotypes [("@Named", .service)]).build
    let files : List Scanned := [⟨"A.java", "p", false, [.declared d]⟩]
    Annotation.IsSegment "Named".toList ∧ DeclaredOnce files d ∧
      .component "A" .service "p" ∈ d.entities c ∧
      ∃ node, (Graph.build (files.map (Scanned.batch c))).node? "A" = some node ∧
        node.stereotype = some .service := by
  intro d c files
  have hn : Annotation.IsSegment "Named".toList :=
    Annotation.isSegment_of_all (by decide) (by decide +kernel)
  have honce : DeclaredOnce files d := by
    have hfile : (⟨"A.java", "p", false, [.declared d]⟩ : Scanned).declarations = [d] := rfl
    constructor
    · exact ⟨_, List.mem_singleton_self _, by rw [hfile]; exact List.mem_singleton_self d⟩
    · intro f hf e he _ _
      rw [List.mem_singleton.mp hf, hfile] at he
      exact List.mem_singleton.mp he
  obtain ⟨-, h⟩ := Setup.entities_withStereotypes .empty 1 hn .service
  obtain ⟨hcomponent, hnode⟩ := h d ⟨"com.acme.Named", [], []⟩ rfl rfl (by decide +kernel)
  exact ⟨hn, honce, (hcomponent .service "p").mpr ⟨rfl, rfl⟩, hnode files honce⟩

theorem Setup.withStereotypes_misses :
    let configured : Declaration :=
      ⟨.classType, "A", "p", "A", "", [⟨"Configuration", [], []⟩], [], [], 1⟩
    let c := (Setup.empty.withStereotypes [("Configuration", .component)]).build
    let named : Declaration := { configured with annotations := [⟨"com.acme.Named", [], []⟩] }
    let c' := (Setup.empty.withStereotypes [("com.acme.Named", .service)]).build
    Annotation.read "@Configuration".toList = .ok ⟨"Configuration", [], []⟩ ∧
      (Graph.build [⟨"A.java", "p", configured.entities c⟩]).node? "A" =
        some ⟨"A", some .configuration, some "p"⟩ ∧
      Annotation.read "@com.acme.Named".toList = .ok ⟨"com.acme.Named", [], []⟩ ∧
      named.entities c' = [] := by
  intro configured c named c'
  refine ⟨?_, by decide +kernel, ?_, by decide +kernel⟩
  · exact Annotation.read_of_walk (n := 60) (by decide) (by cbv)
  · exact Annotation.read_of_walk (n := 60) (by decide) (by cbv)

end Wiring
