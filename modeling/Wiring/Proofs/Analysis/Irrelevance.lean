import Wiring.Dot
import Wiring.Proofs.Analysis.Copies
import Wiring.Proofs.Classification.Relations
import Wiring.Statistics

namespace Wiring

namespace Text

theorem encodeFrom_of_surrogate {s : List CodePoint} {code : Nat} (h : .surrogate code ∈ s)
    (seen : Nat) : ∃ cause, encodeFrom seen s = .error cause := by
  induction s generalizing seen with
  | nil => cases h
  | cons x s ih =>
    cases x with
    | surrogate code' => exact ⟨_, rfl⟩
    | scalar c =>
      have hs : .surrogate code ∈ s := by simpa using h
      obtain ⟨cause, hcause⟩ := ih hs (seen + 1)
      exact ⟨cause, by rw [encodeFrom, hcause]; rfl⟩

end Text

def Config.decisive (c : Config) : List String :=
  c.stereotypes.map (·.1) ++
    ["Configuration", "SpringBootApplication", "Import", "ComponentScan", "Bean", "Autowired"]

namespace Annotation

namespace Kind

def decisive : List Kind :=
  [configuration, springBootApplication, classImport, componentScan, bean, autowired]

theorem name_mem_decisive (c : Config) {k : Kind} (hk : k ∈ decisive) : k.name ∈ c.decisive :=
  List.mem_append_right _ (List.mem_map_of_mem (f := name) hk)

end Kind

theorem kind_notMem_decisive {c : Config} {a : Annotation} (h : a.simpleName ∉ c.decisive) :
    a.kind ∉ Kind.decisive := by
  intro hk
  have hother : a.kind ≠ .other := ne_of_mem_of_not_mem hk (by decide)
  rw [(kind_eq_iff hother).mp rfl] at h
  exact h (Kind.name_mem_decisive c hk)

end Annotation

namespace Declaration

def carried (d : Declaration) : List Annotation :=
  d.annotations ++ d.owner ++ d.parameters.flatMap (·.annotations)

variable {c : Config} {d : Declaration}

theorem has_eq_false {k : Annotation.Kind} (hk : k ∈ Annotation.Kind.decisive)
    (h : ∀ a ∈ d.annotations, a.simpleName ∉ c.decisive) : d.has k = false := by
  rw [← Bool.not_eq_true, has_iff]
  rintro ⟨a, ha, rfl⟩
  exact Annotation.kind_notMem_decisive (h a ha) hk

theorem autowiredHere_eq_false (h : ∀ a ∈ d.carried, a.simpleName ∉ c.decisive) :
    d.autowiredHere = false := by
  rw [← Bool.not_eq_true, autowiredHere_iff]
  rintro ⟨a, ha, hk⟩
  have hmem : a ∈ d.carried := List.mem_append_left _ (List.mem_append.mpr ha)
  have hkind : a.kind ∈ Annotation.Kind.decisive := by rw [hk]; decide
  exact Annotation.kind_notMem_decisive (h a hmem) hkind

theorem annotationEntities_eq_nil {a : Annotation} (h : a.simpleName ∉ c.decisive) :
    d.annotationEntities a = [] := by
  have hk := Annotation.kind_notMem_decisive h
  unfold annotationEntities
  split
  · next himport => rw [himport] at hk; exact absurd (by decide) hk
  · next hscan => rw [hscan] at hk; exact absurd (by decide) hk
  · next happlication => rw [happlication] at hk; exact absurd (by decide) hk
  · rfl

theorem classEntities_eq_nil (h : ∀ a ∈ d.annotations, a.simpleName ∉ c.decisive) :
    d.classEntities c = [] := by
  have hstereotypes : d.stereotypes c = [] := by
    rw [stereotypes, List.filterMap_eq_nil_iff]
    intro a ha
    exact StereotypeMap.get?_eq_none (fun hkey => h a ha (List.mem_append_left _ hkey))
  have hentities : d.annotations.flatMap d.annotationEntities = [] := by
    rw [List.flatMap_eq_nil_iff]
    intro a ha
    exact annotationEntities_eq_nil (h a ha)
  rw [classEntities, has_eq_false (by decide) h, hstereotypes, hentities]
  rfl

theorem methodEntities_eq_nil (h : ∀ a ∈ d.annotations, a.simpleName ∉ c.decisive) :
    d.methodEntities = [] := by
  have hbean : d.beanAnnotation? = none := by
    rw [← Option.not_isSome_iff_eq_none, beanAnnotation?_isSome, ← has_iff,
      has_eq_false (by decide) h]
    decide
  rw [methodEntities, hbean]

theorem entities_eq_nil (h : ∀ a ∈ d.carried, a.simpleName ∉ c.decisive) : d.entities c = [] := by
  have hown : ∀ a ∈ d.annotations, a.simpleName ∉ c.decisive :=
    fun a ha => h a (List.mem_append_left _ (List.mem_append_left _ ha))
  unfold entities
  cases d.kind with
  | classType => exact classEntities_eq_nil hown
  | method => exact methodEntities_eq_nil hown
  | field =>
    have hautowired : d.has .autowired = false := has_eq_false (by decide) hown
    simp [hautowired]
  | constructorParameter => simp [autowiredHere_eq_false h]
  | methodParameter => simp [autowiredHere_eq_false h]

end Declaration

namespace Source

def Unencodable (s : Source) : Prop := ∃ code, .surrogate code ∈ s.text

/-- The source can be scanned, and nothing in it carries a decisive annotation. -/
def Irrelevant (c : Config) (s : Source) : Prop :=
  ∃ scanned, s.scan = .ok scanned ∧
    ∀ d ∈ scanned.declarations, ∀ a ∈ d.carried, a.simpleName ∉ c.decisive

theorem Unencodable.scan_eq {s : Source} (h : s.Unencodable) :
    ∃ cause, s.scan = .error ⟨s.path, cause⟩ := by
  obtain ⟨code, hcode⟩ := h
  obtain ⟨cause, hcause⟩ := Text.encodeFrom_of_surrogate hcode 0
  refine ⟨cause, ?_⟩
  rw [scan, Text.encode, hcause]

variable {c : Config} {s : Source}

theorem Unencodable.changes_batch (h : s.Unencodable) : (s.batch c).changes = [] := by
  obtain ⟨cause, hcause⟩ := h.scan_eq
  rw [batch, analyze, hcause]
  rfl

theorem Irrelevant.changes_batch (h : s.Irrelevant c) : (s.batch c).changes = [] := by
  obtain ⟨scanned, hscan, hnone⟩ := h
  have hentities : scanned.entities c = [] := by
    rw [Scanned.entities, List.flatMap_eq_nil_iff]
    intro d hd
    exact Declaration.entities_eq_nil (hnone d hd)
  rw [batch, analyze, hscan]
  simp only [Batch.changes, Scanned.batch, hentities, List.map_nil]

end Source

namespace Analysis

theorem graph_insert (c : Config) {s : Source} (h : (s.batch c).changes = [])
    (before after : List Source) : graph c (before ++ s :: after) = graph c (before ++ after) := by
  simp only [graph_eq_changes, changes, List.flatMap_append, List.flatMap_cons, h, List.nil_append]

/-- A source that cannot be encoded, or that carries no decisive annotation, influences neither the
graph nor what is made of it. -/
theorem graph_insert_irrelevant (c : Config) (before after : List Source) (s : Source) :
    (s.Unencodable → ∃ cause, s.scan = .error ⟨s.path, cause⟩) ∧
    (s.Unencodable ∨ s.Irrelevant c →
      let g := graph c (before ++ s :: after)
      let h := graph c (before ++ after)
      g = h ∧ Dot.render c g = Dot.render c h ∧ g.toJson = h.toJson ∧
        g.statistics = h.statistics) := by
  refine ⟨Source.Unencodable.scan_eq, ?_⟩
  intro hs g h
  have hgraph : g = h := by
    apply graph_insert c
    rcases hs with hs | hs
    · exact hs.changes_batch
    · exact hs.changes_batch
  rw [hgraph]
  exact ⟨rfl, rfl, rfl, rfl⟩

theorem graph_insert_irrelevant_plain :
    let service : Source :=
      ⟨"A.java", "", Text.CodePoint.ofString "@Service class A\x7b@Autowired B b;\x7d"⟩
    let broken : Source :=
      ⟨"B.java", "", Text.CodePoint.ofString "@Service class B\x7b\x7d" ++ [.surrogate 0xdc80]⟩
    let plain : Source :=
      ⟨"C.java", "", Text.CodePoint.ofString "@Entity class B\x7b@Inject A a;\x7d"⟩
    broken.Unencodable ∧ plain.Irrelevant .default ∧
      (graph .default [service]).names = ["A", "B"] ∧
      graph .default [broken, service] = graph .default [service] ∧
      graph .default [service, plain] = graph .default [service] := by
  intro service broken plain
  have hbroken : broken.Unencodable := ⟨0xdc80, List.mem_append_right _ List.mem_cons_self⟩
  have hplain : plain.Irrelevant .default := by
    refine ⟨Source.scanUnit plain.path plain.package
      (Java.Unit.ofText "@Entity class B\x7b@Inject A a;\x7d".toList), ?_, by decide +kernel⟩
    rw [Source.scan, Text.encode_ofString]
  exact ⟨hbroken, hplain, by decide +kernel,
    ((graph_insert_irrelevant .default [] [service] broken).2 (.inl hbroken)).1,
    ((graph_insert_irrelevant .default [service] [] plain).2 (.inr hplain)).1⟩

end Analysis

end Wiring
