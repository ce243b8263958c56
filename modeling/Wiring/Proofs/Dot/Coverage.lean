import Wiring.Proofs.Dot.Declared
import Wiring.Statistics

namespace Wiring

/-- A component with a known package that neither scans nor is imported. -/
structure Graph.NeedsScan (g : Graph) (n : Node) : Prop where
  stereotype : n.stereotype ≠ none
  package : n.package ≠ none
  scans_not : ∀ s ∈ g.scans, s.source ≠ n.name
  imported_not : ∀ e ∈ g.edges, e.kind = .classImport → e.target ≠ n.name

namespace Graph

variable {g : Graph} {n : Node}

theorem isRegistered_eq_false {name : String} : g.isRegistered name = false ↔
    (∀ s ∈ g.scans, s.source ≠ name) ∧ ∀ e ∈ g.edges, e.kind = .classImport → e.target ≠ name := by
  simp [isRegistered]

theorem needsScan_iff : g.NeedsScan n ↔
    (n.isPlaceholder = false ∧ n.package.isSome = true) ∧ g.isRegistered n.name = false := by
  rw [isRegistered_eq_false, Node.isPlaceholder, Option.isNone_eq_false_iff, Option.isSome_iff_ne_none,
    Option.isSome_iff_ne_none]
  constructor
  · rintro ⟨hs, hp, hscan, himport⟩
    exact ⟨⟨hs, hp⟩, hscan, himport⟩
  · rintro ⟨⟨hs, hp⟩, hscan, himport⟩
    exact ⟨hs, hp, hscan, himport⟩

theorem mem_uncovered : n ∈ g.uncovered ↔
    n ∈ g.nodes ∧ g.scans ≠ [] ∧ g.NeedsScan n ∧ ∀ s ∈ g.scans, n.isUnder s.package = false := by
  unfold uncovered
  cases hs : g.scans with
  | nil => simp
  | cons s rest =>
    rw [needsScan_iff, if_neg (by simp), List.mem_filter, ← hs]
    simp [hs, and_assoc]

theorem uncovered_eq_nil (h : g.scans = []) : g.uncovered = [] := by
  rw [uncovered, h]
  rfl

theorem name_mem_uncovered (hg : (g.nodes.map (·.name)).Nodup) (hn : n ∈ g.nodes) :
    n.name ∈ g.statistics.uncovered ↔ n ∈ g.uncovered := by
  rw [statistics, List.mem_map]
  constructor
  · rintro ⟨m, hm, he⟩
    have hmn : m = n := List.inj_on_of_nodup_map hg (mem_uncovered.mp hm).1 hn he
    exact hmn ▸ hm
  · intro h
    exact ⟨n, h, rfl⟩

end Graph

namespace Dot

def Contained (c : Config) (g : Graph) (name : String) : Prop :=
  ∃ package, containsLine package name ∈ componentScans c g

variable {c : Config} {g : Graph}

theorem contained_iff {n : Node} (hg : (g.nodes.map (·.name)).Nodup) (hn : n ∈ g.nodes) :
    Contained c g n.name ↔ ∃ s ∈ drawnScans c g, n.isUnder s.package = true := by
  simp only [Contained, mem_componentScans, List.mem_map]
  constructor
  · rintro ⟨_, ⟨s, hs, rfl⟩, m, hm, he⟩
    obtain ⟨hm, hunder⟩ := List.mem_filter.mp hm
    have hmn : m = n := List.inj_on_of_nodup_map hg hm hn he
    exact ⟨s, hs, hmn ▸ hunder⟩
  · rintro ⟨s, hs, hunder⟩
    exact ⟨s.package, ⟨s, hs, rfl⟩, n, List.mem_filter.mpr ⟨hn, hunder⟩, rfl⟩

theorem edgeLine_eq_containsLine {e : Edge} {package name : String}
    (h : edgeLine e = containsLine package name) :
    e.label = "contains" ∧ e.source = package ∧ e.target = name := by
  obtain ⟨hsource, htarget, hlabel⟩ := Line.edge.inj h
  have hquote : "label=\"contains\"" = "label=" ++ quote "contains" := by decide
  rw [hquote, String.append_right_inj] at hlabel
  exact ⟨quote_injective hlabel, hsource, htarget⟩

theorem containsLine_notMem_legend {package name : String} : containsLine package name ∉ legend := by
  simp [legend, containsLine]

theorem exists_edge_of_containsLine {package name : String}
    (h : containsLine package name ∈ legend ++ .blank :: components g ++ .blank :: relations c g) :
    ∃ e ∈ g.edges, e.label = "contains" ∧ e.source = package ∧ e.target = name := by
  rcases List.mem_append.mp h with h | h
  · rcases List.mem_append.mp h with h | h
    · exact absurd h containsLine_notMem_legend
    · simp [components, containsLine, nodeLine] at h
  · simp only [relations, List.mem_cons, List.mem_map] at h
    rcases h with h | h | ⟨e, he, h⟩
    · cases h
    · cases h
    · exact ⟨e, List.mem_of_mem_filter he, edgeLine_eq_containsLine h⟩

theorem mem_drawnScans {s : Scan} :
    s ∈ drawnScans c g ↔ c.hasFeature .componentScan = true ∧ s ∈ g.scans := by
  unfold drawnScans
  split
  · next h => simp [h]
  · next h => simp [h]

/-- The report and the document agree: where scans are drawn, a component that needs a scan is
reported as uncovered exactly when no folder holds it. -/
theorem uncovered_iff_not_contained (c : Config) (g : Graph) (hg : (g.nodes.map (·.name)).Nodup) :
    (render c g).toList =
        "digraph Components \x7b\n".toList ++ ((body c g).flatMap lineText ++ ['\x7d', '\n']) ∧
    (∃ before, body c g = before ++ componentScans c g ∧
      ∀ package name, containsLine package name ∈ before →
        ∃ e ∈ g.edges, e.label = "contains" ∧ e.source = package ∧ e.target = name) ∧
    (g.scans ≠ [] → c.hasFeature .componentScan = true → ∀ n ∈ g.nodes, g.NeedsScan n →
      (n.name ∈ g.statistics.uncovered ↔ ¬ Contained c g n.name)) ∧
    (∀ name ∈ g.statistics.uncovered, ¬ Contained c g name) ∧
    (g.scans = [] → g.statistics.uncovered = [] ∧ ∀ name, ¬ Contained c g name) := by
  refine ⟨toList_render c g, ⟨_, rfl, fun _ _ => exists_edge_of_containsLine⟩, ?_, ?_, ?_⟩
  · intro hscans hc n hn hneeds
    rw [Graph.name_mem_uncovered hg hn, contained_iff hg hn, Graph.mem_uncovered]
    simp [hn, hscans, hneeds, mem_drawnScans, hc]
  · intro name hname
    obtain ⟨n, hn, rfl⟩ := List.mem_map.mp hname
    obtain ⟨hmem, _, _, hunder⟩ := Graph.mem_uncovered.mp hn
    rw [contained_iff hg hmem]
    rintro ⟨s, hs, hcovers⟩
    rw [hunder s (mem_drawnScans.mp hs).2] at hcovers
    cases hcovers
  · intro hscans
    have hreport : g.statistics.uncovered = [] := by
      rw [Graph.statistics, Graph.uncovered_eq_nil hscans]
      rfl
    refine ⟨hreport, ?_⟩
    rintro name ⟨package, h⟩
    obtain ⟨s, hs, _⟩ := List.mem_map.mp ((mem_componentScans c g).mp h).1
    rw [mem_drawnScans, hscans] at hs
    cases hs.2

theorem uncovered_iff_not_contained_overlap :
    let near : Node := ⟨"Near", some .service, some "a.b"⟩
    let far : Node := ⟨"Far", some .service, some "ab"⟩
    let nodes : List Node :=
      [⟨"Main", some .springBootApplication, some "a"⟩, near, far,
        ⟨"Imported", some .configuration, some "c"⟩, .placeholder "Used"]
    let edges : List Edge :=
      [⟨"Main", "Imported", .classImport, "@Import"⟩, ⟨"Near", "Used", .autowired, "@Autowired"⟩]
    let table : NodeTable := nodes.map (fun n => (n.name, n))
    let g : Graph := ⟨table, edges, ⟨edges⟩, [⟨"Main", "a"⟩, ⟨"Main", "a.b"⟩]⟩
    let unscanned : Graph := ⟨table, edges, ⟨edges⟩, []⟩
    (g.nodes.map (·.name)).Nodup ∧ g.scans ≠ [] ∧ Config.full.hasFeature .componentScan = true ∧
      near ∈ g.nodes ∧ g.NeedsScan near ∧ far ∈ g.nodes ∧ g.NeedsScan far ∧
      g.statistics.uncovered = ["Far"] ∧ ¬ Contained .full g "Far" ∧ Contained .full g "Near" ∧
      unscanned.statistics.uncovered = [] ∧ ¬ Contained .full unscanned "Near" ∧
      (render .full unscanned).toList = "digraph Components \x7b\n".toList ++
        ((body .full unscanned).flatMap lineText ++ ['\x7d', '\n']) := by
  intro near far nodes edges table g unscanned
  have hnames : (g.nodes.map (·.name)).Nodup := by decide
  have hscans : g.scans ≠ [] := by decide
  have hnear : g.NeedsScan near := ⟨by decide, by decide, by decide, by decide⟩
  have hfar : g.NeedsScan far := ⟨by decide, by decide, by decide, by decide⟩
  have hreport : g.statistics.uncovered = ["Far"] := by decide +kernel
  obtain ⟨-, -, hagree, -, -⟩ := uncovered_iff_not_contained .full g hnames
  obtain ⟨htext, -, -, -, hnone⟩ := uncovered_iff_not_contained .full unscanned hnames
  have hout := hagree hscans rfl far (by decide) hfar
  have hin := hagree hscans rfl near (by decide) hnear
  rw [hreport] at hout hin
  have hheld : Contained .full g "Near" := by
    by_contra h
    exact absurd (hin.mpr h) (by decide)
  exact ⟨hnames, hscans, rfl, by decide, hnear, by decide, hfar, hreport,
    hout.mp List.mem_cons_self, hheld, (hnone rfl).1, (hnone rfl).2 "Near", htext⟩

end Dot

end Wiring
