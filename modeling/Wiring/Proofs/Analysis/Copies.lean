import Wiring.Project
import Wiring.Proofs.Graph.Absorption
import Wiring.Proofs.Graph.Order
import Wiring.Proofs.Graph.Reference
import Wiring.Proofs.Java.Mending

namespace Wiring

deriving instance DecidableEq for Source

namespace Source

def unnamed (s : Source) : Source := { s with path := "" }

theorem declarations_scanUnit_path (path other package : String) (u : Java.Unit) :
    (scanUnit path package u).declarations = (scanUnit other package u).declarations := by
  rw [Java.declarations_scanUnit, Java.declarations_scanUnit]
  rfl

theorem changes_unnamed (c : Config) (s : Source) :
    (s.unnamed.batch c).changes = (s.batch c).changes := by
  simp only [unnamed, batch, analyze, scan]
  cases Text.encode s.text with
  | error cause => rfl
  | ok text =>
    simp only [Batch.changes, Scanned.batch, Scanned.entities]
    rw [declarations_scanUnit_path "" s.path]
    rfl

end Source

namespace Analysis

def changes (c : Config) (sources : List Source) : List Change :=
  sources.flatMap (fun s => (s.batch c).changes)

theorem changes_eq_flatMap (c : Config) (sources : List Source) :
    changes c sources = (sources.map (Source.batch c)).flatMap Batch.changes :=
  (List.flatMap_map ..).symm

theorem graph_eq_changes (c : Config) (sources : List Source) :
    graph c sources = Graph.empty.changes (changes c sources) := by
  rw [graph, Graph.build_eq_changes, changes_eq_flatMap]

theorem changes_unnamed (c : Config) (sources : List Source) :
    changes c (sources.map Source.unnamed) = changes c sources := by
  rw [changes, List.flatMap_map]
  simp only [Source.changes_unnamed]
  rfl

variable (c : Config) {sources copied : List Source}

theorem graph_congr_firsts
    (h : (copied.map Source.unnamed).eraseDups = (sources.map Source.unnamed).eraseDups) :
    graph c copied = graph c sources := by
  have hfirsts : ∀ ss : List Source, graph c ss =
      Graph.empty.changes (changes c (ss.map Source.unnamed).eraseDups) := by
    intro ss
    rw [graph_eq_changes, ← changes_unnamed]
    exact (Graph.changes_eraseDups _ _).symm
  rw [hfirsts, h, ← hfirsts]

section SameContents

theorem mem_changes_congr
    (h : ∀ s, s ∈ copied.map Source.unnamed ↔ s ∈ sources.map Source.unnamed) (x : Change) :
    x ∈ changes c copied ↔ x ∈ changes c sources := by
  rw [← changes_unnamed, ← changes_unnamed c sources]
  simp only [changes, List.mem_flatMap, h]

theorem graph_alike (h : ∀ s, s ∈ copied.map Source.unnamed ↔ s ∈ sources.map Source.unnamed) :
    (graph c copied).Alike (graph c sources) := by
  rw [graph_eq_changes, graph_eq_changes]
  exact Graph.alike_changes (mem_changes_congr c h)

theorem package_graph_congr
    (h : ∀ s, s ∈ copied.map Source.unnamed ↔ s ∈ sources.map Source.unnamed)
    {name package : String}
    (hone : ∀ r ∈ rolesToldFor (sources.map (Source.batch c)) name, r.package = package) :
    ((graph c copied).lookup name).package = ((graph c sources).lookup name).package := by
  rw [← rolesOf_changes, ← changes_eq_flatMap] at hone
  rw [graph_eq_changes, graph_eq_changes]
  exact (Graph.package_changes_congr (fun x => (mem_changes_congr c h x).symm) hone).symm

end SameContents

end Analysis

open Analysis (graph)
open Wiring.Graph (applyAll build)

/-- Telling again what was told before changes nothing, in whatever batch it is told. So copies of
sources change nothing as long as those that come first stand in the same order, and otherwise no
more than the order of what the graph holds and the packages of classes with several. -/
theorem told_again :
    (∀ (ps : List (Entity × String)) (e : Entity) (p q : String), (e, p) ∈ ps →
      (applyAll ps).apply q e = applyAll ps) ∧
    (∀ bs : List (Batch Entity), build (bs ++ bs) = build bs) ∧
    (∀ (c : Config) (sources copied : List Source),
      (copied.map Source.unnamed).eraseDups = (sources.map Source.unnamed).eraseDups →
      graph c copied = graph c sources) ∧
    ∀ (c : Config) (sources copied : List Source),
      (∀ s, s ∈ copied.map Source.unnamed ↔ s ∈ sources.map Source.unnamed) →
      (graph c copied).Alike (graph c sources) ∧
      ∀ name package, (∀ r ∈ rolesToldFor (sources.map (Source.batch c)) name, r.package = package) →
        ((graph c copied).lookup name).package = ((graph c sources).lookup name).package := by
  refine ⟨?_, Graph.build_append_self, ?_, ?_⟩
  · intro ps e p q h
    have hasked : e.change p ∈ Graph.asked ps := List.mem_map.mpr ⟨(e, p), h, rfl⟩
    have hvalid := Graph.valid_empty.changes (Graph.asked ps)
    have hholds := Graph.holds_changes Graph.valid_empty (Graph.asked ps) _ hasked
    rw [Graph.applyAll_eq_changes]
    exact (hholds.of_package q).absorbed hvalid
  · intro c sources copied h
    exact Analysis.graph_congr_firsts c h
  · intro c sources copied h
    exact ⟨Analysis.graph_alike c h, fun _ _ => Analysis.package_graph_congr c h⟩

theorem told_again_outdone :
    let service : Entity := .component "B" .service ""
    let told : List (Entity × String) :=
      [(service, "p"), (.autowired "A" "B" false "b", "p"), (.component "B" .controller "q", "q")]
    let first (path : String) : Source :=
      ⟨path, "", Text.CodePoint.ofString "package p;@Service class X\x7b\x7d"⟩
    let second (path : String) : Source :=
      ⟨path, "", Text.CodePoint.ofString "package q;class Y\x7b@Autowired X x;\x7d"⟩
    let sources := [first "b/X.java", second "c/Y.java"]
    (applyAll told).table = [("B", ⟨"B", some .controller, some "p"⟩), ("A", .placeholder "A")] ∧
      (applyAll told).apply "r" service = applyAll told ∧
      (graph .default sources).names = ["X", "Y"] ∧
      graph .default (sources ++ [first "d/X.java"]) = graph .default sources ∧
      (graph .default (second "a/Y.java" :: sources)).names = ["Y", "X"] ∧
      (graph .default (second "a/Y.java" :: sources)).Alike (graph .default sources) ∧
      ((graph .default (second "a/Y.java" :: sources)).lookup "X").package =
        ((graph .default sources).lookup "X").package := by
  intro service told first second sources
  obtain ⟨hentity, _, hbehind, hfront⟩ := told_again
  have hsame : ∀ s, s ∈ (second "a/Y.java" :: sources).map Source.unnamed ↔
      s ∈ sources.map Source.unnamed := by
    intro s
    rw [List.map_cons, List.mem_cons]
    constructor
    · rintro (rfl | hs)
      · exact List.mem_cons_of_mem _ List.mem_cons_self
      · exact hs
    · exact .inr
  obtain ⟨halike, hpackage⟩ := hfront .default sources (second "a/Y.java" :: sources) hsame
  refine ⟨by decide, hentity told service "p" "r" List.mem_cons_self, by decide +kernel, ?_,
    by decide +kernel, halike, hpackage "X" "p" (by decide +kernel)⟩
  exact hbehind .default sources (sources ++ [first "d/X.java"]) (by decide +kernel)

theorem Project.sourcesBelow_of_sorted {c : Config} {children : List (String × Files.Entry)}
    (h : (((Files.filesOfAll children).filter (fun f => takes c f.1)).map
      (fun f => (relativePath f.1, f.2))).Pairwise (fun a b => Text.precedes a.1 b.1)) :
    sourcesBelow c children = ((Files.filesOfAll children).filter (fun f => takes c f.1)).map
      (fun f => sourceOf (relativePath f.1) f.2) := by
  rw [sourcesBelow, List.mergeSort_of_pairwise h, List.map_map]
  rfl

theorem analyze_copy_in_front :
    let file (folder text : String) : String × Files.Entry :=
      (folder, .folder [("X.java", .file (.text text))])
    let first := "package p;@Service class X\x7b\x7d"
    let second := "package q;@Service class X\x7b\x7d"
    let files := [file "b" first, file "c" second]
    ∃ g h, (Project.analyze .default ⟨files, []⟩ ⟨"", []⟩).1 = .ok g ∧
      (Project.analyze .default ⟨file "a" second :: files, []⟩ ⟨"", []⟩).1 = .ok h ∧
      (g.lookup "X").package = some "p" ∧ (h.lookup "X").package = some "q" ∧ g ≠ h := by
  intro file first second files
  have hg : ((graph .default (Project.sourcesBelow .default files)).lookup "X").package =
      some "p" := by
    rw [Project.sourcesBelow_of_sorted (by decide +kernel)]
    decide +kernel
  have hh : ((graph .default (Project.sourcesBelow .default (file "a" second :: files))).lookup
      "X").package = some "q" := by
    rw [Project.sourcesBelow_of_sorted (by decide +kernel)]
    decide +kernel
  refine ⟨_, _, rfl, rfl, hg, hh, ?_⟩
  intro h
  rw [h, hh] at hg
  exact absurd hg (by decide)

end Wiring
