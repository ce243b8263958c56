import Wiring.Proofs.Dot.Coverage
import Wiring.Proofs.Graph.Reference
import Wiring.Proofs.Packages

namespace Wiring

inductive Operation.Records : Operation → Prop
  | edge (e : Edge) : Records (.addEdge e)
  | scan (s : Scan) : Records (.addScan s)
  | entity (batchPackage : String) (e : Entity) (h : e.role? batchPackage = none) :
    Records (.offer batchPackage (.entity e))

theorem Node.isUnder_mono {n : Node} {q r : String} (hqr : Text.liesUnder q r = true)
    (h : n.isUnder q = true) : n.isUnder r = true := by
  rw [isUnder, Bool.and_eq_true, Option.any_eq_true] at h ⊢
  obtain ⟨hplace, p, hp, hunder⟩ := h
  exact ⟨hplace, p, hp, Text.liesUnder_trans hunder hqr⟩

namespace Graph

variable {g h k : Graph} {n : Node}

theorem coveredBy_sublist (g : Graph) {q r : String} (hqr : Text.liesUnder q r = true) :
    (g.coveredBy q).Sublist (g.coveredBy r) :=
  List.monotone_filter_right g.nodes (fun _ => Node.isUnder_mono hqr)

def Mentions (g h : Graph) : Prop :=
  ∃ names : List String, h.nodes = g.nodes ++ names.map Node.placeholder

theorem Mentions.of_table_eq (ht : h.table = g.table) : g.Mentions h :=
  ⟨[], by rw [nodes, ht, List.map_nil, List.append_nil, nodes]⟩

theorem Mentions.trans (hg : g.Mentions h) (hh : h.Mentions k) : g.Mentions k := by
  obtain ⟨names, hg⟩ := hg
  obtain ⟨more, hh⟩ := hh
  exact ⟨names ++ more, by rw [hh, hg, List.map_append, List.append_assoc]⟩

theorem Mentions.ensure (g : Graph) (name : String) : g.Mentions (g.ensure name) := by
  unfold Graph.ensure
  split
  · exact .of_table_eq rfl
  · exact ⟨[name], by simp [nodes]⟩

theorem Mentions.addEdge (g : Graph) (e : Edge) : g.Mentions (g.addEdge e) := by
  have hends : g.Mentions ((g.ensure e.source).ensure e.target) := (ensure g _).trans (ensure _ _)
  simp only [Graph.addEdge]
  split
  · exact hends
  · exact hends.trans (.of_table_eq rfl)

theorem Mentions.addScan (g : Graph) (s : Scan) : g.Mentions (g.addScan s) :=
  .of_table_eq (table_addScan g s)

theorem Mentions.step {op : Operation} (hop : op.Records) (g : Graph) : g.Mentions (g.step op).1 := by
  cases hop with
  | edge e => exact .addEdge g e
  | scan s => exact .addScan g s
  | entity batchPackage e hrole =>
    cases e with
    | scan source package => exact (Mentions.ensure g source).trans (.addScan _ _)
    | classImport source target => exact .addEdge g _
    | bean source target => exact .addEdge g _
    | autowired source target => exact .addEdge g _
    | configuration c p => cases hrole
    | component c s p => cases hrole

theorem Mentions.run {ops : List Operation} (hops : ∀ op ∈ ops, op.Records) (g : Graph) :
    g.Mentions (g.run ops) := by
  induction ops generalizing g with
  | nil => exact .of_table_eq rfl
  | cons op ops ih =>
    obtain ⟨hop, hops⟩ := List.forall_mem_cons.mp hops
    exact (Mentions.step hop g).trans (ih hops _)

def misses (g : Graph) (n : Node) : Bool :=
  !n.isPlaceholder && n.package.isSome && !g.isRegistered n.name &&
    !g.scans.any (fun s => n.isUnder s.package)

theorem misses_iff : g.misses n = true ↔
    g.NeedsScan n ∧ ∀ s ∈ g.scans, n.isUnder s.package = false := by
  simp [misses, needsScan_iff]

theorem misses_placeholder (g : Graph) (name : String) : g.misses (.placeholder name) = false := rfl

theorem uncovered_eq_filter (hs : g.scans ≠ []) : g.uncovered = g.nodes.filter g.misses := by
  rw [uncovered, if_neg (by simpa using hs)]
  rfl

theorem NeedsScan.of_extends (hgh : g.Extends h) (hn : h.NeedsScan n) : g.NeedsScan n where
  stereotype := hn.stereotype
  package := hn.package
  scans_not s hs := hn.scans_not s (hgh.scans.subset hs)
  imported_not e he := hn.imported_not e (hgh.edges.subset he)

theorem misses_of_extends (hgh : g.Extends h) (hn : h.misses n = true) : g.misses n = true := by
  obtain ⟨hneeds, hout⟩ := misses_iff.mp hn
  exact misses_iff.mpr ⟨hneeds.of_extends hgh, fun s hs => hout s (hgh.scans.subset hs)⟩

theorem uncovered_sublist_of_mentions (hs : g.scans ≠ []) (hgh : g.Extends h) (hm : g.Mentions h) :
    h.uncovered.Sublist g.uncovered := by
  obtain ⟨names, hnodes⟩ := hm
  have hscans : h.scans ≠ [] := hgh.scans.ne_nil hs
  have hnew : (names.map Node.placeholder).filter h.misses = [] := by
    simp [misses_placeholder]
  rw [uncovered_eq_filter hs, uncovered_eq_filter hscans, hnodes, List.filter_append, hnew,
    List.append_nil]
  exact List.monotone_filter_right g.nodes (fun _ => misses_of_extends hgh)

theorem uncovered_run_sublist {ops : List Operation} (hs : g.scans ≠ [])
    (hops : ∀ op ∈ ops, op.Records) : (g.run ops).uncovered.Sublist g.uncovered :=
  uncovered_sublist_of_mentions hs (.run g ops) (.run hops g)

example :
    let g : Graph := ⟨[("Jobs", ⟨"Jobs", some .service, some "com.app"⟩)], [], .empty, []⟩
    g.uncovered = [] ∧ (g.addScan ⟨"Main", "org"⟩).uncovered = g.nodes := by
  decide

/-- A package lies under another exactly where its segments begin with those of the other, or the
other is empty. So this is an order, and no package ends within a segment of what lies under it. A
package covers all that the packages under it cover, in the same order, and where something is
scanned already, recording more scans and edges brings no component to the uncovered ones. -/
theorem covered_by_segments :
    (∀ p q : String,
      Text.liesUnder p q = true ↔ q = "" ∨ Text.segments q <+: Text.segments p) ∧
    (∀ p : String, Text.liesUnder p p = true) ∧
    (∀ p q r : String, Text.liesUnder p q = true → Text.liesUnder q r = true →
      Text.liesUnder p r = true) ∧
    (∀ p q : String, Text.liesUnder p q = true → Text.liesUnder q p = true → p = q) ∧
    (∀ q rest : String, q ≠ "" →
      (Text.liesUnder (q ++ rest) q = true ↔ rest = "" ∨ ∃ more, rest = "." ++ more)) ∧
    (∀ (g : Graph) (q r : String), Text.liesUnder q r = true →
      (g.coveredBy q).Sublist (g.coveredBy r)) ∧
    ∀ (g : Graph) (ops : List Operation), g.scans ≠ [] → (∀ op ∈ ops, op.Records) →
      (g.run ops).uncovered.Sublist g.uncovered := by
  refine ⟨?_, Text.liesUnder_refl, ?_, ?_, ?_, ?_, ?_⟩
  · intro p q
    exact Text.liesUnder_iff_segments
  · intro p q r hpq hqr
    exact Text.liesUnder_trans hpq hqr
  · intro p q hpq hqp
    exact Text.liesUnder_antisymm hpq hqp
  · intro q rest hq
    exact Text.liesUnder_append_iff hq rest
  · intro g q r hqr
    exact g.coveredBy_sublist hqr
  · intro g ops hs hops
    exact uncovered_run_sublist hs hops

theorem covered_by_segments_application :
    let jobs : Node := ⟨"Jobs", some .service, some "com.app.jobs"⟩
    let lib : Node := ⟨"Lib", some .configuration, some "com.application"⟩
    let stray : Node := ⟨"Stray", some .component, some "com.application"⟩
    let table : NodeTable := [jobs, lib, stray].map (fun n => (n.name, n))
    let g : Graph := ⟨table, [], .empty, [⟨"Main", "com.app"⟩]⟩
    let ops : List Operation :=
      [.addScan ⟨"Main", "org"⟩, .offer "com" (.entity (.classImport "Main" "Lib"))]
    Text.segments "com.app" <+: Text.segments "com.app.jobs" ∧
      Text.liesUnder "com.app.jobs" "com" = true ∧
      Text.liesUnder "com.application" "com.app" = false ∧
      g.coveredBy "com.app" = [jobs] ∧ g.coveredBy "com" = [jobs, lib, stray] ∧
      (g.coveredBy "com.app").Sublist (g.coveredBy "com") ∧
      g.scans ≠ [] ∧ (∀ op ∈ ops, op.Records) ∧
      g.uncovered = [lib, stray] ∧ (g.run ops).uncovered = [stray] ∧
      (g.run ops).uncovered.Sublist g.uncovered := by
  intro jobs lib stray table g ops
  obtain ⟨hsegments, -, htrans, -, hbounds, hcovered, huncovered⟩ := covered_by_segments
  have hjobs : Text.liesUnder "com.app.jobs" "com.app" = true := by decide
  have happ : Text.liesUnder "com.app" "com" = true := by decide
  have hlonger : Text.liesUnder ("com.app" ++ "lication") "com.app" = false := by
    rw [Bool.eq_false_iff, ne_eq, hbounds "com.app" "lication" (by decide)]
    rintro (h | ⟨more, h⟩)
    · exact absurd h (by decide)
    · simpa using congrArg String.toList h
  have hscans : g.scans ≠ [] := by decide
  have hrecords : ∀ op ∈ ops, op.Records := by
    simpa [ops] using ⟨.scan _, .entity _ _ rfl⟩
  exact ⟨((hsegments _ _).mp hjobs).resolve_left (by decide), htrans _ _ _ hjobs happ, hlonger,
    by decide, by decide, hcovered g _ _ happ, hscans, hrecords, by decide, by decide,
    huncovered g ops hscans hrecords⟩

end Graph

end Wiring
