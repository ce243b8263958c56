import Wiring.Proofs.Dot.Faithful
import Wiring.Proofs.Dot.Scans
import Wiring.Proofs.Graph.Contents

namespace Wiring.Dot

theorem quote_injective : Function.Injective quote := by
  intro s t h
  have htext : ∀ s, (quote s).toList.tail = s.toList.flatMap escapeChar ++ ['"'] := by
    intro s
    simp [quote]
  have hs := unquote?_escape s.toList []
  rw [← htext, h, htext, unquote?_escape] at hs
  exact String.toList_inj.mp (by simpa using hs.symm)

theorem isPlain_quote (s : String) : isPlain (quote s).toList = false := by
  have htext : (quote s).toList = ('"' :: s.toList.flatMap escapeChar) ++ ['"'] := by simp [quote]
  have hlast : ¬ (('"' :: s.toList.flatMap escapeChar) ++ ['"']).getLast? = some '\n' := by
    rw [List.getLast?_concat]
    decide
  rw [htext, isPlain, if_neg hlast]
  rfl

theorem quoteId_injective : Function.Injective quoteId := by
  have hquoted : ∀ {s t : String}, (isPlain s.toList && !isReserved s) = true → s ≠ quote t := by
    rintro s t hs rfl
    rw [isPlain_quote] at hs
    cases hs
  intro s t h
  unfold quoteId at h
  split at h
  · next hs =>
    split at h
    · exact h
    · exact absurd h (hquoted hs)
  · split at h
    · next ht => exact absurd h.symm (hquoted ht)
    · exact quote_injective h

def Line.declares : Line → List String
  | node id _ => [quoteId id]
  | _ => []

def Line.joins : Line → List String
  | edge source target _ => [quoteId source, quoteId target]
  | _ => []

/-- Every end of an edge is known from the start or was declared by an earlier line. -/
def Declared (known : List String) : List Line → Prop
  | [] => True
  | l :: ls => (∀ id ∈ l.joins, id ∈ known) ∧ Declared (known ++ l.declares) ls

section Declared

variable {known more : List String} {ls ms : List Line}

theorem declared_append : Declared known (ls ++ ms) ↔
    Declared known ls ∧ Declared (known ++ ls.flatMap Line.declares) ms := by
  induction ls generalizing known with
  | nil => simp [Declared]
  | cons l ls ih =>
    rw [List.cons_append, Declared, Declared, ih, List.flatMap_cons, and_assoc, List.append_assoc]

theorem declared_nil_append : Declared [] (ls ++ ms) ↔
    Declared [] ls ∧ Declared (ls.flatMap Line.declares) ms := by
  rw [declared_append, List.nil_append]

theorem declared_of_joins (h : ∀ l ∈ ls, ∀ id ∈ l.joins, id ∈ known) : Declared known ls := by
  induction ls generalizing known with
  | nil => trivial
  | cons l ls ih =>
    obtain ⟨hl, hls⟩ := List.forall_mem_cons.mp h
    refine ⟨hl, ih ?_⟩
    intro m hm id hid
    exact List.mem_append_left _ (hls m hm id hid)

theorem Declared.mem_declares {l : Line} (h : Declared [] (ls ++ l :: ms)) :
    ∀ id ∈ l.joins, id ∈ ls.flatMap Line.declares := (declared_nil_append.mp h).2.1

theorem mem_declares {id attributes : String} (h : .node id attributes ∈ ls) :
    quoteId id ∈ ls.flatMap Line.declares :=
  List.mem_flatMap.mpr ⟨_, h, List.mem_cons_self⟩

theorem forall_joins {source target attributes : String} (hs : quoteId source ∈ known)
    (ht : quoteId target ∈ known) : ∀ id ∈ (Line.edge source target attributes).joins, id ∈ known := by
  simp [Line.joins, hs, ht]

end Declared

def legendNodes : List Line :=
  .comment "Legend" :: legendEntries.map (fun e => .node e.1 e.2) ++ [.blank, .comment "Align legend"]

theorem declared_legend : Declared [] legend := by
  have hnodes : Declared [] legendNodes := by
    apply declared_of_joins
    intro l hl
    simp only [legendNodes, List.cons_append, List.mem_cons, List.mem_append, List.mem_map,
      List.not_mem_nil, or_false] at hl
    rcases hl with rfl | ⟨e, _, rfl⟩ | rfl | rfl <;> exact List.forall_mem_nil _
  have hentry : ∀ e ∈ legendEntries, quoteId e.1 ∈ legendNodes.flatMap Line.declares := by
    intro e he
    apply mem_declares
    exact List.mem_append_left _ (List.mem_cons_of_mem _ (List.mem_map.mpr ⟨e, he, rfl⟩))
  apply declared_nil_append.mpr ⟨hnodes, declared_of_joins ?_⟩
  intro l hl
  obtain ⟨p, hp, rfl⟩ := List.mem_map.mp hl
  obtain ⟨hfirst, hsecond⟩ := List.of_mem_zip hp
  exact forall_joins (hentry _ hfirst) (hentry _ (List.mem_of_mem_tail hsecond))

section Graph

variable {g : Graph} {known : List String}

theorem declared_components : Declared known (.blank :: components g) := by
  apply declared_of_joins
  intro l hl
  simp only [components, List.mem_cons, List.mem_map] at hl
  rcases hl with rfl | rfl | ⟨n, _, rfl⟩ <;> exact List.forall_mem_nil _

theorem declared_relations (c : Config)
    (h : ∀ e ∈ g.edges, quoteId e.source ∈ known ∧ quoteId e.target ∈ known) :
    Declared known (.blank :: relations c g) := by
  apply declared_of_joins
  intro l hl
  simp only [relations, List.mem_cons, List.mem_map] at hl
  rcases hl with rfl | rfl | ⟨e, he, rfl⟩
  · exact List.forall_mem_nil _
  · exact List.forall_mem_nil _
  · obtain ⟨hs, ht⟩ := h e (List.mem_of_mem_filter he)
    exact forall_joins hs ht

theorem declared_folderLines (package : String) (h : ∀ n ∈ g.nodes, quoteId n.name ∈ known) :
    Declared known (folderLines g package) := by
  refine ⟨List.forall_mem_nil _, declared_of_joins ?_⟩
  intro l hl
  obtain ⟨n, hn, rfl⟩ := List.mem_map.mp hl
  apply forall_joins
  · exact List.mem_append_right _ List.mem_cons_self
  · exact List.mem_append_left _ (h n (List.mem_of_mem_filter hn))

theorem declared_scanLines {seen : List String} {scans : List Scan}
    (hnodes : ∀ n ∈ g.nodes, quoteId n.name ∈ known)
    (hscans : ∀ s ∈ scans, quoteId s.source ∈ known) (hseen : ∀ p ∈ seen, quoteId p ∈ known) :
    Declared known (scanLines g seen scans) := by
  -- the invariant: a package that was seen has its folder among what is known
  induction scans generalizing known seen with
  | nil => trivial
  | cons s rest ih =>
    obtain ⟨hsource, hrest⟩ := List.forall_mem_cons.mp hscans
    have hfolder : Declared known (if s.package ∈ seen then [] else folderLines g s.package) := by
      split
      · trivial
      · exact declared_folderLines s.package hnodes
    have hpackage : quoteId s.package ∈ known ++
        (if s.package ∈ seen then [] else folderLines g s.package).flatMap Line.declares := by
      split
      · next hs => exact List.mem_append_left _ (hseen _ hs)
      · exact List.mem_append_right _ (mem_declares List.mem_cons_self)
    rw [scanLines_cons]
    refine declared_append.mpr ⟨hfolder, ?_, ih ?_ ?_ ?_⟩
    · exact forall_joins (List.mem_append_left _ hsource) hpackage
    · intro n hn
      exact List.mem_append_left _ (List.mem_append_left _ (hnodes n hn))
    · intro t ht
      exact List.mem_append_left _ (List.mem_append_left _ (hrest t ht))
    · intro p hp
      rcases List.mem_cons.mp hp with rfl | hp
      · exact List.mem_append_left _ hpackage
      · exact List.mem_append_left _ (List.mem_append_left _ (hseen p hp))

theorem declared_componentScans (c : Config) (hnodes : ∀ n ∈ g.nodes, quoteId n.name ∈ known)
    (hscans : ∀ s ∈ g.scans, quoteId s.source ∈ known) : Declared known (componentScans c g) := by
  unfold componentScans
  split
  · refine ⟨List.forall_mem_nil _, List.forall_mem_nil _, ?_⟩
    simp only [Line.declares, List.append_nil]
    exact declared_scanLines hnodes hscans (List.forall_mem_nil _)
  · trivial

theorem mem_declares_components (hg : g.Valid) {name : String} (hname : name ∈ g.names) :
    quoteId name ∈ (components g).flatMap Line.declares := by
  rw [← hg.map_name_nodes] at hname
  obtain ⟨n, hn, rfl⟩ := List.mem_map.mp hname
  exact mem_declares (List.mem_cons_of_mem _ (List.mem_map.mpr ⟨n, hn, rfl⟩))

theorem declared_body (c : Config) (hg : g.Valid) (hscans : ∀ s ∈ g.scans, s.source ∈ g.names) :
    Declared [] (body c g) := by
  have hcomponents : ∀ name ∈ g.names,
      quoteId name ∈ (legend ++ .blank :: components g).flatMap Line.declares := by
    intro name hname
    rw [List.flatMap_append]
    exact List.mem_append_right _ (mem_declares_components hg hname)
  have hrelations : ∀ name ∈ g.names, quoteId name ∈
      (legend ++ .blank :: components g ++ .blank :: relations c g).flatMap Line.declares := by
    intro name hname
    rw [List.flatMap_append]
    exact List.mem_append_left _ (hcomponents name hname)
  have hnodes : ∀ n ∈ g.nodes, n.name ∈ g.names := by
    intro n hn
    rw [← hg.map_name_nodes]
    exact List.mem_map_of_mem hn
  refine declared_nil_append.mpr ⟨declared_nil_append.mpr ⟨declared_nil_append.mpr
    ⟨declared_legend, declared_components⟩, declared_relations c ?_⟩, declared_componentScans c ?_ ?_⟩
  · intro e he
    obtain ⟨hs, ht⟩ := hg.ends e he
    exact ⟨hcomponents _ hs, hcomponents _ ht⟩
  · intro n hn
    exact hrelations _ (hnodes n hn)
  · intro s hs
    exact hrelations _ (hscans s hs)

theorem declares_components :
    (components g).flatMap Line.declares = (g.nodes.map (·.name)).map quoteId := by
  rw [components, List.flatMap_cons, List.flatMap_map, List.map_map, List.map_eq_flatMap]
  rfl

/-- In the document of a graph that was built no edge ends at an identifier without a node statement
before it, no class has two node statements, and the part for the scans has one folder for each
scanned package, one edge to each component in it, and one edge for each scan. -/
theorem nodes_before_edges (c : Config) (bs : List (Batch Entity)) :
    let g := Graph.build bs
    let packages := (drawnScans c g).map (·.package)
    (render c g).toList =
        "digraph Components \x7b\n".toList ++ ((body c g).flatMap lineText ++ ['\x7d', '\n']) ∧
      (∀ before l after, body c g = before ++ l :: after →
        ∀ id ∈ l.joins, id ∈ before.flatMap Line.declares) ∧
      ((components g).flatMap Line.declares).Nodup ∧
      (∀ p, (componentScans c g).count (folderLine p) = if p ∈ packages then 1 else 0) ∧
      (∀ p name, (componentScans c g).count (containsLine p name) =
        if p ∈ packages ∧ name ∈ (g.coveredBy p).map (·.name) then 1 else 0) ∧
      ∀ s, (componentScans c g).count (scanLine s) = if s ∈ drawnScans c g then 1 else 0 := by
  intro g packages
  have hg : g.Valid := Graph.valid_build bs
  have hnames : (g.nodes.map (·.name)).Nodup := hg.map_name_nodes ▸ hg.names_nodup
  refine ⟨toList_render c g, ?_, ?_, count_folderLine c g, count_containsLine c g hnames,
    count_scanLine c g hg.scans_nodup⟩
  · intro before l after h
    have hdeclared := declared_body c hg Graph.source_mem_names_build
    rw [h] at hdeclared
    exact hdeclared.mem_declares
  · rw [declares_components]
    exact hnames.map quoteId_injective

theorem nodes_before_edges_two_scans :
    let bs : List (Batch Entity) :=
      [⟨"Main.java", "q", [.component "Main" .springBootApplication "", .scan "Main" "p"]⟩,
        ⟨"Jobs.java", "p.jobs", [.configuration "Jobs" "", .scan "Jobs" "p"]⟩]
    let g := Graph.build bs
    ∃ before after, body .full g = before ++ containsLine "p" "Jobs" :: after ∧
      "p" ∈ before.flatMap Line.declares ∧ "Jobs" ∈ before.flatMap Line.declares ∧
      (componentScans .full g).count (folderLine "p") = 1 ∧
      (componentScans .full g).count (containsLine "p" "Jobs") = 1 ∧
      (componentScans .full g).count (scanLine ⟨"Main", "p"⟩) = 1 ∧
      (componentScans .full g).count (scanLine ⟨"Jobs", "p"⟩) = 1 := by
  intro bs g
  obtain ⟨_, hends, _, hfolder, hcontains, hscan⟩ := nodes_before_edges .full bs
  have hscans : componentScans .full g =
      [.blank, .comment "Component scans", folderLine "p", containsLine "p" "Jobs",
        scanLine ⟨"Main", "p"⟩, scanLine ⟨"Jobs", "p"⟩] := by decide +kernel
  have hbody : body .full g =
      (legend ++ .blank :: components g ++ .blank :: relations .full g ++
        [.blank, .comment "Component scans", folderLine "p"]) ++
        containsLine "p" "Jobs" :: [scanLine ⟨"Main", "p"⟩, scanLine ⟨"Jobs", "p"⟩] := by
    rw [body, hscans, List.append_assoc _ [_, _, _]]
    rfl
  have hjoins := hends _ _ _ hbody
  refine ⟨_, _, hbody, hjoins "p" (by decide), hjoins "Jobs" (by decide), ?_⟩
  rw [hfolder, hcontains, hscan, hscan]
  decide +kernel

end Graph

end Wiring.Dot
