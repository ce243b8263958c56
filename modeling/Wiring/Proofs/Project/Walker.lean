import Mathlib.Data.List.Nodup
import Wiring.Dot
import Wiring.Proofs.Project.Paths

/-!
The files that are taken from a tree are exactly those that are asked for. They depend neither on
the order in which the entries of the tree are listed nor on the number of workers that read them.
-/

namespace Wiring.Project

open Files

inductive Found where
  | folder
  | file (content : Option Content)
  | other

abbrev Listing := List (List String × Found)

structure WellFormed (l : Listing) : Prop where
  nodup : (l.map (·.1)).Nodup
  paths : ∀ f ∈ l, IsPath f.1

def isFile (f : List String × Found) : Bool :=
  match f.2 with
  | .file _ => true
  | .folder | .other => false

def readable? (f : List String × Found) : Option (List String × Content) :=
  match f.2 with
  | .file content => content.map (fun c => (f.1, c))
  | .folder | .other => none

def byPath {α : Type} (a b : List String × α) : Bool :=
  Text.precedes (relativePath a.1) (relativePath b.1)

def walk (c : Config) (l : Listing) : List (List String × Content) :=
  ((l.filter (fun f => isFile f && takes c f.1)).mergeSort byPath).filterMap readable?

def collect (c : Config) (l : Listing) : List Source :=
  (walk c l).map (fun f => sourceOf (relativePath f.1) f.2)

mutual

def listBelow : Entry → Listing
  | .file content => [([], .file (some content))]
  | .folder children => ([], .folder) :: listAllBelow children

def listAllBelow : List (String × Entry) → Listing
  | [] => []
  | (name, e) :: rest => (listBelow e).map (fun f => (name :: f.1, f.2)) ++ listAllBelow rest

end

def chosen (c : Config) (l : Listing) : List (List String × Content) :=
  (l.filterMap readable?).filter (fun f => takes c f.1)

section Order

variable {α : Type} {c : Config} {l other : Listing}

theorem byPath_trans (f g h : List String × α) (hfg : byPath f g = true) (hgh : byPath g h = true) :
    byPath f h = true := Text.precedesList_trans hfg hgh

theorem byPath_total (f g : List String × α) : (byPath f g || byPath g f) = true :=
  Text.precedesList_total _ _

theorem pairwise_mergeSort_byPath (fs : List (List String × α)) :
    (fs.mergeSort byPath).Pairwise (fun f g => relativePath f.1 ≤ relativePath g.1) := by
  have hsorted := List.pairwise_mergeSort byPath_trans byPath_total fs
  exact hsorted.imp Text.precedes_iff.mp

theorem eq_of_perm_of_sorted {fs gs : List (List String × α)} (h : fs.Perm gs)
    (hfs : fs.Pairwise (fun f g => relativePath f.1 ≤ relativePath g.1))
    (hgs : gs.Pairwise (fun f g => relativePath f.1 ≤ relativePath g.1))
    (hpaths : ∀ f ∈ gs, IsPath f.1) (hnodup : (gs.map (·.1)).Nodup) : fs = gs := by
  apply h.eq_of_pairwise ?_ hfs hgs
  intro f g hf hg hfg hgf
  have hnames : f.1 = g.1 :=
    relativePath_inj (hpaths f (h.mem_iff.mp hf)) (hpaths g hg) (le_antisymm hfg hgf)
  exact List.inj_on_of_nodup_map hnodup (h.mem_iff.mp hf) hg hnames

theorem readable?_eq_some {f : List String × Found} {g : List String × Content} :
    readable? f = some g ↔ f = (g.1, .file (some g.2)) := by
  obtain ⟨names, found⟩ := f
  obtain ⟨names', content⟩ := g
  cases found with
  | file content? => cases content? <;> simp [readable?]
  | folder | other => simp [readable?]

theorem mem_chosen {f : List String × Content} :
    f ∈ chosen c l ↔ (f.1, .file (some f.2)) ∈ l ∧ takes c f.1 = true := by
  simp only [chosen, List.mem_filter, List.mem_filterMap, readable?_eq_some]
  simp

theorem chosen_perm (h : other.Perm l) : (chosen c other).Perm (chosen c l) :=
  (h.filterMap readable?).filter _

theorem WellFormed.chosen_paths (h : WellFormed l) : ∀ f ∈ chosen c l, IsPath f.1 :=
  fun _ hf => h.paths _ (mem_chosen.mp hf).1

theorem map_fst_readable_sublist (l : Listing) :
    ((l.filterMap readable?).map (·.1)).Sublist (l.map (·.1)) := by
  induction l with
  | nil => exact .slnil
  | cons f l ih =>
    cases hf : readable? f with
    | none =>
      rw [List.filterMap_cons_none hf]
      exact ih.cons _
    | some g =>
      rw [List.filterMap_cons_some hf, readable?_eq_some.mp hf]
      exact ih.cons_cons _

theorem WellFormed.chosen_nodup (h : WellFormed l) : ((chosen c l).map (·.1)).Nodup :=
  h.nodup.sublist ((List.filter_sublist.map _).trans (map_fst_readable_sublist l))

theorem walk_perm (c : Config) (l : Listing) : (walk c l).Perm (chosen c l) := by
  have hsame : (l.filter (fun f => isFile f && takes c f.1)).filterMap readable? = chosen c l := by
    rw [chosen, List.filterMap_filter, List.filter_filterMap]
    congr 1
    funext f
    obtain ⟨names, found⟩ := f
    cases found with
    | file content => cases content <;> simp [isFile, readable?, Option.filter_some]
    | folder | other => rfl
  rw [walk, ← hsame]
  exact (List.mergeSort_perm _ _).filterMap readable?

theorem WellFormed.walk_paths (h : WellFormed l) : ∀ f ∈ walk c l, IsPath f.1 :=
  fun f hf => h.chosen_paths f ((walk_perm c l).mem_iff.mp hf)

theorem WellFormed.walk_nodup (h : WellFormed l) : ((walk c l).map (·.1)).Nodup :=
  ((walk_perm c l).map _).nodup_iff.mpr h.chosen_nodup

theorem walk_sorted (c : Config) (l : Listing) :
    (walk c l).Pairwise (fun f g => relativePath f.1 ≤ relativePath g.1) := by
  apply (pairwise_mergeSort_byPath _).filterMap readable?
  intro f g hfg f' hf g' hg
  rw [readable?_eq_some.mp hf, readable?_eq_some.mp hg] at hfg
  exact hfg

theorem WellFormed.walk_increasing (h : WellFormed l) :
    (walk c l).Pairwise (fun f g => relativePath f.1 < relativePath g.1) := by
  have hdiffer : (walk c l).Pairwise (fun f g => f.1 ≠ g.1) := List.pairwise_map.mp h.walk_nodup
  apply ((walk_sorted c l).and hdiffer).imp_of_mem
  rintro f g hf hg ⟨hle, hne⟩
  apply lt_of_le_of_ne hle
  intro he
  exact hne (relativePath_inj (h.walk_paths f hf) (h.walk_paths g hg) he)

theorem WellFormed.walk_eq (h : WellFormed l) (hperm : other.Perm l) : walk c other = walk c l := by
  have hwalk := (((walk_perm c other).trans (chosen_perm hperm)).trans (walk_perm c l).symm)
  exact eq_of_perm_of_sorted hwalk (walk_sorted c other) (walk_sorted c l) h.walk_paths h.walk_nodup

end Order

mutual

theorem files_eq (e : Entry) : (listBelow e).filterMap readable? = e.files := by
  cases e with
  | file content => rfl
  | folder children =>
    rw [listBelow, Entry.files, ← filesOfAll_eq children]
    rfl

theorem filesOfAll_eq (children : List (String × Entry)) :
    (listAllBelow children).filterMap readable? = filesOfAll children := by
  cases children with
  | nil => rfl
  | cons child rest =>
    obtain ⟨name, e⟩ := child
    have hname : ∀ f : List String × Found,
        readable? (name :: f.1, f.2) = (readable? f).map (fun g => (name :: g.1, g.2)) := by
      rintro ⟨names, found⟩
      cases found with
      | file content => cases content <;> rfl
      | folder | other => rfl
    rw [listAllBelow, filesOfAll, List.filterMap_append, filesOfAll_eq rest, ← files_eq e,
      List.filterMap_map, List.map_filterMap]
    congr 2
    funext f
    exact hname f

end

theorem sourcesBelow_eq (c : Config) (children : List (String × Entry)) :
    sourcesBelow c children =
      ((chosen c (listAllBelow children)).mergeSort byPath).map
        (fun f => sourceOf (relativePath f.1) f.2) := by
  have hsort := List.map_mergeSort (r := byPath) (s := fun a b => Text.precedes a.1 b.1)
    (f := fun f => (relativePath f.1, f.2)) (l := chosen c (listAllBelow children))
    (fun _ _ _ _ => rfl)
  rw [sourcesBelow, ← filesOfAll_eq, ← chosen, ← hsort, List.map_map]
  rfl

theorem WellFormed.sourcesBelow_eq_collect {c : Config} {l : Listing} (h : WellFormed l)
    {children : List (String × Entry)} (hperm : (listAllBelow children).Perm l) :
    sourcesBelow c children = collect c l := by
  have hfiles : (chosen c (listAllBelow children)).mergeSort byPath = walk c l := by
    have hsame := ((List.mergeSort_perm _ byPath).trans (chosen_perm hperm)).trans
      (walk_perm c l).symm
    exact eq_of_perm_of_sorted hsame (pairwise_mergeSort_byPath _) (walk_sorted c l) h.walk_paths
      h.walk_nodup
  rw [sourcesBelow_eq, hfiles, collect]

def isPlain (extension : String) : Bool :=
  extension.toList.all (fun ch => !isPattern ch && ch != '/')

def Wanted (c : Config) (names : List String) : Prop :=
  ∃ folders name, names = folders ++ [name] ∧ c.extension.toList <:+ name.toList ∧
    ∀ f ∈ folders, f ∉ c.skipDirs

theorem takes_iff {c : Config} (hc : isPlain c.extension = true) {names : List String}
    (h : IsPath names) : takes c names = true ↔ Wanted c names := by
  have hplain : ¬ c.extension.toList.any isPattern = true := by
    rw [List.any_eq_true]
    rintro ⟨ch, hch, hpattern⟩
    have hsign := List.all_eq_true.mp hc ch hch
    rw [hpattern] at hsign
    cases hsign
  obtain ⟨folders, name, rfl⟩ : ∃ folders name, names = folders ++ [name] :=
    ⟨_, _, (List.dropLast_concat_getLast h.1).symm⟩
  rw [takes, hasExtension, if_neg hplain, isSkipped, List.getLast?_concat, List.dropLast_concat]
  simp only [Wanted, Option.getD_some, Bool.and_eq_true, List.isSuffixOf_iff_suffix,
    Bool.not_eq_true', List.any_eq_false, List.contains_iff_mem]
  constructor
  · rintro ⟨hsuffix, hfolders⟩
    exact ⟨folders, name, rfl, hsuffix, hfolders⟩
  · rintro ⟨folders', name', he, hsuffix, hfolders⟩
    obtain ⟨rfl, hname⟩ := List.append_inj' he rfl
    cases hname
    exact ⟨hsuffix, hfolders⟩

/-- Does the same work on every source, with a number of workers. -/
abbrev Pool := Int → (Source → Batch Entity) → List Source → List (Batch Entity)

def InOrder (pool : Pool) : Prop :=
  ∀ workers work ss, 0 < workers → pool workers work ss = ss.map work

def parse (pool : Pool) (c : Config) (ss : List Source) : Graph :=
  Graph.build (if 1 < c.workers ∧ 1 < ss.length then pool c.workers (Source.batch c) ss
    else ss.map (Source.batch c))

theorem InOrder.parse_eq {pool : Pool} (h : InOrder pool) (c : Config) (ss : List Source) :
    parse pool c ss = Analysis.graph c ss := by
  rw [parse, Analysis.graph]
  split
  · next hmany => rw [h _ _ _ (by omega)]
  · rfl

/-- From a listing of a tree one source is collected for each readable file that is wanted, and no
other, with paths that grow by their code points. Any other listing of the tree gives the same
sources, which are those that are read below a folder of the disk. With any number of workers they
give the same graph and the same document. -/
theorem collect_exact (c : Config) (hc : isPlain c.extension = true) (pool : Pool)
    (hpool : InOrder pool) (l : Listing) (hl : WellFormed l) :
    (∃ files : List (List String × Content),
      collect c l = files.map (fun f => sourceOf (relativePath f.1) f.2) ∧
      (files.map (·.1)).Nodup ∧
      ∀ names content, (names, content) ∈ files ↔
        (names, .file (some content)) ∈ l ∧ Wanted c names) ∧
    ((collect c l).map (·.path)).Pairwise (· < ·) ∧
    ∀ other workers, other.Perm l →
      let c' := { c with workers := workers }
      collect c' other = collect c l ∧
      parse pool c' (collect c' other) = parse pool c (collect c l) ∧
      Dot.render c' (parse pool c' (collect c' other)) = Dot.render c (parse pool c (collect c l)) ∧
      ∀ d root place children, d.locate root = .found place (.folder children) →
        (listAllBelow children).Perm other →
        sources c' d root = .ok (collect c l) ∧
          (analyze c' d root).1 = .ok (parse pool c (collect c l)) := by
  refine ⟨⟨walk c l, rfl, hl.walk_nodup, ?_⟩, ?_, ?_⟩
  · intro names content
    rw [(walk_perm c l).mem_iff, mem_chosen]
    apply and_congr_right
    intro hmem
    exact takes_iff hc (hl.paths _ hmem)
  · rw [collect, List.map_map]
    exact List.pairwise_map.mpr hl.walk_increasing
  · intro other workers hperm c'
    have hcollect : collect c' other = collect c l := by
      rw [collect, hl.walk_eq hperm]
      rfl
    -- a pool keeps the order of its results, so the number of workers is not seen
    have hgraph : parse pool c' (collect c l) = parse pool c (collect c l) := by
      rw [hpool.parse_eq, hpool.parse_eq]
      rfl
    refine ⟨hcollect, ?_, ?_, ?_⟩
    · rw [hcollect, hgraph]
    · rw [hcollect, hgraph]
      rfl
    · intro d root place children hroot hchildren
      have hsources : sources c' d root = .ok (collect c l) := by
        rw [sources, hroot]
        exact congrArg _ (hl.sourcesBelow_eq_collect (hchildren.trans hperm))
      refine ⟨hsources, ?_⟩
      rw [analyze, hsources, ← hgraph, hpool.parse_eq]

theorem collect_exact_tangled :
    let c : Config := { Config.default with skipDirs := ["build", "Gen.java"] }
    let content : Content := .text "class A \x7b\x7d"
    let file : Found := .file (some content)
    let l : Listing :=
      [(["Gen.java"], file), (["a-b.java"], file), (["a.java"], .folder),
        (["a.java", "B.java"], file), (["a"], .folder), (["a", "build"], .folder),
        (["a", "build", "C.java"], file), (["a", "x.java"], file), (["build"], .folder),
        (["build", "D.java"], file), (["link.java"], .other), (["locked.java"], .file none),
        (["notes.txt"], file)]
    let pool : Pool := fun _ work ss => (ss.reverse.map work).reverse
    let children : List (String × Entry) :=
      [("x", .folder [("C.java", .file content)]), ("B.java", .file content)]
    let d : Disk := ⟨[("build", .folder children)], []⟩
    isPlain c.extension = true ∧ InOrder pool ∧ WellFormed l ∧
      (collect c l).map (·.path) = ["Gen.java", "a-b.java", "a.java/B.java", "a/x.java"] ∧
      ((collect c l).map (·.path)).Pairwise (· < ·) ∧
      collect { c with workers := 3 } l.reverse = collect c l ∧
      parse pool { c with workers := 3 } (collect { c with workers := 3 } l.reverse) =
        parse pool c (collect c l) ∧
      sources c d ⟨"", ["build"]⟩ = .ok (collect c (listAllBelow children).reverse) ∧
      (collect c (listAllBelow children).reverse).map (·.path) = ["B.java", "x/C.java"] := by
  intro c content file l pool children d
  have hc : isPlain c.extension = true := by decide
  have hpool : InOrder pool := by
    intro workers work ss _
    simp [pool]
  have hl : WellFormed l := ⟨by decide, by unfold IsPath; decide⟩
  have hd : WellFormed (listAllBelow children).reverse := ⟨by decide, by unfold IsPath; decide⟩
  obtain ⟨_, hpaths, hsame⟩ := collect_exact c hc pool hpool l hl
  obtain ⟨hcollect, hparse, _, _⟩ := hsame l.reverse 3 (List.reverse_perm l)
  obtain ⟨_, _, hread⟩ := collect_exact c hc pool hpool _ hd
  obtain ⟨_, _, _, hdisk⟩ := hread _ c.workers (.refl _)
  have hsources := (hdisk d ⟨"", ["build"]⟩ ["build"] children rfl (List.reverse_perm _).symm).1
  refine ⟨hc, hpool, hl, ?_, hpaths, hcollect, hparse, hsources, ?_⟩
  · rw [collect, walk, List.mergeSort_of_pairwise (by decide +kernel)]
    decide +kernel
  · rw [collect, walk, List.mergeSort_of_pairwise (by decide +kernel)]
    decide +kernel

end Wiring.Project
