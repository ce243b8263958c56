import Wiring.Proofs.Command.Publishing
import Wiring.Proofs.Command.Settings
import Wiring.Proofs.Files.Kinds
import Wiring.Proofs.Graph.Contents
import Wiring.Proofs.Split

namespace Wiring

open Files Files.Disk

namespace Project

variable {c : Config} {d : Disk} {root : Path}

theorem sources_of_absent (h : ¬ d.Present root) : sources c d root = .error ⟨root⟩ := by
  rw [sources]
  cases hp : d.locate root with
  | found names x => exact absurd ⟨names, x, hp⟩ h
  | missing => rfl
  | notFolder => rfl

theorem sources_of_present (h : d.Present root) : ∃ ss, sources c d root = .ok ss := by
  obtain ⟨names, x, hp⟩ := h
  rw [sources, hp]
  cases x with
  | file content => exact ⟨_, rfl⟩
  | folder children => exact ⟨_, rfl⟩

end Project

theorem Dot.render_ne_empty (c : Config) (g : Graph) : Dot.render c g ≠ "" := by
  intro h
  have hlist := toList_render c g
  rw [h] at hlist
  cases hlist

namespace Command

open Export

variable {arguments : List String} {setting : Option String} {r : Request} {c : Config} {d e : Disk}

theorem run_of_misconfigured (hread : read arguments = .ok r) (setting : Option String) (d : Disk)
    (h : r.Misconfigured) :
    let o := run arguments setting d
    o.status = 2 ∧ o.output = "" ∧ o.disk = d := by
  obtain ⟨e, he⟩ := configOf_error_iff.mpr h
  rw [run, hread]
  dsimp only
  rw [perform, he]
  exact ⟨rfl, rfl, rfl⟩

theorem run_of_absent (hread : read arguments = .ok r) (setting : Option String)
    (hconfig : configOf r = .ok c) (h : ¬ d.Present (Path.ofString r.path)) :
    let o := run arguments setting d
    o.status = 1 ∧ o.output = "" ∧ o.disk = d := by
  rw [run, hread]
  dsimp only
  rw [perform, hconfig]
  dsimp only
  rw [analyze, Project.analyze, Project.sources_of_absent h]
  exact ⟨rfl, rfl, rfl⟩

theorem run_of_present (hread : read arguments = .ok r) (setting : Option String)
    (hconfig : configOf r = .ok c) (h : d.Present (Path.ofString r.path)) :
    let o := run arguments setting d
    ∃ g : Graph, g.Valid ∧ (Project.analyze c d (Path.ofString r.path)).1 = .ok g ∧
      o.output = Dot.render c g ∧ ∃ error, effect d (tasks c g r) = (o.disk, error) ∧
        o.status = if error.isSome then 1 else 0 := by
  obtain ⟨ss, hss⟩ := Project.sources_of_present (c := c) h
  refine ⟨Analysis.graph c ss, Graph.valid_build _, ?_⟩
  rw [run, hread]
  dsimp only
  rw [perform, hconfig]
  dsimp only
  rw [analyze, Project.analyze, hss]
  dsimp only
  rw [deliver, effect]
  rcases carryOut d (tasks c (Analysis.graph c ss) r) with ⟨after, log, _ | e⟩
  · exact ⟨rfl, rfl, none, rfl, rfl⟩
  · exact ⟨rfl, rfl, some e, rfl, rfl⟩

theorem effect_tasks_alike (h : d.Alike e) (c c' : Config) (g g' : Graph) (r : Request) :
    (effect d (tasks c g r)).2 = (effect e (tasks c' g' r)).2 := by
  have hhtml {d e : Disk} (h : d.Alike e) :
      ((wanted r.html).elim (d, none) (fun q => page g q d)).2 =
        ((wanted r.html).elim (e, none) (fun q => page g' q e)).2 := by
    cases wanted r.html with
    | none => rfl
    | some q => exact (page_alike h g g' q).2
  rw [effect_tasks, effect_tasks]
  cases wanted r.output with
  | none => exact hhtml h
  | some p =>
    have halike := results_alike h c c' g g' p
    rw [Option.elim_some, Option.elim_some]
    generalize results c g p d = x, results c' g' p e = y at halike ⊢
    obtain ⟨after, error⟩ := x
    obtain ⟨after', error'⟩ := y
    obtain ⟨hdisk, herror⟩ : after.Alike after' ∧ error = error' := halike
    subst herror
    cases error with
    | none => exact hhtml hdisk
    | some f => rfl

theorem status_alike (hread : read arguments = .ok r) (setting : Option String) (h : d.Alike e) :
    (run arguments setting e).status = (run arguments setting d).status := by
  by_cases hbad : r.Misconfigured
  · rw [(run_of_misconfigured hread setting d hbad).1,
      (run_of_misconfigured hread setting e hbad).1]
  obtain ⟨c, hconfig⟩ := configOf_ok hbad
  by_cases hroot : d.Present (Path.ofString r.path)
  · obtain ⟨g, -, -, -, error, heffect, hstatus⟩ := run_of_present hread setting hconfig hroot
    obtain ⟨g', -, -, -, error', heffect', hstatus'⟩ :=
      run_of_present hread setting hconfig ((h.present_iff _).mp hroot)
    have herror := effect_tasks_alike h c c g g' r
    rw [heffect, heffect'] at herror
    dsimp only at herror
    rw [hstatus, hstatus', ← herror]
  · have hroot' := fun he => hroot ((h.present_iff _).mpr he)
    rw [(run_of_absent hread setting hconfig hroot).1,
      (run_of_absent hread setting hconfig hroot').1]

/-- Of the runs whose arguments are read, those that ask for settings that do not exist end with
status 2 and those without a project with status 1, and neither prints or writes anything. All others
print the graph, and their status tells whether what was asked for is written. What is in the files
has no part in that. Paths that the library does not accept for a page are left out: there it breaks
off, with the graph printed and the results written, and the run ends without a status. -/
theorem run_ends (hread : read arguments = .ok r) (setting : Option String) (d : Disk)
    (P : Publisher) (hP : ∀ q ∈ wanted r.html, P.LawfulAt q) :
    let o := run arguments setting d
    let root := Path.ofString r.path
    (o.status = 2 ↔ r.Misconfigured) ∧
    (r.Misconfigured → o.output = "" ∧ o.disk = d) ∧
    (¬ r.Misconfigured → ((o.status = 1 ∧ o.output = "" ∧ o.disk = d) ↔ ¬ d.Present root)) ∧
    (¬ r.Misconfigured → d.Present root →
      ∃ c g error, configOf r = .ok c ∧ (Project.analyze c d root).1 = .ok g ∧
        o.output = Dot.render c g ∧ writeAsked P c g r d = some (o.disk, error) ∧
        (o.status = 1 ↔ ∃ e, error = some e) ∧ (o.status = 0 ↔ error = none)) ∧
    (o.status = 0 → ∀ p ∈ wanted r.output,
      (∀ q ∈ wanted r.html, ¬ o.disk.SamePlace q (p.child "components.dot")) →
        ∃ names, o.disk.locate (p.child "components.dot") = .found names (.file (.text o.output))) ∧
    ∀ e, d.Alike e → (run arguments setting e).status = o.status := by
  intro o root
  have halike : ∀ e, d.Alike e → (run arguments setting e).status = o.status :=
    fun e he => status_alike hread setting he
  by_cases hbad : r.Misconfigured
  · obtain ⟨hstatus, houtput, hdisk⟩ := run_of_misconfigured hread setting d hbad
    have hzero : o.status ≠ 0 := by rw [hstatus]; decide
    exact ⟨iff_of_true hstatus hbad, fun _ => ⟨houtput, hdisk⟩, fun h => absurd hbad h,
      fun h => absurd hbad h, fun h => absurd h hzero, halike⟩
  obtain ⟨c, hconfig⟩ := configOf_ok hbad
  by_cases hroot : d.Present root
  · obtain ⟨g, hg, hgraph, houtput, error, heffect, hstatus⟩ :=
      run_of_present hread setting hconfig hroot
    have hwritten : writeAsked P c g r d = some (o.disk, error) := by
      rw [writeAsked_eq hP hg, heffect]
    have htwo : o.status ≠ 2 := by rw [hstatus]; split <;> decide
    have hprinted : o.output ≠ "" := houtput ▸ Dot.render_ne_empty c g
    have hone : o.status = 1 ↔ ∃ e, error = some e := by
      rw [hstatus, ← Option.isSome_iff_exists]
      cases error with
      | none => decide
      | some e => exact iff_of_true rfl rfl
    have hzero : o.status = 0 ↔ error = none := by
      rw [hstatus]
      cases error with
      | none => decide
      | some e => exact iff_of_false Nat.one_ne_zero (Option.some_ne_none e)
    refine ⟨iff_of_false htwo hbad, fun h => absurd h hbad, fun _ => ?_, fun _ _ => ?_, ?_, halike⟩
    · exact iff_of_false (fun h => hprinted h.2.1) (fun h => h hroot)
    · exact ⟨c, g, error, hconfig, hgraph, houtput, hwritten, hone, hzero⟩
    · intro hdone p hp hapart
      rw [hzero.mp hdone] at heffect
      rw [houtput]
      exact locate_components hp heffect hapart
  · obtain ⟨hstatus, houtput, hdisk⟩ := run_of_absent hread setting hconfig hroot
    have htwo : o.status ≠ 2 := by rw [hstatus]; decide
    have hzero : o.status ≠ 0 := by rw [hstatus]; decide
    exact ⟨iff_of_false htwo hbad, fun h => absurd h hbad,
      fun _ => iff_of_true ⟨hstatus, houtput, hdisk⟩ hroot, fun _ h => absurd h hroot,
      fun h => absurd h hzero, halike⟩

theorem run_ends_two_trees :
    let arguments := ["src", "-o", "out", "--html=out/g.html", "-f", "bean, ,Import"]
    let r : Request := ⟨"src", "bean, ,Import", some "out", some "out/g.html", 1, false⟩
    let tree (content : Content) : Disk := ⟨[("src", .folder [("A.java", .file content)])], []⟩
    let d := tree (.bytes "@Service class A \x7b\x7d".toUTF8)
    let e := tree (.bytes ⟨#[255]⟩)
    let o := run arguments none d
    read arguments = .ok r ∧ (∀ q ∈ wanted r.html, Publisher.plain.LawfulAt q) ∧ d.Alike e ∧
      o.status = 0 ∧ (run arguments none e).status = 0 ∧
      ∃ names, o.disk.locate ⟨"", ["out", "components.dot"]⟩ =
        .found names (.file (.text o.output)) := by
  intro arguments r tree d e o
  have hread : read arguments = .ok r := by decide +kernel
  have hroot : Path.ofString r.path = ⟨"", ["src"]⟩ :=
    (Path.ofString_relative (by decide +kernel)).trans (by decide +kernel)
  have hfolder : wanted r.output = some ⟨"", ["out"]⟩ :=
    congrArg some ((Path.ofString_relative (by decide +kernel)).trans (by decide +kernel))
  have hpage : wanted r.html = some ⟨"", ["out", "g.html"]⟩ :=
    congrArg some ((Path.ofString_relative (by decide +kernel)).trans (by decide +kernel))
  have hlawful : ∀ q ∈ wanted r.html, Publisher.plain.LawfulAt q := by
    intro q hq
    rw [hpage] at hq
    cases hq
    exact Publisher.lawfulAt_plain (by decide +kernel)
  have halike : d.Alike e :=
    (Alike.refl d).put (Entry.alike_files _ (.bytes ⟨#[255]⟩)) ["src", "A.java"]
  have hgood : ¬ r.Misconfigured := by
    have hnames : r.features.splitOn "," = (r.features.toList.splitOn ',').map String.ofList :=
      Text.splitOn_singleton r.features ','
    rw [Request.Misconfigured, hnames]
    decide +kernel
  have hpresent : d.Present (Path.ofString r.path) := by
    rw [hroot]
    exact ⟨_, _, rfl⟩
  obtain ⟨c, hconfig⟩ := configOf_ok hgood
  obtain ⟨g, -, -, -, error, heffect, hstatus⟩ := run_of_present hread none hconfig hpresent
  have hnone : error = none := by
    have hempty := effect_tasks_alike (.refl d) c .default g .empty r
    rw [heffect, effect_tasks, hfolder, hpage] at hempty
    exact hempty.trans (by decide +kernel)
  have hdone : o.status = 0 := by
    rw [hstatus, hnone]
    rfl
  obtain ⟨-, -, -, -, hwritten, hsame⟩ := run_ends hread none d Publisher.plain hlawful
  refine ⟨hread, hlawful, halike, hdone, (hsame e halike).trans hdone, ?_⟩
  apply hwritten hdone _ hfolder
  intro q hq
  rw [hpage] at hq
  cases hq
  exact not_samePlace_child _ ⟨"", ["out"]⟩ (by decide) (by decide) (by decide)

end Command

end Wiring
