import Wiring.Command.Run
import Wiring.Proofs.Export.Views
import Wiring.Proofs.Files.Writing

namespace Wiring.Export

open Files

/-- A library that also writes its page to a path. It breaks off at a path that it does not
accept. -/
structure Publisher extends Library where
  save : Network → Path → Disk → Option (Except FileError Disk)

namespace Publisher

variable (P : Publisher)

structure LawfulAt (path : Path) : Prop where
  library : P.Lawful
  save : ∀ net d, P.save net path d = some (d.write path (.page (P.page net)))

def publish (g : Graph) (path : Path) (d : Disk) : Option (Disk × Option FileError) := do
  let net ← P.draw g
  match d.makeFolders path.parent with
  | .error e => return (d, some e)
  | .ok d =>
    match ← P.save net path d with
    | .error e => return (d, some e)
    | .ok d => return (d, none)

variable {P}

theorem LawfulAt.publish_valid {path : Path} (h : P.LawfulAt path) {g : Graph} (hg : g.Valid)
    (d : Disk) : P.publish g path d = some (page g path d) := by
  obtain ⟨net, hdraw, hpage⟩ := h.library.draw_valid hg
  rw [publish, page, hdraw, Option.bind_eq_bind, Option.bind_some]
  cases d.makeFolders path.parent with
  | error e => rfl
  | ok d =>
    dsimp only
    rw [h.save, hpage, Option.bind_eq_bind, Option.bind_some]
    cases d.write path (.page g.toPage) with
    | error e => rfl
    | ok d => rfl

def plain : Publisher where
  toLibrary := Library.plain
  save net path d :=
    if ".html".toList.isSuffixOf path.render.toList then some (d.write path (.page net)) else none

theorem lawfulAt_plain {path : Path} (h : ".html".toList.isSuffixOf path.render.toList = true) :
    plain.LawfulAt path where
  library := Library.lawful_plain
  save := fun _ _ => if_pos h

end Publisher

end Wiring.Export

namespace Wiring.Command

open Files Files.Disk Export

variable {P : Publisher} {c : Config} {g : Graph} {r : Request} {d after : Disk}

def writeAsked (P : Publisher) (c : Config) (g : Graph) (r : Request) (d : Disk) :
    Option (Disk × Option FileError) :=
  match (wanted r.output).elim (d, none) (fun p => results c g p d) with
  | (d, some e) => some (d, some e)
  | (d, none) => (wanted r.html).elim (some (d, none)) (fun q => P.publish g q d)

def effect (d : Disk) (ts : List Task) : Disk × Option FileError :=
  ((carryOut d ts).1, (carryOut d ts).2.2)

theorem effect_cons (d : Disk) (t : Task) (ts : List Task) :
    effect d (t :: ts) =
      match t.write d with
      | (d, some e) => (d, some e)
      | (d, none) => effect d ts := by
  rw [effect, carryOut]
  rcases t.write d with ⟨after, _ | e⟩
  · rfl
  · rfl

theorem effect_singleton (d : Disk) (t : Task) : effect d [t] = t.write d := by
  rw [effect_cons]
  rcases t.write d with ⟨after, _ | e⟩
  · rfl
  · rfl

theorem effect_tasks (c : Config) (g : Graph) (r : Request) (d : Disk) :
    effect d (tasks c g r) =
      match (wanted r.output).elim (d, none) (fun p => results c g p d) with
      | (d, some e) => (d, some e)
      | (d, none) => (wanted r.html).elim (d, none) (fun q => page g q d) := by
  have hpage (d : Disk) : effect d ((wanted r.html).toList.map
      (fun p => ⟨page g p, .pageExported p.render⟩)) =
        (wanted r.html).elim (d, none) (fun q => page g q d) := by
    cases wanted r.html with
    | none => rfl
    | some q => exact effect_singleton d _
  rw [tasks]
  cases wanted r.output with
  | none => exact hpage d
  | some p =>
    rw [Option.toList_some, List.map_singleton, List.singleton_append, effect_cons,
      Option.elim_some]
    dsimp only
    rcases results c g p d with ⟨after, _ | e⟩
    · exact hpage after
    · rfl

theorem writeAsked_eq (hP : ∀ q ∈ wanted r.html, P.LawfulAt q) (hg : g.Valid) (c : Config)
    (d : Disk) : writeAsked P c g r d = some (effect d (tasks c g r)) := by
  rw [effect_tasks, writeAsked]
  rcases (wanted r.output).elim (d, none) (fun p => results c g p d) with ⟨after, _ | e⟩
  · dsimp only
    cases hq : wanted r.html with
    | none => rfl
    | some q => exact (hP q hq).publish_valid hg after
  · rfl

theorem locate_components {p : Path} (hp : wanted r.output = some p)
    (h : effect d (tasks c g r) = (after, none))
    (hq : ∀ q ∈ wanted r.html, ¬ after.SamePlace q (p.child "components.dot")) :
    ∃ names, after.locate (p.child "components.dot") =
      .found names (.file (.text (Dot.render c g))) := by
  rw [effect_tasks, hp, Option.elim_some] at h
  rcases hresults : results c g p d with ⟨middle, _ | e⟩
  · rw [hresults] at h
    obtain ⟨names, hlocate⟩ := results_ok hresults
    cases hhtml : wanted r.html with
    | none =>
      rw [hhtml] at h
      cases h
      exact ⟨names, hlocate⟩
    | some q =>
      rw [hhtml] at h
      obtain ⟨spot, hbecomes, hspot⟩ := page_ok h
      refine ⟨names, hbecomes.locate_file hlocate ?_⟩
      -- If the page stood in the same file, its path would lead there too.
      intro hmem
      obtain rfl := List.mem_singleton.mp hmem
      obtain ⟨x, hx, -⟩ := hbecomes.locate hlocate
      have hsame := (entryAt?_of_locate hx).symm.trans (entryAt?_of_locate hspot)
      cases hsame
      exact hq q hhtml ⟨names, _, hspot, hx⟩
  · rw [hresults] at h
    cases h

end Wiring.Command
