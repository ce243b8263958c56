import Wiring.Export
import Wiring.Proofs.Files.Places

namespace Wiring.Files

inductive Place.Alike : Place → Place → Prop where
  | file (names : List String) (b c : Content) :
      Alike (.found names (.file b)) (.found names (.file c))
  | folder (names : List String) (xs ys : List (String × Entry)) :
      Alike (.found names (.folder xs)) (.found names (.folder ys))
  | missing : Alike .missing .missing
  | notFolder : Alike .notFolder .notFolder

namespace Disk

/-- The same names lead to files and to folders on both disks. -/
structure Alike (d e : Disk) : Prop where
  working : d.working = e.working
  entries : (Entry.folder d.root).Alike (.folder e.root)

inductive SameResult : Except FileError Disk → Except FileError Disk → Prop where
  | ok {d e : Disk} (h : d.Alike e) : SameResult (.ok d) (.ok e)
  | error (f : FileError) : SameResult (.error f) (.error f)

variable {d e : Disk} {names segments : List String}

theorem Alike.refl (d : Disk) : d.Alike d := ⟨rfl, fun _ => rfl⟩

theorem Alike.entryAt?_cases (h : d.Alike e) (names : List String) :
    (d.entryAt? names = none ∧ e.entryAt? names = none) ∨
      (∃ b c, d.entryAt? names = some (.file b) ∧ e.entryAt? names = some (.file c)) ∨
        ∃ xs ys, d.entryAt? names = some (.folder xs) ∧ e.entryAt? names = some (.folder ys) := by
  have hkind : (d.entryAt? names).map Entry.isFolder = (e.entryAt? names).map Entry.isFolder :=
    h.entries names
  cases hd : d.entryAt? names with
  | none =>
    cases he : e.entryAt? names with
    | none => exact .inl ⟨rfl, rfl⟩
    | some y => rw [hd, he] at hkind; cases hkind
  | some x =>
    cases he : e.entryAt? names with
    | none => rw [hd, he] at hkind; cases hkind
    | some y =>
      rw [hd, he] at hkind
      cases x with
      | file b =>
        cases y with
        | file c => exact .inr (.inl ⟨b, c, rfl, rfl⟩)
        | folder _ => cases hkind
      | folder xs =>
        cases y with
        | file _ => cases hkind
        | folder ys => exact .inr (.inr ⟨xs, ys, rfl, rfl⟩)

theorem Alike.follow (h : d.Alike e) :
    (d.follow names segments).Alike (e.follow names segments) := by
  induction segments generalizing names with
  | nil =>
    rw [Disk.follow, Disk.follow]
    obtain ⟨hd, he⟩ | ⟨b, c, hd, he⟩ | ⟨xs, ys, hd, he⟩ := h.entryAt?_cases names
    · rw [hd, he]
      exact .missing
    · rw [hd, he]
      exact .file names b c
    · rw [hd, he]
      exact .folder names xs ys
  | cons s segments ih =>
    rw [Disk.follow, Disk.follow]
    obtain ⟨hd, he⟩ | ⟨b, c, hd, he⟩ | ⟨xs, ys, hd, he⟩ := h.entryAt?_cases names
    · rw [hd, he]
      exact .missing
    · rw [hd, he]
      exact .notFolder
    · have hchild : (Entry.child? xs s).isSome = (Entry.child? ys s).isSome := by
        rw [← entryAt?_child hd, ← entryAt?_child he]
        obtain ⟨hd', he'⟩ | ⟨_, _, hd', he'⟩ | ⟨_, _, hd', he'⟩ := h.entryAt?_cases (names ++ [s])
        · rw [hd', he']
        · rw [hd', he']; rfl
        · rw [hd', he']; rfl
      rw [hd, he]
      dsimp only
      rw [hchild]
      split
      · exact ih
      · split
        · exact ih
        · exact .missing

theorem Alike.locate (h : d.Alike e) (p : Path) : (d.locate p).Alike (e.locate p) := by
  unfold Disk.locate
  rw [h.working]
  exact h.follow

theorem Alike.present_iff (h : d.Alike e) (p : Path) : d.Present p ↔ e.Present p := by
  have hp := h.locate p
  unfold Present
  generalize d.locate p = x, e.locate p = y at hp ⊢
  cases hp with
  | file names b c => exact iff_of_true ⟨_, _, rfl⟩ ⟨_, _, rfl⟩
  | folder names xs ys => exact iff_of_true ⟨_, _, rfl⟩ ⟨_, _, rfl⟩
  | missing => exact Iff.rfl
  | notFolder => exact Iff.rfl

theorem Alike.put {x y : Entry} (h : d.Alike e) (hxy : x.Alike y) (names : List String) :
    (d.put names x).Alike (e.put names y) := by
  have hput := Entry.Alike.put hxy h.entries names
  unfold Disk.put
  generalize Entry.put x names (.folder d.root) = a,
    Entry.put y names (.folder e.root) = b at hput ⊢
  cases a with
  | file _ =>
    cases b with
    | file _ => exact h
    | folder _ => cases hput.isFolder
  | folder xs =>
    cases b with
    | file _ => cases hput.isFolder
    | folder ys => exact ⟨h.working, hput⟩

theorem Alike.makeFolder (h : d.Alike e) (p : Path) :
    SameResult (d.makeFolder p) (e.makeFolder p) := by
  have hp := h.locate p
  have hparent := h.locate p.parent
  rw [Disk.makeFolder, Disk.makeFolder]
  generalize d.locate p = a, e.locate p = b at hp ⊢
  cases hp with
  | file names b c => exact .error _
  | folder names xs ys => exact .ok h
  | missing =>
    generalize d.locate p.parent = a, e.locate p.parent = b at hparent ⊢
    cases hparent with
    | file names b c => exact .error _
    | folder names xs ys =>
      dsimp only
      split
      · exact .error _
      · exact .ok (h.put (fun _ => rfl) _)
    | missing => exact .error _
    | notFolder => exact .error _
  | notFolder => exact .error _

theorem Alike.makeFoldersUpTo (h : d.Alike e) (n : Nat) (p : Path) :
    SameResult (d.makeFoldersUpTo n p) (e.makeFoldersUpTo n p) := by
  induction n generalizing p with
  | zero => exact h.makeFolder p
  | succ n ih =>
    have hown := h.makeFolder p
    have habove := ih p.parent
    rw [Disk.makeFoldersUpTo, Disk.makeFoldersUpTo]
    generalize d.makeFolder p = x, e.makeFolder p = y at hown ⊢
    cases hown with
    | ok h' => exact .ok h'
    | error f =>
      cases f with
      | missing q =>
        dsimp only
        generalize d.makeFoldersUpTo n p.parent = x, e.makeFoldersUpTo n p.parent = y at habove ⊢
        cases habove with
        | ok h' => exact h'.makeFolder p
        | error f => exact .error f
      | _ => exact .error _

theorem Alike.write (h : d.Alike e) (p : Path) (b c : Content) :
    SameResult (d.write p b) (e.write p c) := by
  have hp := h.locate p
  have hparent := h.locate p.parent
  have hfiles := Entry.alike_files b c
  rw [Disk.write, Disk.write]
  generalize d.locate p = x, e.locate p = y at hp ⊢
  cases hp with
  | file names _ _ => exact .ok (h.put hfiles names)
  | folder names xs ys => exact .error _
  | missing =>
    generalize d.locate p.parent = x, e.locate p.parent = y at hparent ⊢
    cases hparent with
    | file names b c => exact .error _
    | folder names xs ys => exact .ok (h.put hfiles _)
    | missing => exact .error _
    | notFolder => exact .error _
  | notFolder => exact .error _

theorem Alike.makeFolders (h : d.Alike e) (p : Path) :
    SameResult (d.makeFolders p) (e.makeFolders p) := h.makeFoldersUpTo _ p

end Disk

end Wiring.Files

namespace Wiring.Export

open Files

variable {d e : Disk}

theorem writeAll_alike (h : d.Alike e) (folder : Path) {documents others : List (String × String)}
    (hnames : documents.map (·.1) = others.map (·.1)) :
    (writeAll folder d documents).1.Alike (writeAll folder e others).1 ∧
      (writeAll folder d documents).2 = (writeAll folder e others).2 := by
  induction documents generalizing d e others with
  | nil =>
    cases others with
    | nil => exact ⟨h, rfl⟩
    | cons _ _ => cases hnames
  | cons p documents ih =>
    cases others with
    | nil => cases hnames
    | cons q others =>
      obtain ⟨name, text⟩ := p
      obtain ⟨other, text'⟩ := q
      obtain ⟨hname, hrest⟩ : name = other ∧ documents.map (·.1) = others.map (·.1) :=
        List.cons.inj hnames
      subst hname
      have hwrite := h.write (folder.child name) (.text text) (.text text')
      rw [writeAll, writeAll]
      generalize d.write (folder.child name) (.text text) = x,
        e.write (folder.child name) (.text text') = y at hwrite ⊢
      cases hwrite with
      | ok h' => exact ih h' hrest
      | error f => exact ⟨h, rfl⟩

theorem results_alike (h : d.Alike e) (c c' : Config) (g g' : Graph) (folder : Path) :
    (results c g folder d).1.Alike (results c' g' folder e).1 ∧
      (results c g folder d).2 = (results c' g' folder e).2 := by
  have hmake := h.makeFolders folder
  rw [results, results]
  generalize d.makeFolders folder = x, e.makeFolders folder = y at hmake ⊢
  cases hmake with
  | ok h' => exact writeAll_alike h' folder (by simp only [documents, List.map_cons, List.map_nil])
  | error f => exact ⟨h, rfl⟩

theorem page_alike (h : d.Alike e) (g g' : Graph) (path : Path) :
    (page g path d).1.Alike (page g' path e).1 ∧ (page g path d).2 = (page g' path e).2 := by
  have hmake := h.makeFolders path.parent
  rw [page, page]
  generalize d.makeFolders path.parent = x, e.makeFolders path.parent = y at hmake ⊢
  cases hmake with
  | error f => exact ⟨h, rfl⟩
  | @ok d e h' =>
    have hwrite := h'.write path (.page g.toPage) (.page g'.toPage)
    dsimp only
    generalize d.write path (.page g.toPage) = x, e.write path (.page g'.toPage) = y at hwrite ⊢
    cases hwrite with
    | ok h'' => exact ⟨h'', rfl⟩
    | error f => exact ⟨h', rfl⟩

end Wiring.Export
