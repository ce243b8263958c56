import Wiring.Export
import Wiring.Proofs.Files.Places

namespace Wiring.Files.Disk

variable {d after : Disk} {children : List (String × Entry)} {p : Path} {names : List String}
  {spots : List (List String)}

theorem Becomes.weaken (h : d.Becomes [] after) (spots : List (List String)) :
    d.Becomes spots after where
  working := h.working
  kinds := h.kinds
  files := fun names c _ hc => h.files names c List.not_mem_nil hc

theorem Becomes.locate_file {c : Content} (h : d.Becomes spots after)
    (hp : d.locate p = .found names (.file c)) (hspot : names ∉ spots) :
    after.locate p = .found names (.file c) := by
  obtain ⟨y, hy, -⟩ := h.locate hp
  have hentry := entryAt?_of_locate hy
  rw [h.files names c hspot (entryAt?_of_locate hp)] at hentry
  cases hentry
  exact hy

theorem put_missing (hp : d.locate p = .missing)
    (hparent : d.locate p.parent = .found names (.folder children)) (x : Entry) :
    d.Becomes [] (d.put (names ++ [p.name]) x) ∧
      (d.put (names ++ [p.name]) x).locate p = .found (names ++ [p.name]) x := by
  obtain ⟨hne, hup, hnew⟩ := missing_name hp hparent
  have hentry := entryAt?_of_locate hparent
  have hbecomes := becomes_put_new hentry hnew x
  obtain ⟨more, hmore⟩ := hbecomes.locate_folder hparent
  have hself := entryAt?_put_self hentry p.name x
  rw [entryAt?_child (entryAt?_of_locate hmore)] at hself
  have hlocate := locate_concat hmore hup hself
  rw [Path.child_parent hne] at hlocate
  exact ⟨hbecomes, hlocate⟩

theorem makeFolder_ok (h : d.makeFolder p = .ok after) :
    d.Becomes [] after ∧ ∃ names children, after.locate p = .found names (.folder children) := by
  rw [makeFolder] at h
  split at h
  · next names e hp =>
    split at h
    · next hfolder =>
      cases h
      cases e with
      | file content => cases hfolder
      | folder children => exact ⟨.refl d, names, children, hp⟩
    · cases h
  · cases h
  · next hp =>
    split at h
    · next names children hparent =>
      split at h
      · cases h
      · cases h
        obtain ⟨hbecomes, hlocate⟩ := put_missing hp hparent (.folder [])
        exact ⟨hbecomes, _, _, hlocate⟩
    · cases h
    · cases h
    · cases h

theorem makeFoldersUpTo_ok {n : Nat} (h : makeFoldersUpTo n d p = .ok after) :
    d.Becomes [] after ∧ ∃ names children, after.locate p = .found names (.folder children) := by
  induction n generalizing d after p with
  | zero => exact makeFolder_ok h
  | succ n ih =>
    rw [makeFoldersUpTo] at h
    split at h
    · split at h
      · next above habove =>
        obtain ⟨hparent, -⟩ := ih habove
        obtain ⟨hbecomes, hlocate⟩ := makeFolder_ok h
        exact ⟨hparent.trans hbecomes, hlocate⟩
      · cases h
    · exact makeFolder_ok h

theorem makeFolders_ok (h : d.makeFolders p = .ok after) :
    d.Becomes [] after ∧ ∃ names children, after.locate p = .found names (.folder children) :=
  makeFoldersUpTo_ok h

theorem write_ok {c : Content} (h : d.write p c = .ok after) :
    ∃ names, d.Becomes [names] after ∧ after.locate p = .found names (.file c) := by
  rw [write] at h
  split at h
  · cases h
  · next names content hp =>
    cases h
    obtain ⟨hbecomes, hself⟩ := becomes_put_old (entryAt?_of_locate hp) c
    obtain ⟨y, hy, -⟩ := hbecomes.locate hp
    have hentry := entryAt?_of_locate hy
    rw [hself] at hentry
    cases hentry
    exact ⟨names, hbecomes, hy⟩
  · cases h
  · next hp =>
    split at h
    · next names children hparent =>
      cases h
      obtain ⟨hbecomes, hlocate⟩ := put_missing hp hparent (.file c)
      exact ⟨_, hbecomes.weaken _, hlocate⟩
    · cases h
    · cases h
    · cases h

end Wiring.Files.Disk

namespace Wiring.Export

open Files Disk

variable {d after : Disk} {folder path : Path} {names : List String}

theorem writeAll_ok {children : List (String × Entry)} {documents : List (String × String)}
    (hfolder : d.locate folder = .found names (.folder children))
    (hup : ∀ p ∈ documents, p.1 ≠ "..") (hnodup : (documents.map (·.1)).Nodup)
    (h : writeAll folder d documents = (after, none)) :
    d.Becomes (documents.map (fun p => names ++ [p.1])) after ∧
      ∀ p ∈ documents,
        after.locate (folder.child p.1) = .found (names ++ [p.1]) (.file (.text p.2)) := by
  induction documents generalizing d children with
  | nil =>
    cases h
    exact ⟨.refl _, by simp⟩
  | cons p documents ih =>
    obtain ⟨name, text⟩ := p
    obtain ⟨hname, hup⟩ := List.forall_mem_cons.mp hup
    obtain ⟨hnew, hnodup⟩ := List.nodup_cons.mp hnodup
    rw [writeAll] at h
    split at h
    · next next hwrite =>
      obtain ⟨spot, hbecomes, hlocate⟩ := write_ok hwrite
      obtain ⟨more, hmore⟩ := hbecomes.locate_folder hfolder
      obtain rfl := names_of_locate_child hmore hname hlocate
      obtain ⟨hrest, hall⟩ := ih hmore hup hnodup h
      have hspot : names ++ [name] ∉ documents.map (fun p => names ++ [p.1]) := by
        intro hm
        obtain ⟨q, hq, he⟩ := List.mem_map.mp hm
        have hsame : q.1 = name := by simpa using he
        exact hnew (List.mem_map.mpr ⟨q, hq, hsame⟩)
      refine ⟨hbecomes.trans hrest, List.forall_mem_cons.mpr ⟨?_, hall⟩⟩
      exact hrest.locate_file hlocate hspot
    · cases h

theorem results_ok {c : Config} {g : Graph} (h : results c g folder d = (after, none)) :
    ∃ names, after.locate (folder.child "components.dot") =
      .found names (.file (.text (Dot.render c g))) := by
  rw [results] at h
  split at h
  · cases h
  · next made hmade =>
    obtain ⟨-, names, children, hfolder⟩ := makeFolders_ok hmade
    have hup : ∀ p ∈ documents c g, p.1 ≠ ".." := by simp [documents]
    have hnodup : ((documents c g).map (·.1)).Nodup := by simp [documents]
    obtain ⟨-, hall⟩ := writeAll_ok hfolder hup hnodup h
    exact ⟨_, hall ("components.dot", Dot.render c g) List.mem_cons_self⟩

theorem page_ok {g : Graph} (h : page g path d = (after, none)) :
    ∃ names, d.Becomes [names] after ∧
      after.locate path = .found names (.file (.page g.toPage)) := by
  rw [page] at h
  split at h
  · cases h
  · next made hmade =>
    split at h
    · cases h
    · next hwrite =>
      cases h
      obtain ⟨hfolders, -⟩ := makeFolders_ok hmade
      obtain ⟨names, hbecomes, hlocate⟩ := write_ok hwrite
      exact ⟨names, hfolders.trans hbecomes, hlocate⟩

end Wiring.Export
