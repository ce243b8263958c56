import Wiring.Proofs.Files.Entries

/-!
Paths on a disk before and after something is put there. A path that leads somewhere still leads
there when nothing was taken away.
-/

namespace Wiring.Files

theorem Path.child_parent {p : Path} (h : p.segments ≠ []) : p.parent.child p.name = p := by
  obtain ⟨anchor, segments⟩ := p
  have hlast : segments.getLast?.getD "" = segments.getLast h := by
    rw [List.getLast?_eq_some_getLast h, Option.getD_some]
  simp only [parent, child, name, hlast, List.dropLast_append_getLast h]

namespace Disk

open Entry (child?)

variable {d after : Disk} {x : Entry} {content : Content} {children : List (String × Entry)}
  {p : Path} {name : String} {names others segments : List String} {spots : List (List String)}

theorem entryAt?_nil (d : Disk) : d.entryAt? [] = some (.folder d.root) := rfl

theorem entryAt?_append (d : Disk) (names more : List String) :
    d.entryAt? (names ++ more) = (d.entryAt? names).bind (fun x => x.at? more) :=
  Entry.at?_append _ names more

theorem entryAt?_child (h : d.entryAt? names = some (.folder children)) (name : String) :
    d.entryAt? (names ++ [name]) = child? children name := by
  rw [entryAt?_append, h, Option.bind_some, Entry.at?_folder]
  cases child? children name with
  | none => rfl
  | some y => exact Entry.at?_nil y

theorem exists_folder (h : d.entryAt? (names ++ [name]) = some x) :
    ∃ children, d.entryAt? names = some (.folder children) := by
  rw [entryAt?_append] at h
  obtain ⟨y, hy, hx⟩ := Option.bind_eq_some_iff.mp h
  cases y with
  | file content => cases hx
  | folder children => exact ⟨children, hy⟩

theorem follow_nil (h : d.entryAt? names = some x) : d.follow names [] = .found names x := by
  rw [follow, h]
  rfl

theorem follow_up (h : d.entryAt? names = some (.folder children)) (segments : List String) :
    d.follow names (".." :: segments) = d.follow names.dropLast segments := by
  rw [follow, h]
  rfl

theorem follow_down (h : d.entryAt? names = some (.folder children)) (hn : name ≠ "..")
    (segments : List String) :
    d.follow names (name :: segments) =
      if (child? children name).isSome then d.follow (names ++ [name]) segments else .missing := by
  rw [follow, h]
  simp [hn]

theorem entryAt?_of_follow (h : d.follow names segments = .found others x) :
    d.entryAt? others = some x := by
  induction segments generalizing names with
  | nil =>
    rw [follow] at h
    cases hn : d.entryAt? names with
    | none => rw [hn] at h; cases h
    | some y => rw [hn] at h; cases h; exact hn
  | cons s segments ih =>
    rw [follow] at h
    split at h
    · cases h
    · cases h
    · split at h
      · exact ih h
      · split at h
        · exact ih h
        · cases h

theorem entryAt?_of_locate (h : d.locate p = .found names x) : d.entryAt? names = some x :=
  entryAt?_of_follow h

theorem follow_append (d : Disk) (names segments more : List String) :
    d.follow names (segments ++ more) =
      match d.follow names segments with
      | .found others _ => d.follow others more
      | .missing => .missing
      | .notFolder => .notFolder := by
  induction segments generalizing names with
  | nil =>
    cases hn : d.entryAt? names with
    | none =>
      have hnone : ∀ t, d.follow names t = .missing := by
        intro t
        cases t with
        | nil => rw [follow, hn]; rfl
        | cons s t => rw [follow, hn]
      rw [List.nil_append, hnone, hnone]
    | some y => rw [follow_nil hn, List.nil_append]
  | cons s segments ih =>
    rw [List.cons_append, follow, follow]
    cases d.entryAt? names with
    | none => rfl
    | some y =>
      cases y with
      | file content => rfl
      | folder children =>
        dsimp only
        split
        · exact ih _
        · split
          · exact ih _
          · rfl

theorem locate_child (d : Disk) (p : Path) (name : String) :
    d.locate (p.child name) =
      match d.locate p with
      | .found names _ => d.follow names [name]
      | .missing => .missing
      | .notFolder => .notFolder :=
  follow_append d _ p.segments [name]

theorem follow_up_ne_missing (h : d.entryAt? names = some (.folder children)) :
    d.follow names [".."] ≠ .missing := by
  rw [follow_up h]
  cases List.eq_nil_or_concat' names with
  | inl hnil =>
    subst hnil
    rw [List.dropLast_nil, follow_nil (entryAt?_nil d)]
    rintro ⟨⟩
  | inr hconcat =>
    obtain ⟨above, last, rfl⟩ := hconcat
    obtain ⟨all, hall⟩ := exists_folder h
    rw [List.dropLast_concat, follow_nil hall]
    rintro ⟨⟩

theorem missing_name (hp : d.locate p = .missing)
    (hparent : d.locate p.parent = .found names (.folder children)) :
    p.segments ≠ [] ∧ p.name ≠ ".." ∧ child? children p.name = none := by
  have hne : p.segments ≠ [] := by
    intro hnil
    have hself : p.parent = p := by
      obtain ⟨anchor, segments⟩ := p
      cases hnil
      rfl
    rw [hself, hp] at hparent
    cases hparent
  have hentry := entryAt?_of_locate hparent
  have hlast : d.follow names [p.name] = .missing := by
    have h := locate_child d p.parent p.name
    rwa [Path.child_parent hne, hp, hparent, eq_comm] at h
  have hup : p.name ≠ ".." := by
    intro hup
    rw [hup] at hlast
    exact follow_up_ne_missing hentry hlast
  refine ⟨hne, hup, ?_⟩
  rw [follow_down hentry hup] at hlast
  cases hchild : child? children p.name with
  | none => rfl
  | some y =>
    rw [hchild, Option.isSome_some, if_pos rfl, follow_nil ((entryAt?_child hentry _).trans hchild)]
      at hlast
    cases hlast

theorem locate_concat (hparent : d.locate p = .found names (.folder children)) (hn : name ≠ "..")
    (h : child? children name = some x) : d.locate (p.child name) = .found (names ++ [name]) x := by
  have hentry := entryAt?_of_locate hparent
  rw [locate_child, hparent]
  dsimp only
  rw [follow_down hentry hn, h, Option.isSome_some, if_pos rfl,
    follow_nil ((entryAt?_child hentry name).trans h)]

theorem names_of_locate_child (hparent : d.locate p = .found names (.folder children))
    (hn : name ≠ "..") (h : d.locate (p.child name) = .found others x) :
    others = names ++ [name] := by
  have hentry := entryAt?_of_locate hparent
  rw [locate_child, hparent] at h
  dsimp only at h
  rw [follow_down hentry hn] at h
  cases hchild : child? children name with
  | none =>
    rw [hchild] at h
    cases h
  | some y =>
    rw [hchild, Option.isSome_some, if_pos rfl,
      follow_nil ((entryAt?_child hentry name).trans hchild)] at h
    cases h
    rfl

theorem locate_folder_of_child (h : d.locate (p.child name) = .found others x) :
    ∃ names children, d.locate p = .found names (.folder children) := by
  rw [locate_child] at h
  cases hp : d.locate p with
  | found names y =>
    cases y with
    | folder children => exact ⟨names, children, rfl⟩
    | file content =>
      rw [hp] at h
      dsimp only at h
      rw [follow, entryAt?_of_locate hp] at h
      cases h
  | missing =>
    rw [hp] at h
    cases h
  | notFolder =>
    rw [hp] at h
    cases h

def Present (d : Disk) (p : Path) : Prop := ∃ names x, d.locate p = .found names x

def SamePlace (d : Disk) (p q : Path) : Prop :=
  ∃ names x, d.locate p = .found names x ∧ d.locate q = .found names x

theorem not_samePlace_child (d : Disk) (p : Path) {a b : String} (hab : a ≠ b) (ha : a ≠ "..")
    (hb : b ≠ "..") : ¬ d.SamePlace (p.child a) (p.child b) := by
  rintro ⟨others, x, hx, hy⟩
  obtain ⟨names, children, hp⟩ := locate_folder_of_child hx
  have hnames : names ++ [a] = names ++ [b] :=
    (names_of_locate_child hp ha hx).symm.trans (names_of_locate_child hp hb hy)
  exact hab (List.singleton_inj.mp (List.append_cancel_left hnames))

/-- Nothing goes away or becomes another kind of entry, and no file gets new content unless it
stands at one of the given spots. -/
structure Becomes (d : Disk) (spots : List (List String)) (after : Disk) : Prop where
  working : after.working = d.working
  kinds : ∀ names x, d.entryAt? names = some x →
    ∃ y, after.entryAt? names = some y ∧ y.isFolder = x.isFolder
  files : ∀ names c, names ∉ spots → d.entryAt? names = some (.file c) →
    after.entryAt? names = some (.file c)

theorem Becomes.refl (d : Disk) : d.Becomes [] d :=
  ⟨rfl, fun _ x h => ⟨x, h, rfl⟩, fun _ _ _ h => h⟩

theorem Becomes.trans {last : Disk} {more : List (List String)} (h : d.Becomes spots after)
    (h' : after.Becomes more last) : d.Becomes (spots ++ more) last where
  working := h'.working.trans h.working
  kinds := by
    intro names x hx
    obtain ⟨y, hy, hyx⟩ := h.kinds names x hx
    obtain ⟨z, hz, hzy⟩ := h'.kinds names y hy
    exact ⟨z, hz, hzy.trans hyx⟩
  files := by
    intro names c hn hc
    have hspots : names ∉ spots := fun hm => hn (List.mem_append_left _ hm)
    have hmore : names ∉ more := fun hm => hn (List.mem_append_right _ hm)
    exact h'.files names c hmore (h.files names c hspots hc)

theorem Becomes.folder (h : d.Becomes spots after)
    (hd : d.entryAt? names = some (.folder children)) : ∃ more, after.entryAt? names = some (.folder more) := by
  obtain ⟨y, hy, hfolder⟩ := h.kinds names _ hd
  cases y with
  | file content => cases hfolder
  | folder more => exact ⟨more, hy⟩

theorem Becomes.follow (h : d.Becomes spots after)
    (hf : d.follow names segments = .found others x) :
    ∃ y, after.follow names segments = .found others y ∧ y.isFolder = x.isFolder := by
  induction segments generalizing names with
  | nil =>
    have hx := entryAt?_of_follow hf
    rw [Disk.follow] at hf
    cases hn : d.entryAt? names with
    | none => rw [hn] at hf; cases hf
    | some z =>
      rw [hn] at hf
      cases hf
      obtain ⟨y, hy, hyx⟩ := h.kinds _ _ hx
      exact ⟨y, follow_nil hy, hyx⟩
  | cons s segments ih =>
    rw [Disk.follow] at hf
    split at hf
    · cases hf
    · cases hf
    · next children hn =>
      -- the folder on the way is still one, though it may hold more
      obtain ⟨more, hmore⟩ := h.folder hn
      by_cases hs : s = ".."
      · subst hs
        rw [follow_up hmore]
        exact ih hf
      · have hsb : (s == "..") = false := by simpa using hs
        rw [hsb, if_neg Bool.false_ne_true] at hf
        split at hf
        · next hchild =>
          obtain ⟨c, hc⟩ := Option.isSome_iff_exists.mp hchild
          obtain ⟨y, hy, -⟩ := h.kinds _ c ((entryAt?_child hn s).trans hc)
          rw [entryAt?_child hmore] at hy
          rw [follow_down hmore hs, hy, Option.isSome_some, if_pos rfl]
          exact ih hf
        · cases hf

theorem Becomes.locate (h : d.Becomes spots after) (hp : d.locate p = .found names x) :
    ∃ y, after.locate p = .found names y ∧ y.isFolder = x.isFolder := by
  unfold Disk.locate
  rw [h.working]
  exact h.follow hp

theorem Becomes.locate_folder (h : d.Becomes spots after)
    (hp : d.locate p = .found names (.folder children)) :
    ∃ more, after.locate p = .found names (.folder more) := by
  obtain ⟨y, hy, hfolder⟩ := h.locate hp
  cases y with
  | file content => cases hfolder
  | folder more => exact ⟨more, hy⟩

theorem entryAt?_put (hne : names ≠ []) (x : Entry) (others : List String) :
    (d.put names x).entryAt? others = (Entry.put x names (.folder d.root)).at? others := by
  obtain ⟨name, names, rfl⟩ := List.exists_cons_of_ne_nil hne
  rfl

theorem working_put (d : Disk) (names : List String) (x : Entry) :
    (d.put names x).working = d.working := by
  unfold put
  split
  · rfl
  · rfl

theorem entryAt?_put_self (h : d.entryAt? names = some (.folder children)) (name : String)
    (x : Entry) : (d.put (names ++ [name]) x).entryAt? (names ++ [name]) = some x := by
  rw [entryAt?_put (by simp)]
  exact Entry.at?_put_self x h name

theorem becomes_put_new (h : d.entryAt? names = some (.folder children))
    (hnew : child? children name = none) (x : Entry) :
    d.Becomes [] (d.put (names ++ [name]) x) := by
  have hstay : ∀ others y, d.entryAt? others = some y →
      ∃ z, (d.put (names ++ [name]) x).entryAt? others = some z ∧ y.Stays z := by
    intro others y hy
    rw [entryAt?_put (by simp)]
    apply Entry.at?_put x hy
    rintro ⟨more, rfl⟩
    rw [entryAt?_append, entryAt?_child h, hnew] at hy
    cases hy
  refine ⟨working_put _ _ _, ?_, ?_⟩
  · intro others y hy
    obtain ⟨z, hz, hyz⟩ := hstay others y hy
    exact ⟨z, hz, hyz.isFolder⟩
  · intro others c _ hc
    obtain ⟨z, hz, hyz⟩ := hstay others _ hc
    rw [hz, hyz.file]

theorem becomes_put_old (h : d.entryAt? names = some (.file content)) (c : Content) :
    d.Becomes [names] (d.put names (.file c)) ∧
      (d.put names (.file c)).entryAt? names = some (.file c) := by
  obtain hnil | ⟨above, last, rfl⟩ := List.eq_nil_or_concat' names
  · subst hnil
    cases h
  obtain ⟨children, habove⟩ := exists_folder h
  have hself := entryAt?_put_self habove last (.file c)
  have hstay : ∀ others y, others ≠ above ++ [last] → d.entryAt? others = some y →
      ∃ z, (d.put (above ++ [last]) (.file c)).entryAt? others = some z ∧ y.Stays z := by
    intro others y hne hy
    rw [entryAt?_put (by simp)]
    apply Entry.at?_put _ hy
    rintro ⟨more, rfl⟩
    have hmore : more ≠ [] := by
      rintro rfl
      exact hne (List.append_nil _)
    rw [entryAt?_append, h, Option.bind_some, Entry.at?_of_isFolder_eq_false rfl hmore] at hy
    cases hy
  refine ⟨⟨working_put _ _ _, ?_, ?_⟩, hself⟩
  · intro others y hy
    by_cases ho : others = above ++ [last]
    · subst ho
      rw [h] at hy
      cases hy
      exact ⟨_, hself, rfl⟩
    · obtain ⟨z, hz, hyz⟩ := hstay others y ho hy
      exact ⟨z, hz, hyz.isFolder⟩
  · intro others b hspot hb
    obtain ⟨z, hz, hyz⟩ := hstay others _ (by simpa using hspot) hb
    rw [hz, hyz.file]

end Disk

end Wiring.Files
