import Mathlib.Data.List.Basic
import Wiring.Files.Disk

namespace Wiring.Files

namespace Entry

variable {e x new : Entry} {children : List (String × Entry)} {name : String}
  {names others : List String}

theorem child?_cons (c : String × Entry) (children : List (String × Entry)) (name : String) :
    child? (c :: children) name = if c.1 = name then some c.2 else child? children name := by
  by_cases h : c.1 = name
  · simp [child?, h]
  · simp [child?, h]

theorem child?_append (children more : List (String × Entry)) (name : String) :
    child? (children ++ more) name = (child? children name).or (child? more name) := by
  simp [child?, List.find?_append, Option.map_or]

theorem child?_isSome : (child? children name).isSome = children.any (fun c => c.1 == name) := by
  rw [Bool.eq_iff_iff]
  simp [child?, List.any_eq_true]

theorem child?_map (children : List (String × Entry)) (name : String) (e : Entry) (other : String) :
    child? (children.map (fun c => if c.1 == name then (name, e) else c)) other =
      if other = name then (child? children name).map (fun _ => e) else child? children other := by
  induction children with
  | nil => simp [child?]
  | cons c children ih =>
    rw [List.map_cons, child?_cons, ih, child?_cons, child?_cons]
    by_cases hc : c.1 = name
    · by_cases ho : other = name
      · simp [hc, ho]
      · simp [hc, ho, Ne.symm ho]
    · by_cases ho : other = name
      · simp [hc, ho]
      · simp [hc, ho]

theorem child?_setChild (children : List (String × Entry)) (name : String) (e : Entry)
    (other : String) :
    child? (setChild children name e) other =
      if other = name then some e else child? children other := by
  rw [setChild, ← child?_isSome]
  cases hname : child? children name with
  | some y =>
    rw [Option.isSome_some, if_pos rfl, child?_map, hname]
    rfl
  | none =>
    rw [Option.isSome_none, if_neg Bool.false_ne_true, child?_append, child?_cons]
    by_cases ho : other = name
    · simp [ho, hname]
    · simp [ho, Ne.symm ho, child?]

theorem at?_nil (e : Entry) : e.at? [] = some e := by
  cases e <;> rfl

theorem at?_folder (children : List (String × Entry)) (name : String) (names : List String) :
    (folder children).at? (name :: names) =
      (child? children name).bind (fun c => c.at? names) := rfl

theorem at?_append (e : Entry) (names more : List String) :
    e.at? (names ++ more) = (e.at? names).bind (fun x => x.at? more) := by
  induction names generalizing e with
  | nil => rw [List.nil_append, at?_nil, Option.bind_some]
  | cons name names ih =>
    cases e with
    | file content => rfl
    | folder children =>
      rw [List.cons_append, at?_folder, at?_folder, Option.bind_assoc]
      congr 1
      funext c
      exact ih c

theorem at?_of_isFolder_eq_false (h : e.isFolder = false) (hne : names ≠ []) :
    e.at? names = none := by
  obtain ⟨name, more, rfl⟩ := List.exists_cons_of_ne_nil hne
  cases e with
  | file content => rfl
  | folder children => cases h

theorem put_cons_folder (new : Entry) (name : String) (names : List String)
    (children : List (String × Entry)) :
    put new (name :: names) (folder children) =
      folder (setChild children name
        (put new names ((child? children name).getD (folder [])))) := rfl

theorem at?_put_self (new : Entry) (h : e.at? names = some (folder children)) (name : String) :
    (put new (names ++ [name]) e).at? (names ++ [name]) = some new := by
  induction names generalizing e with
  | nil =>
    rw [at?_nil] at h
    cases h
    rw [List.nil_append, put_cons_folder, at?_folder, child?_setChild, if_pos rfl, Option.bind_some,
      put, at?_nil]
  | cons n names ih =>
    cases e with
    | file content => cases h
    | folder all =>
      rw [at?_folder] at h
      obtain ⟨c, hc, hchildren⟩ := Option.bind_eq_some_iff.mp h
      rw [List.cons_append, put_cons_folder, at?_folder, child?_setChild, if_pos rfl, hc,
        Option.bind_some, Option.getD_some]
      exact ih hchildren

def Stays (x y : Entry) : Prop := y = x ∨ (x.isFolder = true ∧ y.isFolder = true)

theorem Stays.isFolder {x y : Entry} (h : x.Stays y) : y.isFolder = x.isFolder := by
  rcases h with rfl | ⟨hx, hy⟩
  · rfl
  · rw [hx, hy]

theorem Stays.file {c : Content} {y : Entry} (h : (file c).Stays y) : y = file c := by
  rcases h with rfl | ⟨hx, -⟩
  · rfl
  · cases hx

theorem at?_put (new : Entry) (h : e.at? others = some x) (hn : ¬ names <+: others) :
    ∃ y, (put new names e).at? others = some y ∧ x.Stays y := by
  induction names generalizing e others with
  | nil => exact absurd List.nil_prefix hn
  | cons name names ih =>
    cases e with
    | file content => exact ⟨x, h, .inl rfl⟩
    | folder children =>
      rw [put_cons_folder]
      cases others with
      | nil =>
        cases h
        exact ⟨_, at?_nil _, .inr ⟨rfl, rfl⟩⟩
      | cons other others =>
        rw [at?_folder] at h
        obtain ⟨c, hc, hx⟩ := Option.bind_eq_some_iff.mp h
        rw [at?_folder, child?_setChild]
        by_cases ho : other = name
        · subst ho
          rw [if_pos rfl, hc, Option.bind_some, Option.getD_some]
          exact ih hx (fun hp => hn (List.prefix_cons_inj other |>.mpr hp))
        · rw [if_neg ho, hc, Option.bind_some]
          exact ⟨x, hx, .inl rfl⟩

def Alike (d e : Entry) : Prop := ∀ names, (d.at? names).map isFolder = (e.at? names).map isFolder

theorem Alike.isFolder {d e : Entry} (h : d.Alike e) : d.isFolder = e.isFolder := by
  have hnil := h []
  rw [at?_nil, at?_nil] at hnil
  exact Option.some.inj hnil

theorem alike_files (b c : Content) : (file b).Alike (file c) := by
  intro names
  cases names with
  | nil => rfl
  | cons name names => rfl

theorem alike_folders {d e : List (String × Entry)}
    (h : ∀ name names, ((child? d name).bind (fun c => c.at? names)).map Entry.isFolder =
      ((child? e name).bind (fun c => c.at? names)).map Entry.isFolder) :
    (folder d).Alike (folder e) := by
  intro names
  cases names with
  | nil => rfl
  | cons name names => exact h name names

theorem Alike.child {d e : List (String × Entry)} (h : (folder d).Alike (folder e))
    (name : String) : ((child? d name).getD (folder [])).Alike ((child? e name).getD (folder [])) := by
  have hat (names : List String) :
      ((child? d name).bind (fun c => c.at? names)).map Entry.isFolder =
        ((child? e name).bind (fun c => c.at? names)).map Entry.isFolder := h (name :: names)
  cases hd : child? d name with
  | none =>
    cases he : child? e name with
    | none => exact fun _ => rfl
    | some y =>
      have hnil := hat []
      rw [hd, he, Option.bind_some, at?_nil] at hnil
      cases hnil
  | some x =>
    cases he : child? e name with
    | none =>
      have hnil := hat []
      rw [hd, he, Option.bind_some, at?_nil] at hnil
      cases hnil
    | some y =>
      intro names
      have hnames := hat names
      rwa [hd, he] at hnames

theorem Alike.put {d e new other : Entry} (hnew : new.Alike other) (h : d.Alike e)
    (names : List String) : (Entry.put new names d).Alike (Entry.put other names e) := by
  induction names generalizing d e with
  | nil => exact hnew
  | cons name names ih =>
    cases d with
    | file b =>
      cases e with
      | file c => exact alike_files b c
      | folder _ => cases h.isFolder
    | folder d =>
      cases e with
      | file _ => cases h.isFolder
      | folder e =>
        rw [put_cons_folder, put_cons_folder]
        apply alike_folders
        intro n more
        rw [child?_setChild, child?_setChild]
        by_cases hn : n = name
        · rw [if_pos hn, if_pos hn]
          exact ih (h.child name) more
        · rw [if_neg hn, if_neg hn]
          exact h (n :: more)

end Entry

end Wiring.Files
