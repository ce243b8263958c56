import Wiring.Proofs.Graph.Contents

/-!
What was told to a graph shows in it from then on, whatever is told afterwards. So telling it again
changes nothing, and graphs that were told the same things, in any order and any number of times,
are alike.
-/

namespace Wiring

structure Node.Covers (n : Node) (s : Stereotype) : Prop where
  stereotype : ∃ t, n.stereotype = some t ∧ t.rank ≤ s.rank
  package : n.package ≠ none

namespace Node

variable {n : Node} {s : Stereotype}

theorem covers_take (n : Node) (r : Role) : (n.take r).Covers r.stereotype where
  stereotype := by
    refine ⟨_, rfl, ?_⟩
    cases n.stereotype with
    | none => exact Nat.le_refl _
    | some old => exact (Stereotype.rank_best_le old r.stereotype).2
  package := Option.some_ne_none _

theorem Covers.take (h : n.Covers s) (r : Role) : (n.take r).Covers s where
  stereotype := by
    obtain ⟨t, ht, hle⟩ := h.stereotype
    refine ⟨_, rfl, ?_⟩
    rw [ht]
    exact (Stereotype.rank_best_le t r.stereotype).1.trans hle
  package := Option.some_ne_none _

theorem Covers.foldl_take (h : n.Covers s) (rs : List Role) : (rs.foldl Node.take n).Covers s := by
  induction rs generalizing n with
  | nil => exact h
  | cons r rs ih => exact ih (h.take r)

theorem Covers.take_eq {r : Role} (h : n.Covers r.stereotype) : n.take r = n := by
  obtain ⟨t, ht, hle⟩ := h.stereotype
  obtain ⟨p, hp⟩ := Option.ne_none_iff_exists'.mp h.package
  obtain ⟨name, stereotype, package⟩ := n
  cases ht
  cases hp
  simp [Node.take, merge, Stereotype.best, Nat.not_lt.mpr hle]

end Node

namespace Graph

/-- What the change asks for is there. Of a role the package does not matter, since the first one
that was told stays. -/
def Holds (g : Graph) : Change → Prop
  | .role r => r.className ∈ g.names ∧ (g.lookup r.className).Covers r.stereotype
  | .edge e => (e.source ∈ g.names ∧ e.target ∈ g.names) ∧ e ∈ g.edges
  | .scan s => s.source ∈ g.names ∧ s ∈ g.scans

variable {g : Graph}

theorem holds_change (hg : g.Valid) (c : Change) : (g.change c).Holds c := by
  have hnames : ∀ name ∈ c.mentions, name ∈ (g.change c).names := by
    intro name hname
    rw [names_change, mem_gather]
    exact .inr hname
  cases c with
  | role r =>
    refine ⟨hnames _ List.mem_cons_self, ?_⟩
    rw [change, lookup_addRole, if_pos rfl]
    exact Node.covers_take _ r
  | edge e =>
    refine ⟨⟨hnames _ (by simp [Change.mentions]), hnames _ (by simp [Change.mentions])⟩, ?_⟩
    rw [edges_change hg, mem_gather]
    exact .inr List.mem_cons_self
  | scan s =>
    refine ⟨hnames _ List.mem_cons_self, ?_⟩
    rw [scans_change, mem_gather]
    exact .inr List.mem_cons_self

theorem Holds.change {c : Change} (h : g.Holds c) (d : Change) : (g.change d).Holds c := by
  have hgrows := Extends.change g d
  cases c with
  | role r =>
    refine ⟨hgrows.names.subset h.1, ?_⟩
    rw [lookup_change]
    exact h.2.foldl_take _
  | edge e =>
    exact ⟨⟨hgrows.names.subset h.1.1, hgrows.names.subset h.1.2⟩, hgrows.edges.subset h.2⟩
  | scan s => exact ⟨hgrows.names.subset h.1, hgrows.scans.subset h.2⟩

theorem Holds.changes {c : Change} (h : g.Holds c) (ds : List Change) : (g.changes ds).Holds c := by
  induction ds generalizing g with
  | nil => exact h
  | cons d ds ih => exact ih (h.change d)

theorem holds_changes (hg : g.Valid) (cs : List Change) : ∀ c ∈ cs, (g.changes cs).Holds c := by
  induction cs generalizing g with
  | nil => intro c hc; cases hc
  | cons d cs ih =>
    intro c hc
    rcases List.mem_cons.mp hc with rfl | hc
    · exact (holds_change hg c).changes cs
    · exact ih (hg.change d) c hc

theorem addScan_eq_of_mem {s : Scan} (h : s ∈ g.scans) : g.addScan s = g :=
  if_pos (List.contains_iff_mem.mpr h)

theorem addEdge_eq_of_mem (hg : g.Valid) {e : Edge} (hs : e.source ∈ g.names)
    (ht : e.target ∈ g.names) (he : e ∈ g.edges) : g.addEdge e = g := by
  have hknown : g.known.contains e = true := EdgeSet.contains_iff.mpr ((hg.known_iff e).mpr he)
  rw [addEdge, ensure_eq_of_mem hs, ensure_eq_of_mem ht]
  exact if_pos hknown

theorem addRole_eq_of_covers (hg : g.Valid) {r : Role} (hr : r.className ∈ g.names)
    (hc : (g.lookup r.className).Covers r.stereotype) : g.addRole r = g := by
  have hvalid : (g.addRole r).Valid := hg.change (.role r)
  have hnames : (g.addRole r).names = g.names := by rw [names_addRole, once_of_mem hr]
  have hlookup : (g.addRole r).lookup = g.lookup := by
    funext name
    rw [lookup_addRole]
    split
    · next h => subst h; exact hc.take_eq
    · rfl
  have htable : (g.addRole r).table = g.table := by
    rw [hvalid.table_eq, hnames, hlookup, ← hg.table_eq]
  rw [addRole, ensure_eq_of_mem hr] at htable ⊢
  exact congrArg (fun t => { g with table := t }) htable

theorem Holds.absorbed {c : Change} (hg : g.Valid) (h : g.Holds c) : g.change c = g := by
  cases c with
  | role r => exact addRole_eq_of_covers hg h.1 h.2
  | edge e => exact addEdge_eq_of_mem hg h.1.1 h.1.2 h.2
  | scan s =>
    rw [Graph.change, ensure_eq_of_mem h.1]
    exact addScan_eq_of_mem h.2

theorem changes_absorbed (hg : g.Valid) {cs : List Change} (h : ∀ c ∈ cs, g.Holds c) :
    g.changes cs = g := by
  induction cs with
  | nil => rfl
  | cons c cs ih =>
    obtain ⟨hc, hcs⟩ := List.forall_mem_cons.mp h
    rw [changes, List.foldl_cons, hc.absorbed hg]
    exact ih hcs

theorem changes_append (g : Graph) (cs ds : List Change) :
    g.changes (cs ++ ds) = (g.changes cs).changes ds := List.foldl_append

theorem changes_append_of_subset (hg : g.Valid) {cs ds : List Change} (h : ds ⊆ cs) :
    g.changes (cs ++ ds) = g.changes cs := by
  rw [changes_append]
  exact changes_absorbed (hg.changes cs) (fun d hd => holds_changes hg cs d (h hd))

theorem Holds.of_package {e : Entity} {p : String} (h : g.Holds (e.change p)) (q : String) :
    g.Holds (e.change q) := by
  cases e <;> exact h

section Repeated

variable {α : Type} [DecidableEq α] (told : α → List Change)

theorem changes_gather (done as : List α) :
    empty.changes ((gather done as).flatMap told) = empty.changes ((done ++ as).flatMap told) := by
  induction as generalizing done with
  | nil => rw [gather_nil, List.append_nil]
  | cons a as ih =>
    rw [gather_cons, ih]
    by_cases ha : a ∈ done
    · have hsubset : told a ⊆ done.flatMap told := fun c hc => List.mem_flatMap.mpr ⟨a, ha, hc⟩
      rw [once_of_mem ha, List.flatMap_append, List.flatMap_append, List.flatMap_cons,
        ← List.append_assoc, changes_append, changes_append empty (_ ++ _),
        changes_append_of_subset valid_empty hsubset]
    · rw [once_of_notMem ha, List.append_assoc, List.singleton_append]

theorem changes_eraseDups (as : List α) :
    empty.changes (as.eraseDups.flatMap told) = empty.changes (as.flatMap told) := by
  rw [← gather_nil_eq_eraseDups, changes_gather, List.nil_append]

end Repeated

section SameChanges

variable {cs ds : List Change}

structure Alike (g h : Graph) : Prop where
  names : g.names.Perm h.names
  edges : g.edges.Perm h.edges
  scans : g.scans.Perm h.scans
  stereotypes : ∀ name, (g.lookup name).stereotype = (h.lookup name).stereotype

theorem mem_flatMap_congr {α : Type} (h : ∀ c, c ∈ cs ↔ c ∈ ds) (view : Change → List α) (a : α) :
    a ∈ cs.flatMap view ↔ a ∈ ds.flatMap view := by
  simp only [List.mem_flatMap, h]

theorem alike_changes (h : ∀ c, c ∈ cs ↔ c ∈ ds) :
    (empty.changes cs).Alike (empty.changes ds) where
  names := by
    rw [names_changes valid_empty, names_changes valid_empty]
    exact gather_congr (mem_flatMap_congr h _)
  edges := by
    rw [edges_changes valid_empty, edges_changes valid_empty]
    exact gather_congr (mem_flatMap_congr h _)
  scans := by
    rw [scans_changes valid_empty, scans_changes valid_empty]
    exact gather_congr (mem_flatMap_congr h _)
  stereotypes := by
    intro name
    rw [stereotype_changes, stereotype_changes]
    apply Stereotype.mostSpecific?_congr
    intro s
    simp only [List.mem_map, rolesOf, mem_flatMap_congr h]

theorem package_changes_congr (h : ∀ c, c ∈ cs ↔ c ∈ ds) {name package : String}
    (hone : ∀ r ∈ rolesOf name cs, r.package = package) :
    ((empty.changes cs).lookup name).package = ((empty.changes ds).lookup name).package := by
  have hroles : ∀ r, r ∈ rolesOf name cs ↔ r ∈ rolesOf name ds := mem_flatMap_congr h _
  -- the first role told decides, and here all of them decide the same
  rw [package_changes, package_changes]
  cases hc : rolesOf name cs with
  | nil =>
    have hd : rolesOf name ds = [] := by
      rw [List.eq_nil_iff_forall_not_mem]
      intro r hr
      rw [← hroles, hc] at hr
      cases hr
    rw [hd]
  | cons r rs =>
    have hr : r ∈ rolesOf name ds := (hroles r).mp (hc ▸ List.mem_cons_self)
    cases hd : rolesOf name ds with
    | nil => rw [hd] at hr; cases hr
    | cons q qs =>
      have hq : q ∈ rolesOf name cs := (hroles q).mpr (hd ▸ List.mem_cons_self)
      have hfirst : r.package = package := hone r (hc ▸ List.mem_cons_self)
      simp [hfirst, hone q hq]

end SameChanges

theorem build_append_self (bs : List (Batch Entity)) : build (bs ++ bs) = build bs := by
  rw [build_eq_changes, build_eq_changes, List.flatMap_append]
  exact changes_append_of_subset valid_empty (List.Subset.refl _)

end Graph

end Wiring
