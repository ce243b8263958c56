import Wiring.Proofs.Graph.Validity
import Wiring.Proofs.Precedence

namespace Wiring

namespace Change

def mentions : Change → List String
  | role r => [r.className]
  | edge e => [e.source, e.target]
  | scan s => [s.source]

def edges : Change → List Edge
  | edge e => [e]
  | _ => []

def scans : Change → List Scan
  | scan s => [s]
  | _ => []

def roles (name : String) : Change → List Role
  | role r => if r.className = name then [r] else []
  | _ => []

end Change

def rolesOf (name : String) (cs : List Change) : List Role := cs.flatMap (Change.roles name)

theorem rolesOf_perm {cs ds : List Change} (h : cs.Perm ds) (name : String) :
    (rolesOf name cs).Perm (rolesOf name ds) := h.flatMap_right _

def Batch.changes (b : Batch Entity) : List Change := b.entities.map (·.change b.package)

namespace Node

def take (n : Node) (r : Role) : Node := n.merge r.stereotype r.package

theorem stereotype_foldl_take (n : Node) (rs : List Role) :
    (rs.foldl take n).stereotype =
      Stereotype.mostSpecific? (n.stereotype.toList ++ rs.map (·.stereotype)) := by
  induction rs generalizing n with
  | nil => cases h : n.stereotype <;> simp [h, Stereotype.mostSpecific?]
  | cons r rs ih =>
    rw [List.foldl_cons, ih]
    cases h : n.stereotype <;> simp [take, merge, h, Stereotype.mostSpecific?]

theorem package_foldl_take (n : Node) (rs : List Role) :
    (rs.foldl take n).package = n.package.or (rs.map (·.package)).head? := by
  induction rs generalizing n with
  | nil => simp
  | cons r rs ih =>
    rw [List.foldl_cons, ih]
    cases h : n.package <;> simp [take, merge, h]

theorem name_foldl_take (n : Node) (rs : List Role) : (rs.foldl take n).name = n.name := by
  induction rs generalizing n with
  | nil => rfl
  | cons r rs ih => rw [List.foldl_cons, ih]; rfl

end Node

namespace Graph

variable {g : Graph}

theorem names_change (g : Graph) (c : Change) :
    (g.change c).names = gather g.names c.mentions := by
  cases c with
  | role r => exact names_addRole g r
  | edge e => exact names_addEdge g e
  | scan s => exact (names_addScan _ s).trans (names_ensure g s.source)

theorem edges_change (hg : g.Valid) (c : Change) :
    (g.change c).edges = gather g.edges c.edges := by
  cases c with
  | role r => exact edges_ensure g r.className
  | edge e =>
    rw [change, edges_addEdge]
    simp only [hg.known_iff]
    rfl
  | scan s => exact (edges_addScan _ s).trans (edges_ensure g s.source)

theorem scans_change (g : Graph) (c : Change) :
    (g.change c).scans = gather g.scans c.scans := by
  cases c with
  | role r => exact scans_ensure g r.className
  | edge e => exact scans_addEdge g e
  | scan s =>
    have h := scans_addScan (g.ensure s.source) s
    rw [scans_ensure] at h
    exact h

theorem lookup_change (g : Graph) (c : Change) (name : String) :
    (g.change c).lookup name = (c.roles name).foldl Node.take (g.lookup name) := by
  cases c with
  | role r =>
    rw [change, lookup_addRole, Change.roles]
    by_cases h : name = r.className
    · rw [if_pos h, if_pos h.symm]; rfl
    · rw [if_neg h, if_neg (Ne.symm h)]; rfl
  | edge e => exact lookup_addEdge g e name
  | scan s =>
    have h : ((g.ensure s.source).addScan s).lookup name = (g.ensure s.source).lookup name := by
      rw [lookup, node?, table_addScan, lookup, node?]
    exact h.trans (lookup_ensure g s.source name)

def changes (g : Graph) (cs : List Change) : Graph := cs.foldl change g

theorem Valid.changes (hg : g.Valid) (cs : List Change) : (g.changes cs).Valid := by
  induction cs generalizing g with
  | nil => exact hg
  | cons c cs ih => exact ih (hg.change c)

theorem gather_changes {α : Type} [DecidableEq α] {view : Graph → List α} {told : Change → List α}
    (h : ∀ g : Graph, g.Valid → ∀ c, view (g.change c) = gather (view g) (told c))
    (hg : g.Valid) (cs : List Change) :
    view (g.changes cs) = gather (view g) (cs.flatMap told) := by
  induction cs generalizing g with
  | nil => rfl
  | cons c cs ih =>
    rw [List.flatMap_cons, gather_append, ← h g hg c]
    exact ih (hg.change c)

theorem names_changes (hg : g.Valid) (cs : List Change) :
    (g.changes cs).names = gather g.names (cs.flatMap Change.mentions) :=
  gather_changes (fun g _ => names_change g) hg cs

theorem edges_changes (hg : g.Valid) (cs : List Change) :
    (g.changes cs).edges = gather g.edges (cs.flatMap Change.edges) :=
  gather_changes (fun _ => edges_change) hg cs

theorem scans_changes (hg : g.Valid) (cs : List Change) :
    (g.changes cs).scans = gather g.scans (cs.flatMap Change.scans) :=
  gather_changes (fun g _ => scans_change g) hg cs

theorem lookup_changes (g : Graph) (cs : List Change) (name : String) :
    (g.changes cs).lookup name = (rolesOf name cs).foldl Node.take (g.lookup name) := by
  induction cs generalizing g with
  | nil => rfl
  | cons c cs ih =>
    rw [rolesOf, List.flatMap_cons, List.foldl_append, ← lookup_change]
    exact ih (g.change c)

theorem stereotype_changes (cs : List Change) (name : String) :
    ((empty.changes cs).lookup name).stereotype =
      Stereotype.mostSpecific? ((rolesOf name cs).map (·.stereotype)) := by
  rw [lookup_changes, Node.stereotype_foldl_take]
  rfl

theorem package_changes (cs : List Change) (name : String) :
    ((empty.changes cs).lookup name).package = ((rolesOf name cs).map (·.package)).head? := by
  rw [lookup_changes, Node.package_foldl_take]
  rfl

theorem build_eq_changes (bs : List (Batch Entity)) :
    build bs = empty.changes (bs.flatMap Batch.changes) := by
  have h : ∀ g : Graph, bs.foldl applyBatch g = g.changes (bs.flatMap Batch.changes) := by
    induction bs with
    | nil => intro g; rfl
    | cons b bs ih =>
      intro g
      have hb : g.applyBatch b = g.changes b.changes := by
        rw [changes, Batch.changes, List.foldl_map]; rfl
      rw [List.foldl_cons, List.flatMap_cons, ih, hb, changes, changes, changes, List.foldl_append]
  exact h empty

theorem valid_build (bs : List (Batch Entity)) : (build bs).Valid := by
  rw [build_eq_changes]
  exact valid_empty.changes _

theorem source_mem_names_build {bs : List (Batch Entity)} :
    ∀ s ∈ (build bs).scans, s.source ∈ (build bs).names := by
  intro s hs
  rw [build_eq_changes] at hs ⊢
  rw [scans_changes valid_empty, mem_gather] at hs
  rw [names_changes valid_empty, mem_gather]
  rcases hs with hs | hs
  · cases hs
  · obtain ⟨c, hc, hs⟩ := List.mem_flatMap.mp hs
    have hmention : s.source ∈ c.mentions := by
      cases c with
      | scan t =>
        rw [List.mem_singleton.mp hs]
        exact List.mem_cons_self
      | role r => cases hs
      | edge e => cases hs
    exact .inr (List.mem_flatMap.mpr ⟨c, hc, hmention⟩)

end Graph

end Wiring
