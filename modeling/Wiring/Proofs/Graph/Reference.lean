import Wiring.Proofs.Graph.Contents

/-!
What a graph that is built from batches holds, said of all batches at once: each name, edge and
scan at its first mention, and for each name the best of its stereotypes and its first package.
-/

namespace Wiring

namespace Entity

def classes : Entity → List String
  | configuration c _ => [c]
  | component c _ _ => [c]
  | classImport source target => [source, target]
  | scan source _ => [source]
  | bean source target .. => [source, target]
  | autowired source target .. => [source, target]

def edge? : Entity → Option Edge
  | classImport source target => some ⟨source, target, .classImport, "@Import"⟩
  | bean source target .. => some ⟨source, target, .bean, "@Bean"⟩
  | autowired source target true _ => some ⟨source, target, .autowired, "@Autowired (CI)"⟩
  | autowired source target false _ => some ⟨source, target, .autowired, "@Autowired"⟩
  | _ => none

def scan? : Entity → Option Scan
  | scan source package => some ⟨source, package⟩
  | _ => none

def role? (batchPackage : String) : Entity → Option Role
  | configuration c p => some ⟨c, .configuration, if p = "" then batchPackage else p⟩
  | component c s p => some ⟨c, s, if p = "" then batchPackage else p⟩
  | _ => none

theorem mentions_change (e : Entity) (batchPackage : String) :
    (e.change batchPackage).mentions = e.classes := by
  cases e <;> rfl

theorem edges_change_eq (e : Entity) (batchPackage : String) :
    (e.change batchPackage).edges = e.edge?.toList := by
  cases e with
  | autowired source target byConstructor member => cases byConstructor <;> rfl
  | _ => rfl

theorem scans_change_eq (e : Entity) (batchPackage : String) :
    (e.change batchPackage).scans = e.scan?.toList := by
  cases e <;> rfl

theorem roles_change_eq (e : Entity) (batchPackage name : String) :
    (e.change batchPackage).roles name =
      (e.role? batchPackage).toList.filter (fun r => r.className = name) := by
  cases e with
  | configuration c p => simp [change, Change.roles, role?, List.filter_singleton]
  | component c s p => simp [change, Change.roles, role?, List.filter_singleton]
  | _ => rfl

end Entity

def entitiesOf (bs : List (Batch Entity)) : List Entity := bs.flatMap (·.entities)

def rolesTold (bs : List (Batch Entity)) : List Role :=
  bs.flatMap (fun b => b.entities.filterMap (Entity.role? b.package))

def rolesToldFor (bs : List (Batch Entity)) (name : String) : List Role :=
  (rolesTold bs).filter (fun r => r.className = name)

/-- The node that the batches as a whole ask for under a name. -/
def nodeTold (bs : List (Batch Entity)) (name : String) : Node :=
  { name := name
    stereotype := ((rolesToldFor bs name).map (·.stereotype)).argmin Stereotype.rank
    package := ((rolesToldFor bs name).map (·.package)).head? }

theorem flatMap_changes {α : Type} (view : Change → List α) (told : Entity → List α)
    (h : ∀ e batchPackage, view (e.change batchPackage) = told e) (bs : List (Batch Entity)) :
    (bs.flatMap Batch.changes).flatMap view = (entitiesOf bs).flatMap told := by
  simp only [Batch.changes, entitiesOf, List.flatMap_assoc, List.flatMap_map, h]

theorem rolesOf_changes (bs : List (Batch Entity)) (name : String) :
    rolesOf name (bs.flatMap Batch.changes) = rolesToldFor bs name := by
  simp only [rolesOf, Batch.changes, rolesToldFor, rolesTold, List.flatMap_assoc, List.flatMap_map,
    Entity.roles_change_eq, List.filter_flatMap, List.filterMap_eq_flatMap_toList]

namespace Graph

theorem lookup_build (bs : List (Batch Entity)) (name : String) :
    (build bs).lookup name = nodeTold bs name := by
  have hname : ((build bs).lookup name).name = name := by
    rw [build_eq_changes, lookup_changes, Node.name_foldl_take]
    rfl
  have hstereotype : ((build bs).lookup name).stereotype = (nodeTold bs name).stereotype := by
    rw [build_eq_changes, stereotype_changes, rolesOf_changes, Stereotype.mostSpecific?_eq_argmin]
    rfl
  have hpackage : ((build bs).lookup name).package = (nodeTold bs name).package := by
    rw [build_eq_changes, package_changes, rolesOf_changes]
    rfl
  calc (build bs).lookup name
      = ⟨((build bs).lookup name).name, ((build bs).lookup name).stereotype,
          ((build bs).lookup name).package⟩ := rfl
    _ = nodeTold bs name := by rw [hname, hstereotype, hpackage]; rfl

theorem build_eq_reference (bs : List (Batch Entity)) :
    (build bs).table =
        ((entitiesOf bs).flatMap Entity.classes).eraseDups.map (fun name => (name, nodeTold bs name)) ∧
      (build bs).edges = ((entitiesOf bs).filterMap Entity.edge?).eraseDups ∧
      (build bs).scans = ((entitiesOf bs).filterMap Entity.scan?).eraseDups := by
  have hnames : (build bs).names = ((entitiesOf bs).flatMap Entity.classes).eraseDups := by
    rw [build_eq_changes, names_changes valid_empty, flatMap_changes _ _ Entity.mentions_change]
    exact gather_nil_eq_eraseDups _
  refine ⟨?_, ?_, ?_⟩
  · rw [(valid_build bs).table_eq, hnames]
    simp only [lookup_build]
  · rw [build_eq_changes, edges_changes valid_empty, flatMap_changes _ _ Entity.edges_change_eq,
      ← List.filterMap_eq_flatMap_toList]
    exact gather_nil_eq_eraseDups _
  · rw [build_eq_changes, scans_changes valid_empty, flatMap_changes _ _ Entity.scans_change_eq,
      ← List.filterMap_eq_flatMap_toList]
    exact gather_nil_eq_eraseDups _

end Graph

end Wiring
