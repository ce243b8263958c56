import Wiring.Statistics

namespace Wiring

namespace Json

def get? (key : String) : Json → Option Json
  | object fields => (fields.find? (fun p => p.1 == key)).map (·.2)
  | _ => none

def string? : Json → Option String
  | string s => some s
  | _ => none

def nullable? : Json → Option (Option String)
  | null => some none
  | string s => some (some s)
  | _ => none

def rows? {α : Type} (key : String) (row? : Json → Option α) (j : Json) : Option (List α) := do
  match ← j.get? key with
  | array items => items.mapM row?
  | _ => none

end Json

structure NodeRow where
  name : String
  tag : String
  package : Option String
  deriving DecidableEq, Repr

structure EdgeRow where
  source : String
  target : String
  kind : String
  label : String
  deriving DecidableEq, Repr

def nodeRow? (j : Json) : Option NodeRow := do
  let name ← (← j.get? "name").string?
  let tag ← (← j.get? "tag").string?
  let package ← (← j.get? "package").nullable?
  return ⟨name, tag, package⟩

def edgeRow? (j : Json) : Option EdgeRow := do
  let source ← (← j.get? "source").string?
  let target ← (← j.get? "target").string?
  let kind ← (← j.get? "kind").string?
  let label ← (← j.get? "label").string?
  return ⟨source, target, kind, label⟩

def scanRow? (j : Json) : Option Scan := do
  let source ← (← j.get? "source").string?
  let package ← (← j.get? "package").string?
  return ⟨source, package⟩

def Node.row (n : Node) : NodeRow := ⟨n.name, n.tag, n.package⟩

def Edge.row (e : Edge) : EdgeRow := ⟨e.source, e.target, e.kind.name, e.label⟩

theorem dashed_iff_unresolved (n : Node) : n.isPlaceholder = (n.tag == "unresolved") := by
  have hlabel : ∀ s : Stereotype, (s.label == "unresolved") = false := by
    intro s
    cases s <;> decide
  unfold Node.isPlaceholder Node.tag
  cases n.stereotype with
  | none => rfl
  | some s => exact (hlabel s).symm

theorem nodeRow?_toJson (n : Node) : nodeRow? n.toJson = some n.row := by
  obtain ⟨name, stereotype, package⟩ := n
  cases package <;> rfl

theorem edgeRow?_toJson (e : Edge) : edgeRow? e.toJson = some e.row := rfl

theorem scanRow?_toJson (s : Scan) : scanRow? s.toJson = some s := rfl

theorem mapM_map_eq_some {α β γ : Type} {write : α → β} {read? : β → Option γ} {f : α → γ}
    (h : ∀ a, read? (write a) = some (f a)) (as : List α) :
    (as.map write).mapM read? = some (as.map f) := by
  have hread : read? ∘ write = fun a => pure (f a) := funext h
  rw [List.mapM_map, hread, List.mapM_pure]
  rfl

namespace Graph

variable (g : Graph)

theorem rows?_nodes : g.toJson.rows? "nodes" nodeRow? = some (g.nodes.map Node.row) :=
  mapM_map_eq_some nodeRow?_toJson g.nodes

theorem rows?_edges : g.toJson.rows? "edges" edgeRow? = some (g.edges.map Edge.row) :=
  mapM_map_eq_some edgeRow?_toJson g.edges

theorem rows?_scans : g.toJson.rows? "component_scans" scanRow? = some g.scans := by
  have h := mapM_map_eq_some scanRow?_toJson g.scans
  rw [List.map_id'] at h
  exact h

end Graph

end Wiring
