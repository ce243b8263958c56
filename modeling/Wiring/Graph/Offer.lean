import Wiring.Graph.Merge

/-!
Values that are offered to a graph under construction. Only entities are taken; the first value of
another kind ends the construction.
-/

namespace Wiring

inductive Foreign where
  | null
  | bool (b : Bool)
  | int (i : Int)
  | decimal (digits : String)
  | text (s : String)
  | list (items : List Foreign)
  | dict (fields : List (String × Foreign))

namespace Foreign

mutual

def shown : Foreign → String
  | null => "None"
  | bool true => "True"
  | bool false => "False"
  | int i => toString i
  | decimal digits => digits
  | text s => Text.quoted s.toList
  | list items => "[" ++ ", ".intercalate (shownItems items) ++ "]"
  | dict fields => "\x7b" ++ ", ".intercalate (shownFields fields) ++ "\x7d"

def shownItems : List Foreign → List String
  | [] => []
  | v :: vs => v.shown :: shownItems vs

def shownFields : List (String × Foreign) → List String
  | [] => []
  | (k, v) :: fs => (Text.quoted k.toList ++ ": " ++ v.shown) :: shownFields fs

end

end Foreign

inductive Offer where
  | entity (e : Entity)
  | foreign (v : Foreign)

structure Unsupported where
  value : Foreign

def Unsupported.message (u : Unsupported) : String := "Unsupported entity " ++ u.value.shown

def Batch.offered (b : Batch Entity) : Batch Offer := ⟨b.path, b.package, b.entities.map .entity⟩

namespace Graph

def applyOffer (g : Graph) (batchPackage : String) : Offer → Graph × Option Unsupported
  | .entity e => (g.apply batchPackage e, none)
  | .foreign v => (g, some ⟨v⟩)

def applyOffers (batchPackage : String) (g : Graph) :
    List Offer → List Notice × Except Unsupported Graph
  | [] => ([], .ok g)
  | .foreign v :: _ => ([], .error ⟨v⟩)
  | .entity e :: rest =>
    let (log, result) := applyOffers batchPackage (g.apply batchPackage e) rest
    (g.changeNotices (e.change batchPackage) ++ log, result)

def applyBatches (g : Graph) : List (Batch Offer) → List Notice × Except Unsupported Graph
  | [] => ([], .ok g)
  | b :: rest =>
    let start := Notice.applying b.entities.length b.path
    match applyOffers b.package g b.entities with
    | (log, .error e) => (start :: log, .error e)
    | (log, .ok g) =>
      let (logs, result) := applyBatches g rest
      (start :: log ++ logs, result)

def buildNotices (batches : List (Batch Entity)) : List Notice :=
  (applyBatches empty (batches.map Batch.offered)).1

end Graph

end Wiring
