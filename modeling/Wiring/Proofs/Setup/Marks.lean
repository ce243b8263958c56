import Mathlib.Data.List.Nodup
import Wiring.Config

namespace Wiring

namespace StereotypeMap

theorem get?_cons (p : String × Stereotype) (m : StereotypeMap) (key : String) :
    get? (p :: m) key = if p.1 = key then some p.2 else m.get? key := by
  by_cases h : p.1 = key <;> simp [get?, h]

theorem get?_replace {m : StereotypeMap} {key : String} (s : Stereotype)
    (h : m.any (fun p => p.1 == key) = true) :
    get? (m.map (fun p => if p.1 == key then (key, s) else p)) key = some s := by
  induction m with
  | nil => cases h
  | cons p m ih =>
    rw [List.map_cons, get?_cons]
    by_cases hp : p.1 = key
    · simp [hp]
    · have hm := ih (by simpa [hp] using h)
      simpa [hp] using hm

theorem get?_replace_of_ne (m : StereotypeMap) {key other : String} (s : Stereotype)
    (h : other ≠ key) :
    get? (m.map (fun p => if p.1 == key then (key, s) else p)) other = m.get? other := by
  induction m with
  | nil => rfl
  | cons p m ih =>
    rw [List.map_cons, get?_cons, get?_cons, ih]
    by_cases hp : p.1 = key
    · simp [hp, h.symm]
    · simp [hp]

theorem get?_set (m : StereotypeMap) (key : String) (s : Stereotype) :
    (m.set key s).get? key = some s := by
  rw [set]
  split
  · next hkey => exact get?_replace s hkey
  · next hkey =>
    have hnone : m.find? (fun p => p.1 == key) = none := by
      rw [List.find?_eq_none]
      exact fun p hp hpkey => hkey (List.any_eq_true.mpr ⟨p, hp, hpkey⟩)
    rw [get?, List.find?_append, hnone]
    simp

theorem get?_set_of_ne (m : StereotypeMap) {key other : String} (s : Stereotype)
    (h : other ≠ key) : (m.set key s).get? other = m.get? other := by
  rw [set]
  split
  · exact get?_replace_of_ne m s h
  · simp [get?, List.find?_append, h.symm]

theorem get?_setAll (m : StereotypeMap) (entries : List (String × Stereotype)) (key : String) :
    (m.setAll entries).get? key =
      ((entries.filter (fun p => p.1 = key)).map (·.2)).getLast?.or (m.get? key) := by
  induction entries generalizing m with
  | nil => rfl
  | cons p entries ih =>
    have hrest : m.setAll (p :: entries) = (m.set p.1 p.2).setAll entries := rfl
    rw [hrest, ih]
    by_cases hp : p.1 = key
    · subst hp
      rw [get?_set, List.filter_cons_of_pos (by simp), List.map_cons, List.getLast?_cons]
      cases ((entries.filter (fun q => q.1 = p.1)).map (·.2)).getLast? <;> rfl
    · rw [get?_set_of_ne m p.2 (Ne.symm hp), List.filter_cons_of_neg (by simpa using hp)]

theorem setAll_of_nodup {m : StereotypeMap} {entries : List (String × Stereotype)}
    (h : ((m ++ entries).map (·.1)).Nodup) : m.setAll entries = m ++ entries := by
  induction entries generalizing m with
  | nil => exact (List.append_nil m).symm
  | cons p entries ih =>
    have hnew : m.any (fun q => q.1 == p.1) = false := by
      rw [List.map_append, List.map_cons] at h
      simp only [List.any_eq_false, beq_iff_eq]
      intro q hq he
      exact (List.nodup_append.mp h).2.2 q.1 (List.mem_map_of_mem hq) p.1 List.mem_cons_self he
    have hset : m.set p.1 p.2 = m ++ [p] := by
      rw [set, hnew]
      rfl
    have hrest : m.setAll (p :: entries) = (m.set p.1 p.2).setAll entries := rfl
    rw [hrest, hset, ih (by simpa using h), List.append_assoc]
    rfl

end StereotypeMap

structure Marks where
  entries : List (String × Stereotype)
  distinct : (entries.map (·.1)).Nodup

def bareName (s : String) : String := String.ofList (s.toList.dropWhile (· == '@'))

def Marks.get? (m : Marks) (name : String) : Option Stereotype :=
  ((m.entries.filter (fun p => bareName p.1 = name)).map (·.2)).getLast?

def Marks.onDefault (m : Marks) : StereotypeMap :=
  defaultStereotypes.setAll (m.entries.map (fun p => (bareName p.1, p.2)))

theorem Marks.get?_onDefault (m : Marks) (name : String) :
    m.onDefault.get? name = (m.get? name).or (defaultStereotypes.get? name) := by
  rw [onDefault, StereotypeMap.get?_setAll, List.filter_map, List.map_map]
  rfl

theorem Setup.withStereotypes_marks (s : Setup) (m : Marks) :
    s.withStereotypes m.entries = { s with stereotypes := some m.onDefault } := by
  rw [withStereotypes, StereotypeMap.setAll_of_nodup (m := []) m.distinct]
  rfl

end Wiring
