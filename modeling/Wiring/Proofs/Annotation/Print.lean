import Mathlib.Data.List.Basic
import Wiring.Proofs.Annotation.Notation

namespace Wiring

open Annotation

namespace Value

inductive IsPrintable : Value → Prop where
  | string (s : String) : IsPrintable (.string s)
  | classLiteral {segs : List (List Char)} (hs : IsDotted segs) :
      IsPrintable (.reference (joinDots segs) true)
  | reference {segs : List (List Char)} (hs : IsDotted segs) (hk : joinDots segs ∉ keywords)
      (hc : 2 ≤ segs.length → segs.getLast? ≠ some "class".toList) :
      IsPrintable (.reference (joinDots segs) false)
  | literal {t : List Char} (ht : IsLiteral t) : IsPrintable (.literal (String.ofList t))
  | list {vs : List Value} (hvs : ∀ v ∈ vs, IsPrintable v) : IsPrintable (.list vs)

mutual

def print : Value → List Char
  | .string s => quoted s.toList
  | .reference name true => name.toList ++ ".class".toList
  | .reference name false => name.toList
  | .literal t => t.toList
  | .list vs => '{' :: printItems vs

def printItems : List Value → List Char
  | [] => ['}']
  | [v] => print v ++ ['}']
  | v :: w :: vs => print v ++ ',' :: ' ' :: printItems (w :: vs)

end

end Value

namespace Annotation

def printItem : Item → List Char
  | (none, v) => v.print
  | (some k, v) => k ++ " = ".toList ++ v.print

def printArguments : List Item → List Char
  | [] => [')']
  | [i] => printItem i ++ [')']
  | i :: j :: is => printItem i ++ ',' :: ' ' :: printArguments (j :: is)

def print (name : String) (items : List Item) : List Char :=
  '@' :: name.toList ++ '(' :: printArguments items

structure Interleaves (items : List Item) (a : Annotation) : Prop where
  positional : positionals items = a.positional
  named : keywordsOf items = a.named

structure IsPrintable (a : Annotation) : Prop where
  name : ∃ segs, IsDotted segs ∧ a.name = joinDots segs
  positional : ∀ v ∈ a.positional, v.IsPrintable
  named : ∀ p ∈ a.named, IsSegment p.1.toList ∧ p.2.IsPrintable

theorem blank_space : Blank [' '] := by
  intro c hc
  cases List.mem_singleton.mp hc
  decide

theorem layout_space : Layout [' '] := .blank (by decide) .nil

theorem writtenItems_print {vs : List Value} (h : ∀ v ∈ vs, Written v v.print) {l : List Char}
    (hl : Layout l) : WrittenItems vs (l ++ Value.printItems vs) := by
  induction vs generalizing l with
  | nil => exact .nil hl
  | cons v vs ih =>
    have hv := h v List.mem_cons_self
    cases vs with
    | nil =>
      have hw := WrittenItems.last hl hv .nil
      simpa [Value.printItems] using hw
    | cons w vs =>
      have hs := ih (fun u hu => h u (List.mem_cons_of_mem _ hu)) layout_space
      have hw := WrittenItems.cons hl hv .nil hs
      simpa [Value.printItems] using hw

theorem written_print {v : Value} (h : v.IsPrintable) : Written v v.print := by
  induction h with
  | string s =>
    have hw := Written.string s.toList
    rwa [String.ofList_toList] at hw
  | classLiteral hs =>
    have hw := Written.classLiteral hs
    rwa [Value.print, joinDots, String.toList_ofList]
  | reference hs hk hc =>
    have hw := Written.reference hs hk hc
    rwa [Value.print, joinDots, String.toList_ofList]
  | literal ht =>
    have hw := Written.literal ht
    rwa [Value.print, String.toList_ofList]
  | list _ ih => exact .list (writtenItems_print ih .nil)

theorem writtenItem_print {i : Item} (hk : ∀ k ∈ i.1, IsSegment k) (hv : i.2.IsPrintable) :
    WrittenItem i (printItem i) := by
  obtain ⟨_ | k, v⟩ := i
  · exact .positional (written_print hv)
  · have hw := WrittenItem.named (w := [' ']) (hk k rfl) blank_space layout_space (written_print hv)
    simpa [printItem] using hw

theorem writtenArguments_print {i : Item} {is : List Item}
    (h : ∀ j ∈ i :: is, WrittenItem j (printItem j)) {l : List Char} (hl : Layout l) :
    WrittenArguments (i :: is) (l ++ printArguments (i :: is)) := by
  induction is generalizing i l with
  | nil =>
    have hw := WrittenArguments.last hl (h i List.mem_cons_self) .nil
    simpa [printArguments] using hw
  | cons j is ih =>
    have hs := ih (fun u hu => h u (List.mem_cons_of_mem _ hu)) layout_space
    have hw := WrittenArguments.cons hl (h i List.mem_cons_self) .nil hs
    simpa [printArguments] using hw

theorem Interleaves.item {items : List Item} {a : Annotation} (hi : Interleaves items a)
    (ha : a.IsPrintable) {i : Item} (hm : i ∈ items) :
    (∀ k ∈ i.1, IsSegment k) ∧ i.2.IsPrintable := by
  obtain ⟨_ | k, v⟩ := i
  · have hv : v ∈ a.positional := hi.positional ▸ List.mem_filterMap.mpr ⟨_, hm, rfl⟩
    exact ⟨by rintro k ⟨⟩, ha.positional v hv⟩
  · have hp : (String.ofList k, v) ∈ a.named := hi.named ▸ List.mem_filterMap.mpr ⟨_, hm, rfl⟩
    obtain ⟨hk, hv⟩ := ha.named _ hp
    rw [String.toList_ofList] at hk
    exact ⟨by rintro k ⟨rfl⟩; exact hk, hv⟩

theorem writtenAnnotation_print {a : Annotation} {items : List Item} (h : a.IsPrintable)
    (hi : Interleaves items a) : WrittenAnnotation a (print a.name items) := by
  obtain ⟨segs, hs, hn⟩ := h.name
  have hitem : ∀ i ∈ items, WrittenItem i (printItem i) := by
    intro i hm
    obtain ⟨hk, hv⟩ := hi.item h hm
    exact writtenItem_print hk hv
  have ht : WrittenArgumentList items (printArguments items) := by
    cases items with
    | nil => exact .nil .nil
    | cons i is => exact .some (writtenArguments_print hitem .nil)
  have hw := WrittenAnnotation.mk hs .nil ht .nil
  rw [hi.positional, hi.named, ← hn] at hw
  have hp : print a.name items = '@' :: dots segs ++ [] ++ '(' :: printArguments items ++ [] := by
    rw [print, hn, joinDots, String.toList_ofList]
    simp [dots]
  rw [hp]
  exact hw

end Annotation

end Wiring
