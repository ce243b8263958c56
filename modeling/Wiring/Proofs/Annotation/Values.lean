import Wiring.Proofs.Annotation.Spelling

namespace Wiring.Annotation

open Wiring.Text

variable {t r : List Char}

theorem stringBody?_escape (s r : List Char) :
    stringBody? (s.flatMap escape ++ '"' :: r) = some (s, r) := by
  induction s with
  | nil => rfl
  | cons c s ih =>
    rw [List.flatMap_cons, List.append_assoc]
    by_cases h : c = '"' ∨ c = '\\'
    · rw [escape, if_pos h]
      have hu : unescape c = c := by rcases h with rfl | rfl <;> rfl
      simp only [List.cons_append, List.nil_append, stringBody?, ih, Option.map_some, hu]
    · rw [escape, if_neg h, List.singleton_append, stringBody?, ih]
      · rfl
      · exact fun hq => h (.inl hq)
      · exact fun _ _ hb _ => h (.inr hb)

theorem escape_eq_cons (c : Char) : ∃ d v, escape c = d :: v ∧ d ≠ '"' := by
  by_cases h : c = '"' ∨ c = '\\'
  · rw [escape, if_pos h]
    exact ⟨'\\', [c], rfl, by decide⟩
  · rw [escape, if_neg h]
    exact ⟨c, [], rfl, fun hc => h (.inl hc)⟩

theorem stringLiteral_quoted (s : List Char) (hr : r.head? ≠ some '"') :
    stringLiteral (quoted s ++ r) = .ok (s, r) := by
  have hb : stringBody? (quoted s ++ r).tail = some (s, r) := by
    have h := stringBody?_escape s r
    simpa [quoted] using h
  rw [stringLiteral, hb]
  · rfl
  · intro u hu
    cases s with
    | nil =>
      cases r with
      | nil => cases hu
      | cons c r =>
        cases hu
        exact hr rfl
    | cons c s =>
      obtain ⟨d, v, he, hd⟩ := escape_eq_cons c
      rw [quoted, List.flatMap_cons, he] at hu
      injection hu with _ hu
      exact hd (List.cons.inj hu).1

theorem Readable.string {v : List Char} (ht : t.head? = some '"')
    (h : ∀ s, s.head? ≠ some '"' → stringLiteral (t ++ s) = .ok (v, s)) :
    Readable (.string (String.ofList v)) t := by
  obtain ⟨u, rfl⟩ := List.head?_eq_some_iff.mp ht
  constructor
  · exact ⟨'"', u, rfl, by decide, by decide⟩
  · intro m c r hm hc
    have hne : (m ++ c :: r).head? ≠ some '"' := by
      apply head?_layout hm (by decide) (by decide)
      rintro ⟨rfl⟩
      exact absurd hc (by decide)
    have hs := h _ hne
    have ha := skipLayout_delimiter (r := r) hm hc
    have he : endsValue (c :: r) = true := hc
    refine ⟨m ++ c :: r, ?_, ha⟩
    rw [List.cons_append] at hs ⊢
    rw [readValue_eq, skipLayout_stop (by decide) (by decide)]
    simp [hs, ha, he]

theorem readable_string (s : List Char) : Readable (.string (String.ofList s)) (quoted s) :=
  .string rfl (fun _ hr => stringLiteral_quoted s hr)

theorem readable_plain (ht : IsPlain t) : Readable (classify t) t := by
  obtain ⟨d, u, rfl, hb⟩ := ht.head
  obtain ⟨hmark, hequals⟩ := ht.chars d List.mem_cons_self
  simp only [marks, List.mem_cons, List.not_mem_nil, or_false, not_or] at hmark
  constructor
  · exact ⟨d, u, rfl, hb, by simp [hmark, hequals]⟩
  · intro m c r hm hc
    have hx := readExpression_plain (r := r) ht hm hc
    refine ⟨c :: r, ?_, skipLayout_isStop hc⟩
    rw [List.cons_append] at hx ⊢
    rw [readValue_eq, skipLayout_stop hb (by simp [hmark])]
    simp [hmark, hx]

mutual

theorem Written.spelled {v : Value} {t : List Char} (h : Written v t) : Spelled Readable v t :=
  match h with
  | .string s => .base (readable_string s)
  | .classLiteral hs =>
    .base (classify_class hs ▸ readable_plain (dots_concat_class hs.1 ▸ hs.concat_class.isPlain))
  | .reference hs hk hc => .base (classify_reference hs hk hc ▸ readable_plain hs.isPlain)
  | .literal ht => .base (classify_literal ht ▸ readable_plain ht.toIsPlain)
  | .list ht => .list ht.spelled

theorem WrittenItems.spelled {vs : List Value} {t : List Char} (h : WrittenItems vs t) :
    SpelledItems Readable vs t :=
  match h with
  | .nil hl => .nil hl
  | .last hl ht hm => .last hl ht.spelled hm
  | .cons hl ht hm hs => .cons hl ht.spelled hm hs.spelled

end

theorem key?_plain (ht : IsPlain t) : key? t = none := by
  cases hk : key? t with
  | none => rfl
  | some p => exact absurd rfl (ht.chars '=' (mem_of_key? hk)).2

theorem key?_written {v : Value} (h : Written v t) : key? t = none := by
  cases h with
  | string s => rw [key?, quoted, List.cons_append, segment?_of_head (by decide)]
  | list _ => rw [key?, segment?_of_head (by decide)]
  | classLiteral hs => exact key?_plain (dots_concat_class hs.1 ▸ hs.concat_class.isPlain)
  | reference hs _ _ => exact key?_plain hs.isPlain
  | literal ht => exact key?_plain ht.toIsPlain

theorem WrittenItem.spelled {i : Item} (h : WrittenItem i t) : SpelledItem Readable i t := by
  cases h with
  | positional ht => exact .positional ht.spelled (key?_written ht)
  | named hk hw hl ht => exact .named hk hw hl ht.spelled

theorem WrittenArguments.spelled {is : List Item} (h : WrittenArguments is t) :
    SpelledArguments Readable is t := by
  induction h with
  | last hl ht hm => exact .last hl ht.spelled hm
  | cons hl ht hm _ ih => exact .cons hl ht.spelled hm ih

theorem WrittenArgumentList.spelled {is : List Item} (h : WrittenArgumentList is t) :
    SpelledArgumentList Readable is t := by
  cases h with
  | nil hl => exact .nil hl
  | some ht => exact .some ht.spelled

theorem WrittenAnnotation.spelled {a : Annotation} (h : WrittenAnnotation a t) :
    SpelledWhole Readable a t := by
  cases h with
  | mk hs hl ht hm => exact .mk hs hl ht.spelled hm

end Wiring.Annotation
