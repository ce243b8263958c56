import Mathlib.Data.List.TakeWhile
import Wiring.Proofs.Annotation.Letters

namespace Wiring.Text

variable {p : Char → Bool}

theorem dropTail_append (p : Char → Bool) (s t : List Char) :
    dropTail p (s ++ t) = if dropTail p t = [] then dropTail p s else s ++ dropTail p t := by
  unfold dropTail
  rw [List.reverse_append, List.dropWhile_append]
  by_cases h : t.reverse.dropWhile p = []
  · simp [h]
  · simp [h]

theorem dropTail_of_all {s : List Char} (h : ∀ c ∈ s, p c = true) : dropTail p s = [] := by
  have hr : s.reverse.dropWhile p = [] := by
    rw [List.dropWhile_eq_nil_iff]
    intro c hc
    exact h c (List.mem_reverse.mp hc)
  rw [dropTail, hr, List.reverse_nil]

theorem dropTail_singleton {c : Char} (h : p c = false) : dropTail p [c] = [c] := by
  simp [dropTail, h]

theorem dropTail_append_cons {c : Char} (h : p c = false) (s t : List Char) :
    dropTail p (s ++ c :: t) = s ++ c :: dropTail p t := by
  have hc : dropTail p (c :: t) = c :: dropTail p t := by
    rw [show c :: t = [c] ++ t from rfl, dropTail_append, dropTail_singleton h]
    by_cases ht : dropTail p t = []
    · rw [if_pos ht, ht]
    · rw [if_neg ht]; rfl
  rw [dropTail_append, hc, if_neg (List.cons_ne_nil _ _)]

theorem mem_of_mem_dropTail {c : Char} {s : List Char} (h : c ∈ dropTail p s) : c ∈ s := by
  have hr := List.mem_reverse.mp h
  exact List.mem_reverse.mp ((List.dropWhile_sublist p).subset hr)

end Wiring.Text

namespace Wiring.Annotation

open Wiring.Text

theorem afterLine_append {body : List Char} (hb : '\n' ∉ body) (r : List Char) :
    afterLine (body ++ '\n' :: r) = r := by
  have hd : (body ++ '\n' :: r).dropWhile (· ≠ '\n') = '\n' :: r := by
    rw [List.dropWhile_append_of_pos]
    · simp
    · intro c hc
      have hn : c ≠ '\n' := ne_of_mem_of_not_mem hc hb
      simpa using hn
  rw [afterLine, hd]
  rfl

theorem afterLine_of_notMem {body : List Char} (hb : '\n' ∉ body) : afterLine body = [] := by
  have hd : body.dropWhile (· ≠ '\n') = [] := by
    rw [List.dropWhile_eq_nil_iff]
    intro c hc
    have hn : c ≠ '\n' := ne_of_mem_of_not_mem hc hb
    simpa using hn
  rw [afterLine, hd]
  rfl

theorem afterBlock?_append {body : List Char} (hb : ¬ ['*', '/'] <:+: body) (r : List Char) :
    afterBlock? (body ++ '*' :: '/' :: r) = some r := by
  induction body with
  | nil => rfl
  | cons c body ih =>
    have hbody : ¬ ['*', '/'] <:+: body := fun h => hb (h.trans (List.suffix_cons c body).isInfix)
    have hstep : afterBlock? (c :: (body ++ '*' :: '/' :: r)) =
        afterBlock? (body ++ '*' :: '/' :: r) := by
      rw [afterBlock?]
      rintro s rfl he
      cases body with
      | nil => cases he
      | cons d body =>
        cases he
        exact hb ⟨[], body, rfl⟩
    exact hstep.trans (ih hbody)

theorem comment?_line {body : List Char} (hb : '\n' ∉ body) (r : List Char) :
    comment? ('/' :: '/' :: body ++ '\n' :: r) = some (.ok r) := by
  simp only [List.cons_append, comment?, afterLine_append hb]

theorem comment?_block {body : List Char} (hb : ¬ ['*', '/'] <:+: body) (r : List Char) :
    comment? ('/' :: '*' :: body ++ '*' :: '/' :: r) = some (.ok r) := by
  simp only [List.cons_append, comment?, afterBlock?_append hb]
  rfl

theorem comment?_of_ne {c : Char} (h : c ≠ '/') (r : List Char) : comment? (c :: r) = none := by
  rw [comment?]
  · rintro s he; cases he; exact h rfl
  · rintro s he; cases he; exact h rfl

theorem skipLayout_nil : skipLayout [] = .ok [] := by rw [skipLayout]

theorem skipLayout_blank {c : Char} (h : isBlank c = true) (r : List Char) :
    skipLayout (c :: r) = skipLayout r := by
  rw [skipLayout, if_pos h]

theorem skipLayout_comment {s r : List Char} (h : comment? ('/' :: s) = some (.ok r)) :
    skipLayout ('/' :: s) = skipLayout r := by
  rw [skipLayout, if_neg (by decide)]
  split
  · next hn => rw [h] at hn; cases hn
  · next e he => rw [h] at he; cases he
  · next t ht => rw [h] at ht; cases ht; rfl

theorem skipLayout_self {c : Char} {r : List Char} (hb : isBlank c = false)
    (hn : comment? (c :: r) = none) : skipLayout (c :: r) = .ok (c :: r) := by
  rw [skipLayout, if_neg (by simp [hb])]
  split
  · rfl
  · next e he => rw [hn] at he; cases he
  · next t ht => rw [hn] at ht; cases ht

theorem skipLayout_stop {c : Char} (hb : isBlank c = false) (hc : c ≠ '/') (r : List Char) :
    skipLayout (c :: r) = .ok (c :: r) := skipLayout_self hb (comment?_of_ne hc r)

theorem skipLayout_append {l : List Char} (hl : Layout l) (r : List Char) :
    skipLayout (l ++ r) = skipLayout r := by
  induction hl with
  | nil => rfl
  | blank hc _ ih => exact (skipLayout_blank hc _).trans ih
  | @line body l hb _ ih =>
    have hc := comment?_line hb (l ++ r)
    rw [List.append_assoc]
    exact (skipLayout_comment hc).trans ih
  | @block body l hb _ ih =>
    have hc := comment?_block hb (l ++ r)
    rw [List.append_assoc]
    exact (skipLayout_comment hc).trans ih

theorem head?_layout {l r : List Char} {x : Char} (hl : Layout l) (hb : isBlank x = false)
    (hs : x ≠ '/') (hr : r.head? ≠ some x) : (l ++ r).head? ≠ some x := by
  cases hl with
  | nil => exact hr
  | blank hc _ =>
    rintro ⟨rfl⟩
    simp [hc] at hb
  | line _ _ =>
    rintro ⟨rfl⟩
    exact hs rfl
  | block _ _ =>
    rintro ⟨rfl⟩
    exact hs rfl

theorem head?_dropWhile_layout {p : Char → Bool} (hp : ∀ c, isBlank c = true → p c = true)
    (hs : p '/' = false) {l : List Char} {c : Char} (hl : Layout l) (hc : p c = false)
    (r : List Char) : ((l ++ c :: r).dropWhile p).head? ∈ [some '/', some c] := by
  induction hl with
  | nil =>
    rw [List.nil_append, List.dropWhile_cons_of_neg (by simp [hc])]
    exact List.mem_cons_of_mem _ List.mem_cons_self
  | @blank b l hb _ ih =>
    rw [List.cons_append, List.dropWhile_cons_of_pos (hp b hb)]
    exact ih
  | line _ _ =>
    rw [List.append_assoc, List.cons_append, List.dropWhile_cons_of_neg (by simp [hs])]
    exact List.mem_cons_self
  | block _ _ =>
    rw [List.append_assoc, List.cons_append, List.dropWhile_cons_of_neg (by simp [hs])]
    exact List.mem_cons_self

theorem skipLayout_dropTail {l : List Char} (hl : Layout l) :
    skipLayout (dropTail isBlank l) = .ok [] := by
  induction hl with
  | nil => exact skipLayout_nil
  | @blank c l hc _ ih =>
    rw [show c :: l = [c] ++ l from rfl, dropTail_append]
    split
    · rw [dropTail_of_all (by simpa using hc)]; exact skipLayout_nil
    · exact (skipLayout_blank hc _).trans ih
  | @line body l hb _ ih =>
    have hs : dropTail isBlank ('/' :: '/' :: body ++ '\n' :: l) =
        '/' :: '/' :: dropTail isBlank (body ++ '\n' :: l) :=
      dropTail_append_cons (by decide) ['/'] (body ++ '\n' :: l)
    have hnl : isBlank '\n' = true := by decide
    have hn : dropTail isBlank ['\n'] = [] := dropTail_of_all (by simpa using hnl)
    rw [hs, dropTail_append, show '\n' :: l = ['\n'] ++ l from rfl, dropTail_append, hn]
    by_cases h : dropTail isBlank l = []
    · have hc : comment? ('/' :: '/' :: dropTail isBlank body) = some (.ok []) := by
        rw [comment?, afterLine_of_notMem (fun hm => hb (mem_of_mem_dropTail hm))]
      rw [if_pos h, if_pos rfl]
      exact (skipLayout_comment hc).trans skipLayout_nil
    · rw [if_neg h, if_neg (by simp)]
      exact (skipLayout_comment (comment?_line hb (dropTail isBlank l))).trans ih
  | @block body l hb _ ih =>
    have hs : dropTail isBlank ('/' :: '*' :: body ++ '*' :: '/' :: l) =
        '/' :: '*' :: body ++ '*' :: '/' :: dropTail isBlank l := by
      have h := dropTail_append_cons (p := isBlank) (by decide) ('/' :: '*' :: body ++ ['*']) l (c := '/')
      simpa using h
    rw [hs]
    exact (skipLayout_comment (comment?_block hb _)).trans ih

end Wiring.Annotation
