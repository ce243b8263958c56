import Mathlib.Algebra.Ring.Int.Defs
import Wiring.Proofs.Annotation.Outcomes

/-!
How far an expression reaches. Its text is a run of parts: characters, and literals and comments as
a whole. The brackets among the characters are nested, and the expression ends at the first
delimiter outside of them, or with the text.
-/

namespace Wiring.Annotation

open Wiring.Text

inductive Part where
  | sign (c : Char)
  | literal (t : List Char)
  | comment (t : List Char)

namespace Part

def text : Part → List Char
  | sign c => [c]
  | literal t => t
  | comment t => t

def isComment : Part → Bool
  | comment _ => true
  | _ => false

def depth : Part → Int
  | sign c => if (closer? c).isSome then 1 else if isCloser c then -1 else 0
  | _ => 0

end Part

def textOf (ps : List Part) : List Char := ps.flatMap Part.text

def depthOf (ps : List Part) : Int := (ps.map Part.depth).sum

def runs (ps : List Part) : List (List Char) := (ps.splitOnP Part.isComment).map textOf

inductive PartsOf : List Char → List Part → List Char → Prop where
  | nil {r : List Char} : PartsOf r [] r
  | comment {t s r : List Char} {ps : List Part} (hc : comment? (t ++ s) = some (.ok s))
      (h : PartsOf s ps r) : PartsOf (t ++ s) (.comment t :: ps) r
  | literal {c : Char} {t s r : List Char} {ps : List Part} (hc : c = '"' ∨ c = '\'')
      (ht : literalBody? c (t ++ s) = some (t, s)) (h : PartsOf s ps r) :
      PartsOf (c :: (t ++ s)) (.literal (c :: t) :: ps) r
  | sign {c : Char} {s r : List Char} {ps : List Part} (hn : comment? (c :: s) = none)
      (hc : ¬ (c = '"' ∨ c = '\'')) (h : PartsOf s ps r) : PartsOf (c :: s) (.sign c :: ps) r

/-- Every bracket has its partner, and so have all between the two. -/
inductive Nested : List Part → Prop where
  | nil : Nested []
  | part {p : Part} {ps : List Part} (hp : p.depth = 0) (h : Nested ps) : Nested (p :: ps)
  | pair {c q : Char} {ps qs : List Part} (hc : closer? c = some q) (hps : Nested ps)
      (hqs : Nested qs) : Nested (.sign c :: ps ++ .sign q :: qs)

def NoStop (ps : List Part) : Prop :=
  ∀ before c after, ps = before ++ .sign c :: after → isStop c = true → depthOf before ≠ 0

/-- The expression at the beginning of `s` has the given parts and ends before `r`. -/
structure IsExtent (s : List Char) (ps : List Part) (r : List Char) : Prop where
  parts : PartsOf s ps r
  nested : Nested ps
  first : NoStop ps
  stop : ∀ c ∈ r.head?, isStop c = true
  visible : ∃ c ∈ textOf (ps.filter (fun p => !p.isComment)), isBlank c = false

theorem PartsOf.eq_append {s r : List Char} {ps : List Part} (h : PartsOf s ps r) :
    s = textOf ps ++ r := by
  induction h with
  | nil => rfl
  | comment _ _ ih => simp [textOf, Part.text, ih]
  | literal _ _ _ ih => simp [textOf, Part.text, ih]
  | sign _ _ _ ih => simp [textOf, Part.text, ih]

def awaited : List Char → List Part → Option (List Char)
  | qs, [] => some qs
  | qs, .sign c :: ps =>
    match closer? c with
    | some q => awaited (q :: qs) ps
    | none =>
      if qs.head? = some c then awaited qs.tail ps
      else if qs.isEmpty && isStop c then none
      else if isCloser c then none
      else awaited qs ps
  | qs, _ :: ps => awaited qs ps

variable {c q : Char} {p : Part} {ps : List Part} {qs rs : List Char}

theorem isCloser_of_closer? (hc : closer? c = some q) : isCloser q = true := by
  unfold closer? at hc
  split at hc
  · cases hc; rfl
  · cases hc; rfl
  · cases hc; rfl
  · cases hc

theorem closer?_of_isCloser (hq : isCloser q = true) : closer? q = none := by
  have hclose : q = ')' ∨ q = ']' ∨ q = '}' := by simpa [isCloser, or_assoc] using hq
  rcases hclose with rfl | rfl | rfl <;> rfl

theorem closer?_of_isStop (hc : isStop c = true) : closer? c = none := by
  rcases eq_of_isStop hc with rfl | rfl | rfl <;> rfl

theorem depth_sign (c : Char) :
    (Part.sign c).depth = if (closer? c).isSome then 1 else if isCloser c then -1 else 0 := rfl

theorem depth_opening (hc : closer? c = some q) : (Part.sign c).depth = 1 := by
  simp [depth_sign, hc]

theorem depth_closing (hq : isCloser q = true) : (Part.sign q).depth = -1 := by
  simp [depth_sign, closer?_of_isCloser hq, hq]

theorem depth_unmarked (hc : closer? c = none) (hq : ¬ isCloser c = true) :
    (Part.sign c).depth = 0 := by
  simp [depth_sign, hc, hq]

theorem depth_of_not_sign (hp : ∀ c, p ≠ .sign c) : p.depth = 0 := by
  cases p with
  | sign c => exact absurd rfl (hp c)
  | literal t => rfl
  | comment t => rfl

theorem depthOf_cons (p : Part) (ps : List Part) : depthOf (p :: ps) = p.depth + depthOf ps :=
  List.sum_cons

theorem depthOf_append (ps qs : List Part) : depthOf (ps ++ qs) = depthOf ps + depthOf qs := by
  rw [depthOf, List.map_append, List.sum_append]
  rfl

theorem awaited_sign (qs : List Char) (c : Char) (ps : List Part) :
    awaited qs (.sign c :: ps) =
      match closer? c with
      | some q => awaited (q :: qs) ps
      | none =>
        if qs.head? = some c then awaited qs.tail ps
        else if qs.isEmpty && isStop c then none
        else if isCloser c then none
        else awaited qs ps := rfl

theorem awaited_opening (hc : closer? c = some q) (ps : List Part) :
    awaited qs (.sign c :: ps) = awaited (q :: qs) ps := by
  rw [awaited_sign, hc]

theorem awaited_closing (hq : isCloser q = true) (ps : List Part) :
    awaited (q :: qs) (.sign q :: ps) = awaited qs ps := by
  rw [awaited_sign, closer?_of_isCloser hq]
  exact if_pos rfl

theorem awaited_stop (hc : isStop c = true) (ps : List Part) :
    awaited [] (.sign c :: ps) = none := by
  rw [awaited_sign, closer?_of_isStop hc]
  simp [hc]

theorem awaited_part (hp : p.depth = 0) (hq : ∀ q ∈ qs, isCloser q = true)
    (hs : qs ≠ [] ∨ ∀ c, p = .sign c → isStop c = false) (ps : List Part) :
    awaited qs (p :: ps) = awaited qs ps := by
  cases p with
  | sign c =>
    have hopen : closer? c = none := by
      cases ho : closer? c with
      | none => rfl
      | some q => rw [depth_opening ho] at hp; cases hp
    have hclose : isCloser c = false := by
      cases hb : isCloser c with
      | false => rfl
      | true => rw [depth_closing hb] at hp; cases hp
    have hend : ¬ (qs.isEmpty && isStop c) = true := by
      rcases hs with hne | hs
      · simp [hne]
      · simp [hs c rfl]
    rw [awaited_sign, hopen]
    simp only [if_neg (head_ne_of_isCloser hq hclose), if_neg hend, hclose, Bool.false_eq_true,
      if_false]
  | literal t => rfl
  | comment t => rfl

theorem awaited_append (qs : List Char) (ps rest : List Part) :
    awaited qs (ps ++ rest) = (awaited qs ps).bind (fun rs => awaited rs rest) := by
  -- what the first parts leave open is all that the others need to know of them
  fun_induction awaited qs ps with
  | case1 => rfl
  | case2 qs c ps q hc ih => rw [List.cons_append, awaited_opening hc, ih]
  | case3 qs c ps hc hh ih => rw [List.cons_append, awaited_sign, hc]; simp only [if_pos hh, ih]
  | case4 qs c ps hc hh hs =>
    rw [List.cons_append, awaited_sign, hc]
    simp only [if_neg hh, if_pos hs]
    rfl
  | case5 qs c ps hc hh hs hk =>
    rw [List.cons_append, awaited_sign, hc]; simp only [if_neg hh, if_neg hs, if_pos hk]; rfl
  | case6 qs c ps hc hh hs hk ih =>
    rw [List.cons_append, awaited_sign, hc]; simp only [if_neg hh, if_neg hs, if_neg hk, ih]
  | case7 qs p ps hp ih => cases p <;> first | exact absurd rfl (hp _) | exact ih

theorem length_awaited (h : awaited qs ps = some rs) (hq : ∀ q ∈ qs, isCloser q = true) :
    (rs.length : Int) = qs.length + depthOf ps := by
  fun_induction awaited qs ps with
  | case1 => cases h; simp [depthOf]
  | case2 qs c ps q hc ih =>
    have := ih h (List.forall_mem_cons.mpr ⟨isCloser_of_closer? hc, hq⟩)
    rw [depthOf_cons, depth_opening hc, this, List.length_cons]
    omega
  | case3 qs c ps hc hh ih =>
    obtain ⟨rs, rfl⟩ := List.head?_eq_some_iff.mp hh
    have := ih h (fun q hm => hq q (List.mem_of_mem_tail hm))
    rw [depthOf_cons, depth_closing (hq c List.mem_cons_self), this, List.length_cons,
      List.tail_cons]
    omega
  | case4 => cases h
  | case5 => cases h
  | case6 qs c ps hc hh hs hk ih =>
    rw [depthOf_cons, depth_unmarked hc hk, ih h hq]
    omega
  | case7 qs p ps hp ih =>
    rw [depthOf_cons, depth_of_not_sign hp, ih h hq]
    omega

theorem Nested.depth_eq_zero (h : Nested ps) : depthOf ps = 0 := by
  induction h with
  | nil => rfl
  | part hp _ ih => rw [depthOf_cons, hp, ih, zero_add]
  | pair hc _ _ ihps ihqs =>
    rw [List.cons_append, depthOf_cons, depthOf_append, depthOf_cons, depth_opening hc,
      depth_closing (isCloser_of_closer? hc), ihps, ihqs]
    rfl

theorem Nested.awaited_inside (h : Nested ps) (hq : ∀ q ∈ qs, isCloser q = true) (hne : qs ≠ [])
    (rest : List Part) : awaited qs (ps ++ rest) = awaited qs rest := by
  induction h generalizing qs rest with
  | nil => rfl
  | part hp _ ih => rw [List.cons_append, awaited_part hp hq (.inl hne), ih hq hne]
  | @pair c q ps qs' hc _ _ ihps ihqs =>
    have hcloser := isCloser_of_closer? hc
    have hq' : ∀ x ∈ q :: qs, isCloser x = true := List.forall_mem_cons.mpr ⟨hcloser, hq⟩
    -- the closer of the pair is the one awaited while its inside is passed
    rw [List.cons_append, List.cons_append, List.append_assoc, awaited_opening hc,
      ihps hq' (List.cons_ne_nil _ _), List.cons_append, awaited_closing hcloser, ihqs hq hne]

theorem NoStop.of_append (before : List Part) {after : List Part} (h : NoStop (before ++ after))
    (hd : depthOf before = 0) : NoStop after := by
  rintro front c rest rfl hc
  have hfront := h (before ++ front) c rest (by simp) hc
  rwa [depthOf_append, hd, zero_add] at hfront

theorem Nested.awaited_outside (h : Nested ps) (hf : NoStop ps) : awaited [] ps = some [] := by
  induction h with
  | nil => rfl
  | @part p ps hp _ ih =>
    have hs : ∀ c, p = .sign c → isStop c = false := by
      rintro c rfl
      cases hc : isStop c with
      | false => rfl
      | true => exact absurd rfl (hf [] c ps rfl hc)
    rw [awaited_part hp (by simp) (.inr hs)]
    exact ih (.of_append [p] hf (by simp [depthOf, hp]))
  | @pair c q ps qs hc hps hqs ihps ihqs =>
    have hcloser := isCloser_of_closer? hc
    have hd : depthOf (.sign c :: ps ++ [.sign q]) = 0 := by
      rw [← (Nested.pair hc hps .nil).depth_eq_zero]
    rw [List.cons_append, awaited_opening hc,
      hps.awaited_inside (by simpa using hcloser) (List.cons_ne_nil _ _), awaited_closing hcloser]
    rw [List.append_cons] at hf
    exact ihqs (.of_append _ hf hd)

def Closes : List Char → List Part → Prop
  | [], ps => Nested ps
  | q :: qs, ps => ∃ before after, ps = before ++ .sign q :: after ∧ Nested before ∧ Closes qs after

theorem Closes.append (front : List Part) (hf : ∀ ps, Nested ps → Nested (front ++ ps))
    (h : Closes qs ps) : Closes qs (front ++ ps) := by
  cases qs with
  | nil => exact hf ps h
  | cons q qs =>
    obtain ⟨before, after, rfl, hb, ha⟩ := h
    exact ⟨front ++ before, after, by simp, hf before hb, ha⟩

theorem closes_of_awaited (h : awaited qs ps = some []) (hq : ∀ q ∈ qs, isCloser q = true) :
    Closes qs ps := by
  fun_induction awaited qs ps with
  | case1 => cases h; exact .nil
  | case2 qs c ps q hc ih =>
    obtain ⟨before, after, rfl, hb, ha⟩ :=
      ih h (List.forall_mem_cons.mpr ⟨isCloser_of_closer? hc, hq⟩)
    have hpair := ha.append (.sign c :: before ++ [.sign q])
      (fun rest hr => by simpa using Nested.pair hc hb hr)
    simpa using hpair
  | case3 qs c ps hc hh ih =>
    obtain ⟨rs, rfl⟩ := List.head?_eq_some_iff.mp hh
    exact ⟨[], ps, rfl, .nil, ih h (fun q hm => hq q (List.mem_of_mem_tail hm))⟩
  | case4 => cases h
  | case5 => cases h
  | case6 qs c ps hc hh hs hk ih =>
    exact (ih h hq).append [.sign c] (fun rest hr => .part (depth_unmarked hc hk) hr)
  | case7 qs p ps hp ih =>
    exact (ih h hq).append [p] (fun rest hr => .part (depth_of_not_sign hp) hr)

theorem noStop_of_awaited (h : awaited [] ps = some []) : NoStop ps := by
  rintro before c after rfl hc hd
  rw [awaited_append] at h
  obtain ⟨rs, hrs, hrest⟩ := Option.bind_eq_some_iff.mp h
  have hlength := length_awaited hrs (by simp)
  rw [hd] at hlength
  have hnil : rs = [] := by simpa using hlength
  rw [hnil, awaited_stop hc] at hrest
  cases hrest

theorem awaited_eq_nil_iff : awaited [] ps = some [] ↔ Nested ps ∧ NoStop ps := by
  constructor
  · intro h
    exact ⟨closes_of_awaited h (by simp), noStop_of_awaited h⟩
  · rintro ⟨hn, hf⟩
    exact hn.awaited_outside hf

theorem runs_comment (t : List Char) (ps : List Part) :
    runs (.comment t :: ps) = [] :: runs ps := by
  rw [runs, List.splitOnP_cons_eq_if_modifyHead]
  rfl

theorem runs_cons (hp : p.isComment = false) (ps : List Part) :
    runs (p :: ps) = addFront p.text (runs ps) := by
  rw [runs, runs, List.splitOnP_cons_eq_if_modifyHead, hp]
  cases hs : ps.splitOnP Part.isComment with
  | nil => exact absurd hs (List.splitOnP_ne_nil _ ps)
  | cons a as => simp [addFront, textOf]

theorem runs_sign (c : Char) (ps : List Part) : runs (.sign c :: ps) = addFront [c] (runs ps) :=
  runs_cons rfl ps

theorem runs_literal (t : List Char) (ps : List Part) :
    runs (.literal t :: ps) = addFront t (runs ps) := runs_cons rfl ps

theorem flatten_addFront (t : List Char) (ts : List (List Char)) :
    (addFront t ts).flatten = t ++ ts.flatten := by
  cases ts with
  | nil => rfl
  | cons u ts => simp [addFront]

theorem flatten_runs (ps : List Part) :
    (runs ps).flatten = textOf (ps.filter (fun p => !p.isComment)) := by
  induction ps with
  | nil => rfl
  | cons p ps ih =>
    cases hp : p.isComment with
    | true =>
      obtain ⟨t, rfl⟩ : ∃ t, p = .comment t := by cases p <;> first | exact ⟨_, rfl⟩ | cases hp
      rw [runs_comment, List.filter_cons_of_neg (by simp [hp]), ← ih]
      rfl
    | false =>
      rw [runs_cons hp, flatten_addFront, ih, List.filter_cons_of_pos (by simp [hp])]
      rfl

theorem trim_eq_nil_iff {t : List Char} : trim t = [] ↔ Blank t := by
  constructor
  · intro h
    have hdrop : ∀ c ∈ t.dropWhile isBlank, isBlank c = true := by
      intro c hc
      have hr := List.dropWhile_eq_nil_iff.mp (List.reverse_eq_nil_iff.mp h)
      exact hr c (List.mem_reverse.mpr hc)
    intro c hc
    rw [← List.takeWhile_append_dropWhile (p := isBlank) (l := t)] at hc
    rcases List.mem_append.mp hc with hc | hc
    · exact List.all_eq_true.mp List.all_takeWhile c hc
    · exact hdrop c hc
  · exact trim_of_blank

theorem intercalate_eq_nil {sep : List Char} {ts : List (List Char)} (hts : ∀ t ∈ ts, t ≠ [])
    (h : sep.intercalate ts = []) : ts = [] := by
  cases ts with
  | nil => rfl
  | cons t ts =>
    have ht := hts t List.mem_cons_self
    cases ts with
    | nil => exact absurd (by simpa [List.intercalate] using h) ht
    | cons u ts =>
      rw [List.intercalate_cons_cons, List.append_assoc] at h
      exact absurd (List.append_eq_nil_iff.mp h).1 ht

theorem joinPieces_eq_nil_iff {ts : List (List Char)} : joinPieces ts = [] ↔ Blank ts.flatten := by
  have hblank : joinPieces ts = [] ↔ ∀ t ∈ ts, trim t = [] := by
    constructor
    · intro h t ht
      have hnil := intercalate_eq_nil (fun u hu => by simpa using (List.mem_filter.mp hu).2) h
      simpa using List.filter_eq_nil_iff.mp hnil _ (List.mem_map_of_mem ht)
    · intro h
      rw [joinPieces, List.filter_eq_nil_iff.mpr (by simpa using h)]
      rfl
  rw [hblank]
  constructor
  · intro h c hc
    obtain ⟨t, ht, hc⟩ := List.mem_flatten.mp hc
    exact trim_eq_nil_iff.mp (h t ht) c hc
  · intro h t ht
    exact trim_eq_nil_iff.mpr (fun c hc => h c (List.mem_flatten.mpr ⟨t, ht, hc⟩))

theorem afterBlock?_suffix {s r : List Char} (h : afterBlock? s = some r) : r <:+ s := by
  fun_induction afterBlock? s with
  | case1 => cases h
  | case2 t => cases h; exact ⟨['*', '/'], rfl⟩
  | case3 c t _ ih => exact (ih h).trans (List.suffix_cons c t)

theorem comment?_suffix {s r : List Char} (h : comment? s = some (.ok r)) : r <:+ s := by
  unfold comment? at h
  split at h
  · next t =>
    cases h
    have hline : afterLine t <:+ t := (List.drop_suffix _ _).trans (List.dropWhile_suffix _)
    exact hline.trans (List.suffix_append ['/', '/'] t)
  · next t =>
    cases hb : afterBlock? t with
    | none => simp [hb] at h
    | some u =>
      simp only [hb, Option.elim_some, Option.some.injEq, Except.ok.injEq] at h
      exact h ▸ (afterBlock?_suffix hb).trans (List.suffix_append ['/', '*'] t)
  · cases h

theorem map_pieces {s : List Char} {ts : List (List Char)} {r : List Char}
    {f : List (List Char) → List (List Char)}
    (h : (pieces qs s).map (fun p => (f p.1, p.2)) = .ok (ts, r)) :
    ∃ us, pieces qs s = .ok (us, r) ∧ ts = f us := by
  cases hp : pieces qs s with
  | error e => rw [hp] at h; cases h
  | ok p => rw [hp] at h; cases h; exact ⟨p.1, rfl, rfl⟩

theorem exists_parts {s r : List Char} {ts : List (List Char)} (h : pieces qs s = .ok (ts, r)) :
    ∃ ps, PartsOf s ps r ∧ awaited qs ps = some [] ∧ (∀ c ∈ r.head?, isStop c = true) ∧
      ts = runs ps := by
  -- one part for each step of the reader, but for the one that ends the expression
  fun_induction pieces qs s generalizing ts r with
  | case1 => cases h; exact ⟨[], .nil, rfl, by simp, rfl⟩
  | case2 => cases h
  | case3 => cases h
  | case4 qs c s rest hc ih =>
    obtain ⟨us, hus, rfl⟩ := map_pieces h
    obtain ⟨ps, hps, ha, hr, rfl⟩ := ih hus
    obtain ⟨t, ht⟩ := comment?_suffix hc
    rw [← ht] at hc ⊢
    exact ⟨.comment t :: ps, .comment hc hps, ha, hr, (runs_comment t ps).symm⟩
  | case5 => cases h
  | case6 qs c s hc hq body rest hl ih =>
    obtain ⟨us, hus, rfl⟩ := map_pieces h
    obtain ⟨ps, hps, ha, hr, rfl⟩ := ih hus
    have hs := eq_append_of_literalBody? hl
    rw [hs] at hl ⊢
    exact ⟨.literal (c :: body) :: ps, .literal (by simpa using hq) hl hps, ha, hr,
      (runs_literal _ ps).symm⟩
  | case7 qs c s hc hq q hq' ih =>
    obtain ⟨us, hus, rfl⟩ := map_pieces h
    obtain ⟨ps, hps, ha, hr, rfl⟩ := ih hus
    exact ⟨.sign c :: ps, .sign hc (by simpa using hq) hps, (awaited_opening hq' ps).trans ha, hr,
      (runs_sign c ps).symm⟩
  | case8 qs c s hc hq hq' hh ih =>
    obtain ⟨us, hus, rfl⟩ := map_pieces h
    obtain ⟨ps, hps, ha, hr, rfl⟩ := ih hus
    refine ⟨.sign c :: ps, .sign hc (by simpa using hq) hps, ?_, hr, (runs_sign c ps).symm⟩
    rw [awaited_sign, hq']
    exact (if_pos hh).trans ha
  | case9 qs c s hc hq hq' hh hs =>
    cases h
    obtain ⟨hnil, hstop⟩ : qs = [] ∧ isStop c = true := by simpa using hs
    exact ⟨[], .nil, by rw [hnil]; rfl, by rintro _ ⟨rfl⟩; exact hstop, rfl⟩
  | case10 => cases h
  | case11 qs c s hc hq hq' hh hs hk ih =>
    obtain ⟨us, hus, rfl⟩ := map_pieces h
    obtain ⟨ps, hps, ha, hr, rfl⟩ := ih hus
    refine ⟨.sign c :: ps, .sign hc (by simpa using hq) hps, ?_, hr, (runs_sign c ps).symm⟩
    rw [awaited_sign, hq']
    simp only [if_neg hh, if_neg hs, if_neg hk, ha]

theorem pieces_of_parts {s r : List Char} {ps : List Part} (h : PartsOf s ps r)
    (ha : awaited qs ps = some []) (hr : ∀ c ∈ r.head?, isStop c = true) :
    pieces qs s = .ok (runs ps, r) := by
  induction h generalizing qs with
  | @nil r =>
    cases ha
    cases r with
    | nil => rw [pieces]; rfl
    | cons c r => exact pieces_stop (hr c rfl)
  | @comment t s r ps hc _ ih =>
    obtain ⟨u, hu⟩ : ∃ u, t ++ s = '/' :: u := by
      cases ht : t ++ s with
      | nil => rw [ht] at hc; cases hc
      | cons d u =>
        by_contra hne
        have hd : d ≠ '/' := by rintro rfl; exact hne ⟨u, rfl⟩
        rw [ht, comment?_of_ne hd] at hc
        cases hc
    rw [hu] at hc ⊢
    rw [pieces_comment hc, ih ha hr, runs_comment]
    rfl
  | @literal c t s r ps hc ht _ ih =>
    rw [pieces_literal hc ht, ih ha hr, runs_literal]
    rfl
  | @sign c s r ps hn hc _ ih =>
    rw [pieces_sign hn hc, runs_sign]
    rw [awaited_sign] at ha
    cases hopen : closer? c with
    | some q =>
      rw [hopen] at ha
      dsimp only at ha ⊢
      rw [ih ha hr]
      rfl
    | none =>
      rw [hopen] at ha
      dsimp only at ha ⊢
      split at ha
      · next hh => rw [if_pos hh, ih ha hr]; rfl
      · next hh =>
        split at ha
        · cases ha
        · next hs =>
          split at ha
          · cases ha
          · next hk => rw [if_neg hh, if_neg hs, if_neg hk, ih ha hr]; rfl

theorem pieces_eq_ok_iff {s r : List Char} {ts : List (List Char)} :
    pieces qs s = .ok (ts, r) ↔ ∃ ps, PartsOf s ps r ∧ awaited qs ps = some [] ∧
      (∀ c ∈ r.head?, isStop c = true) ∧ ts = runs ps := by
  constructor
  · exact exists_parts
  · rintro ⟨ps, hps, ha, hr, rfl⟩
    exact pieces_of_parts hps ha hr

theorem readExpression_eq_ok_iff {s r : List Char} {v : Value} :
    readExpression s = .ok (v, r) ↔
      ∃ ps, IsExtent s ps r ∧ v = classify (joinPieces (runs ps)) := by
  constructor
  · intro h
    obtain ⟨ts, hts, hne, rfl⟩ := readExpression_cases h
    obtain ⟨ps, hps, ha, hr, rfl⟩ := pieces_eq_ok_iff.mp hts
    obtain ⟨hnested, hfirst⟩ := awaited_eq_nil_iff.mp ha
    refine ⟨ps, ⟨hps, hnested, hfirst, hr, ?_⟩, rfl⟩
    rw [← flatten_runs]
    by_contra hblank
    exact hne (joinPieces_eq_nil_iff.mpr (fun c hc => by simpa using fun hb => hblank ⟨c, hc, hb⟩))
  · rintro ⟨ps, h, rfl⟩
    have hpieces := pieces_of_parts h.parts (awaited_eq_nil_iff.mpr ⟨h.nested, h.first⟩) h.stop
    have hne : joinPieces (runs ps) ≠ [] := by
      intro hnil
      obtain ⟨c, hc, hb⟩ := h.visible
      rw [← flatten_runs] at hc
      rw [joinPieces_eq_nil_iff.mp hnil c hc] at hb
      cases hb
    rw [readExpression_eq, hpieces]
    exact if_neg hne

/-- An expression is read from a place up to another exactly if it reaches there, and where it
reaches nowhere it is refused. What it means depends on its runs alone. -/
theorem expression_reaches (text : List Char) (start : Nat) :
    (∀ stop v, readExpression (text.drop start) = .ok (v, text.drop stop) ↔
      ∃ ps, IsExtent (text.drop start) ps (text.drop stop) ∧
        v = classify (joinPieces (runs ps))) ∧
    ((∃ f, readExpression (text.drop start) = .error f) ↔
      ∀ stop ps, ¬ IsExtent (text.drop start) ps (text.drop stop)) := by
  refine ⟨fun stop v => readExpression_eq_ok_iff, ?_⟩
  constructor
  · rintro ⟨f, hf⟩ stop ps h
    have hok := readExpression_eq_ok_iff.mpr ⟨ps, h, rfl⟩
    rw [hf] at hok
    cases hok
  · intro h
    cases hread : readExpression (text.drop start) with
    | error f => exact ⟨f, rfl⟩
    | ok p =>
      obtain ⟨v, r⟩ := p
      obtain ⟨ps, hps, -⟩ := readExpression_eq_ok_iff.mp hread
      have hsuffix : r <:+ text :=
        List.IsSuffix.trans ⟨_, hps.parts.eq_append.symm⟩ (List.drop_suffix start text)
      rw [List.suffix_iff_eq_drop.mp hsuffix] at hps
      exact absurd hps (h _ ps)

end Wiring.Annotation
