import Wiring.Proofs.TypeName.Bare

namespace Wiring.TypeName

open Wiring.Text

variable {r s : List Char} {c : Char}

theorem dropBrackets_append_cons (hl : c ≠ '[') (hr : c ≠ ']') (s r : List Char) :
    dropBrackets (s ++ c :: r) = dropBrackets s ++ c :: dropBrackets r := by
  fun_induction dropBrackets s with
  | case1 =>
    rw [List.nil_append, dropBrackets]
    · rfl
    · intro _ hc _
      exact hl hc
  | case2 s ih => simpa [dropBrackets] using ih
  | case3 d s hno ih =>
    rw [List.cons_append, dropBrackets, ih, List.cons_append]
    intro t hd hs
    cases s with
    | nil => cases hs; exact hr rfl
    | cons e s => cases hs; exact hno s hd rfl

theorem dropEllipsis_append_cons (hc : c ≠ '.') (s r : List Char) :
    dropEllipsis (s ++ c :: r) = dropEllipsis s ++ c :: dropEllipsis r := by
  fun_induction dropEllipsis s with
  | case1 =>
    rw [List.nil_append, dropEllipsis]
    · rfl
    · intro _ hd _
      exact hc hd
  | case2 s ih => simpa [dropEllipsis] using ih
  | case3 d s hno ih =>
    rw [List.cons_append, dropEllipsis, ih, List.cons_append]
    intro t hd hs
    match s with
    | [] => cases hs; exact hc rfl
    | [e] => cases hs; exact hc rfl
    | e :: f :: s => cases hs; exact hno s hd rfl

def strip (s : List Char) : List Char := dropEllipsis (dropBrackets s)

theorem reduce_eq (s : List Char) : reduce s = lastSegment (strip s) := rfl

theorem strip_append_cons (hc : c ∉ ['[', ']', '.']) (s r : List Char) :
    strip (s ++ c :: r) = strip s ++ c :: strip r := by
  simp only [List.mem_cons, List.not_mem_nil, or_false, not_or] at hc
  rw [strip, dropBrackets_append_cons hc.1 hc.2.1, dropEllipsis_append_cons hc.2.2]
  rfl

theorem IsName.notMem_signs (hs : IsName s) : ∀ d ∈ s, d ∉ ['[', ']', '.'] := by
  intro d hd h
  apply notMem_delimiters (hs.parts d hd)
  simp only [List.mem_cons, List.not_mem_nil, or_false] at h
  rcases h with rfl | rfl | rfl <;> decide

theorem strip_append (hs : ∀ d ∈ s, d ∉ ['[', ']', '.']) (r : List Char) :
    strip (s ++ r) = s ++ strip r := by
  induction s with
  | nil => rfl
  | cons d s ih =>
    have h := strip_append_cons (hs d List.mem_cons_self) [] (s ++ r)
    rw [ih (fun x hx => hs x (List.mem_cons_of_mem _ hx))] at h
    exact h

theorem IsName.strip_between (hs : IsName s) (t r : List Char) :
    strip (t ++ (s ++ r)) = strip t ++ (s ++ strip r) := by
  have hsigns := hs.notMem_signs
  obtain ⟨d, n, rfl⟩ := List.exists_cons_of_ne_nil hs.ne_nil
  have hn := strip_append (fun x hx => hsigns x (List.mem_cons_of_mem _ hx)) r
  rw [List.cons_append, strip_append_cons (hsigns d List.mem_cons_self), hn, List.cons_append]

theorem strip_signs (ds : List Dimension) : strip (ds.flatMap Dimension.signs) = [] := by
  induction ds with
  | nil => rfl
  | cons d ds ih =>
    rw [List.flatMap_cons]
    cases d with
    | brackets as gap after => simpa [strip, Dimension.signs, dropBrackets] using ih
    | ellipsis after => simpa [strip, Dimension.signs, dropBrackets, dropEllipsis] using ih

theorem lastSegment_append_of_notMem (hs : '.' ∉ s) (t : List Char) :
    lastSegment (t ++ s) = lastSegment t ++ s := by
  have hall : ∀ d ∈ s.reverse, decide (d ≠ '.') = true := by
    intro d hd
    have hne : d ≠ '.' := ne_of_mem_of_not_mem (List.mem_reverse.mp hd) hs
    simpa using hne
  rw [lastSegment, List.reverse_append, List.takeWhile_append_of_pos hall, List.reverse_append,
    List.reverse_reverse]
  rfl

variable {outer : List Segment} {x : Segment} (ds : List Dimension)

theorem IsName.reduce_append (hs : IsName s) (t : List Char) :
    reduce (t ++ (s ++ ds.flatMap Dimension.signs)) = lastSegment (strip t) ++ s := by
  rw [reduce_eq, hs.strip_between, strip_signs, List.append_nil,
    lastSegment_append_of_notMem (hs.notMem (by decide))]

theorem reduce_core (ho : ∀ y ∈ outer, IsName y.name) (hx : IsName x.name) (hn : x.leftover = []) :
    reduce (outer.flatMap (fun y => y.core ++ ['.']) ++ (x.core ++ ds.flatMap Dimension.signs)) =
      x.name := by
  have hcore : x.core = x.name := by rw [Segment.core, hn]; rfl
  have hdot : lastSegment (strip (outer.flatMap (fun y => y.core ++ ['.']))) = [] := by
    rcases List.eq_nil_or_concat' outer with rfl | ⟨front, y, rfl⟩
    · rfl
    · have hy := ho y (by simp)
      have hsplit : (front ++ [y]).flatMap (fun y => y.core ++ ['.']) =
          (front.flatMap (fun y => y.core ++ ['.']) ++ squeeze y.leftover) ++ (y.name ++ ['.']) := by
        simp [Segment.core]
      have hone : strip ['.'] = ['.'] := rfl
      rw [hsplit, hy.strip_between, hone, ← List.append_assoc, lastSegment_append (by simp)]
  rw [hcore, hx.reduce_append, hdot, List.nil_append]

theorem reduce_core_leftover {z : List Char} (hx : IsName x.name)
    (hz : squeeze x.leftover = z ++ [')']) (t : List Char) :
    ∃ y, reduce (t ++ (x.core ++ ds.flatMap Dimension.signs)) = y ++ ')' :: x.name := by
  have hsplit : t ++ (x.core ++ ds.flatMap Dimension.signs) =
      (t ++ z ++ [')']) ++ (x.name ++ ds.flatMap Dimension.signs) := by
    simp [Segment.core, hz]
  have hparen : strip (t ++ z ++ [')']) = strip (t ++ z) ++ [')'] := by
    have h := strip_append_cons (c := ')') (by decide) (t ++ z) []
    exact h
  refine ⟨lastSegment (strip (t ++ z)), ?_⟩
  rw [hsplit, hx.reduce_append, hparen, lastSegment_append_of_notMem (by simp), List.append_assoc]
  rfl

theorem Segment.angle_notMem_core (hx : x.WellFormed) (hc : x.IsClean) : '<' ∉ x.core := by
  intro h
  rcases List.mem_append.mp h with h | h
  · obtain ⟨a, ha, hmem⟩ := List.mem_flatMap.mp (List.mem_filter.mp h).1
    exact (hc a ha).no_angle hmem
  · exact hx.name.notMem (by decide) h

theorem simple_segments (hw : ∀ y ∈ outer, y.WellFormed) (hc : ∀ y ∈ outer, y.IsClean)
    (hn : ∀ y ∈ outer, y.arguments = none) (hx : x.WellFormed) (hxc : x.IsClean)
    (hr : (bare r).takeWhile (· ≠ '<') = ds.flatMap Dimension.signs) :
    simple (outer.flatMap (fun y => y.text ++ ['.']) ++ (x.front ++ r)) =
      reduce (outer.flatMap (fun y => y.core ++ ['.']) ++ (x.core ++ ds.flatMap Dimension.signs)) := by
  have hkept : ∀ {s : List Char}, '<' ∉ s → ∀ c ∈ s, decide (c ≠ '<') = true := by
    intro s hs c hc
    have hne : c ≠ '<' := ne_of_mem_of_not_mem hc hs
    simpa using hne
  have houter : '<' ∉ outer.flatMap (fun y => y.core ++ ['.']) := by
    intro h
    obtain ⟨y, hy, h⟩ := List.mem_flatMap.mp h
    rcases List.mem_append.mp h with h | h
    · exact Segment.angle_notMem_core (hw y hy) (hc y hy) h
    · simp at h
  rw [simple_eq, bare_outer hw hc hn, Segment.bare_front hx hxc,
    List.takeWhile_append_of_pos (hkept houter),
    List.takeWhile_append_of_pos (hkept (Segment.angle_notMem_core hx hxc)), hr]

namespace WrittenType

variable {t : WrittenType}

def tail (t : WrittenType) : List Char :=
  t.last.arguments.elim [] (fun x => '<' :: x ++ ['>']) ++
    (t.last.after ++ t.dimensions.flatMap Dimension.text)

theorem text_eq (t : WrittenType) :
    t.text = t.outer.flatMap (fun y => y.text ++ ['.']) ++ (t.last.front ++ t.tail) := by
  simp [text, tail, Segment.text]

theorem takeWhile_tail (ht : t.WellFormed)
    (hflat : ∀ d ∈ t.dimensions, ∀ a ∈ d.annotations, a.IsFlat) :
    ∃ ds : List Dimension, (bare t.tail).takeWhile (· ≠ '<') = ds.flatMap Dimension.signs := by
  cases harguments : t.last.arguments with
  | some x =>
    refine ⟨[], ?_⟩
    rw [tail, harguments, Option.elim_some, List.cons_append, List.cons_append,
      bare_cons (by decide) (by decide)]
    rfl
  | none =>
    refine ⟨t.dimensions, ?_⟩
    have hsign : ∀ d : Dimension, ∀ c ∈ d.signs, decide (c ≠ '<') = true := by
      intro d
      cases d <;> simp [Dimension.signs]
    have hsigns : ∀ c ∈ t.dimensions.flatMap Dimension.signs, decide (c ≠ '<') = true := by
      intro c hc
      obtain ⟨d, -, hc⟩ := List.mem_flatMap.mp hc
      exact hsign d c hc
    rw [tail, harguments, Option.elim_none, List.nil_append, bare_blank ht.last.after,
      bare_dimensions ht.dimensions hflat, List.takeWhile_eq_self_iff.mpr hsigns]

theorem simple_text_of_outer (ht : t.WellFormed) (houter : ∀ s ∈ t.outer, s.arguments = none)
    (hclean : ∀ s ∈ t.outer ++ [t.last], s.IsClean)
    (hdimensions : ∀ d ∈ t.dimensions, ∀ a ∈ d.annotations, a.IsFlat) :
    ∃ ds : List Dimension, simple t.text =
      reduce (t.outer.flatMap (fun y => y.core ++ ['.']) ++
        (t.last.core ++ ds.flatMap Dimension.signs)) := by
  obtain ⟨ds, hds⟩ := takeWhile_tail ht hdimensions
  refine ⟨ds, ?_⟩
  rw [text_eq, simple_segments ds ht.outer (fun y hy => hclean y (List.mem_append_left _ hy)) houter
    ht.last (hclean _ (by simp)) hds]

theorem simple_text_of_flat (ht : t.WellFormed) (houter : ∀ s ∈ t.outer, s.arguments = none)
    (hclean : ∀ s ∈ t.outer ++ [t.last], s.IsClean)
    (hdimensions : ∀ d ∈ t.dimensions, ∀ a ∈ d.annotations, a.IsFlat)
    (hflat : ∀ a ∈ t.last.annotations, a.IsFlat) : simple t.text = t.last.name := by
  obtain ⟨ds, hds⟩ := simple_text_of_outer ht houter hclean hdimensions
  have hleft := TypeAnnotation.flatMap_leftover_eq_nil hflat
  rw [hds, reduce_core ds (fun y hy => (ht.outer y hy).name) ht.last.name hleft]

theorem simple_text_of_nested (ht : t.WellFormed) (houter : ∀ s ∈ t.outer, s.arguments = none)
    (hclean : ∀ s ∈ t.outer ++ [t.last], s.IsClean)
    (hdimensions : ∀ d ∈ t.dimensions, ∀ a ∈ d.annotations, a.IsFlat)
    (hnested : ¬ ∀ a ∈ t.last.annotations, a.IsFlat) :
    ∃ y, simple t.text = y ++ ')' :: t.last.name := by
  obtain ⟨ds, hds⟩ := simple_text_of_outer ht houter hclean hdimensions
  obtain ⟨z, hz⟩ := TypeAnnotation.exists_flatMap_leftover hnested
  rw [hds]
  exact reduce_core_leftover ds ht.last.name hz _

theorem simple_text_of_parameterised {front back : List Segment} {s : Segment} (ht : t.WellFormed)
    (houter : t.outer = front ++ s :: back) (hfront : ∀ y ∈ front, y.arguments = none)
    (hs : s.arguments ≠ none) (hclean : ∀ y ∈ front ++ [s], y.IsClean)
    (hflat : ∀ a ∈ s.annotations, a.IsFlat) : simple t.text = s.name := by
  have hmem : ∀ y ∈ front, y.WellFormed := fun y hy => ht.outer y (by simp [houter, hy])
  have hsw : s.WellFormed := ht.outer s (by simp [houter])
  obtain ⟨x, hx⟩ := Option.ne_none_iff_exists'.mp hs
  have htext : t.text = front.flatMap (fun y => y.text ++ ['.']) ++ (s.front ++
      '<' :: (x ++ '>' :: (s.after ++ '.' :: (back.flatMap (fun y => y.text ++ ['.']) ++
        (t.last.front ++ t.tail))))) := by
    rw [text_eq, houter]
    simp [Segment.text, hx]
  have hstop : ∀ r, (bare ('<' :: r)).takeWhile (· ≠ '<') =
      ([] : List Dimension).flatMap Dimension.signs := by
    intro r
    rw [bare_cons (by decide) (by decide)]
    rfl
  have hleft := TypeAnnotation.flatMap_leftover_eq_nil hflat
  rw [htext, simple_segments [] hmem (fun y hy => hclean y (List.mem_append_left _ hy)) hfront hsw
    (hclean s (by simp)) (hstop _), reduce_core [] (fun y hy => (hmem y hy).name) hsw.name hleft]

/-- Reading stops at the first type arguments: if an enclosing type has some, its name is taken for
the whole. And an annotation ends at its first closing parenthesis: if there is one within the
arguments, another one stays in front of the name. -/
theorem simple_text_misread (ht : t.WellFormed)
    (hdimensions : ∀ d ∈ t.dimensions, ∀ a ∈ d.annotations, a.IsFlat) :
    (∀ front s back, t.outer = front ++ s :: back → (∀ y ∈ front, y.arguments = none) →
        s.arguments ≠ none → (∀ y ∈ front ++ [s], y.IsClean) → (∀ a ∈ s.annotations, a.IsFlat) →
        simple t.text = s.name) ∧
      ((∀ y ∈ t.outer, y.arguments = none) → (∀ y ∈ t.outer ++ [t.last], y.IsClean) →
        ((∀ a ∈ t.last.annotations, a.IsFlat) → simple t.text = t.last.name) ∧
          ((¬ ∀ a ∈ t.last.annotations, a.IsFlat) →
            ∃ y, simple t.text = y ++ ')' :: t.last.name)) := by
  refine ⟨?_, ?_⟩
  · intro front s back houter hfront hs hclean hflat
    exact simple_text_of_parameterised ht houter hfront hs hclean hflat
  · intro houter hclean
    exact ⟨simple_text_of_flat ht houter hclean hdimensions,
      simple_text_of_nested ht houter hclean hdimensions⟩

theorem simple_text_misread_inner :
    let inner : WrittenType := ⟨[⟨[], [], "Outer".toList, [], some "String".toList, []⟩],
      ⟨[], [], "Inner".toList, [], none, []⟩, []⟩
    let nested : WrittenType := ⟨[⟨[], [], "p".toList, [], none, []⟩],
      ⟨[], [⟨"A".toList, [], some "x = @B(1), y = (2)".toList, [' ']⟩], "C".toList, [], none, []⟩, []⟩
    (inner.WellFormed ∧ String.ofList inner.text = "Outer<String>.Inner" ∧
        simple inner.text = "Outer".toList) ∧
      (nested.WellFormed ∧ String.ofList nested.text = "p.@A(x = @B(1), y = (2)) C" ∧
        ∃ y, simple nested.text = y ++ ")C".toList) := by
  intro inner nested
  have hinner : inner.WellFormed := by decide +kernel
  have hnested : nested.WellFormed := by decide +kernel
  have houter := (simple_text_misread hinner (by decide)).1 [] _ [] rfl (by decide) (by decide)
    (by decide) (by decide)
  have hleft := ((simple_text_misread hnested (by decide)).2 (by decide) (by decide)).2 (by decide)
  exact ⟨⟨hinner, by decide +kernel, houter⟩, hnested, by decide +kernel, hleft⟩

theorem simple_ne_last :
    simple "Outer<String>.Inner".toList = "Outer".toList ∧
      simple "@A(@B(1)) C".toList = ")C".toList := by
  decide +kernel

end WrittenType

end Wiring.TypeName
