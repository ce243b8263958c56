import Wiring.Proofs.Annotation.ClassNames
import Wiring.Proofs.Annotation.Comments

namespace Wiring.Annotation

open Wiring.Text

variable {segs : List (List Char)} {k n t x : List Char}

def IsWordText (s : List Char) : Prop := s ≠ [] ∧ ∀ c ∈ s, isNamePart c = true

def AreWords (segs : List (List Char)) : Prop := segs ≠ [] ∧ ∀ s ∈ segs, IsWordText s

def BreaksOff (n : List Char) : Prop :=
  ∃ c y, isNamePart c = true ∧ isNameStart c = false ∧
    (n = c :: y ∨ ∃ front, IsDotted front ∧ n = dots front ++ '.' :: c :: y)

theorem isSegment_or_breaksOff (hk : IsWordText k) :
    IsSegment k ∨ ∃ c y, k = c :: y ∧ isNamePart c = true ∧ isNameStart c = false := by
  obtain ⟨c, y, rfl⟩ := List.exists_cons_of_ne_nil hk.1
  cases hc : isNameStart c with
  | true => exact .inl ⟨c, y, rfl, hc, fun x hx => hk.2 x (List.mem_cons_of_mem _ hx)⟩
  | false => exact .inr ⟨c, y, rfl, hk.2 c List.mem_cons_self, hc⟩

theorem dots_cons_cons (s t : List Char) (segs : List (List Char)) :
    dots (s :: t :: segs) = s ++ '.' :: dots (t :: segs) := by
  simp [dots]

theorem BreaksOff.append (h : BreaksOff n) (x : List Char) : BreaksOff (n ++ x) := by
  obtain ⟨c, y, hp, hc, rfl | ⟨front, hf, rfl⟩⟩ := h
  · exact ⟨c, y ++ x, hp, hc, .inl rfl⟩
  · exact ⟨c, y ++ x, hp, hc, .inr ⟨front, hf, by simp⟩⟩

theorem BreaksOff.behind (h : BreaksOff n) (hk : IsSegment k) : BreaksOff (k ++ '.' :: n) := by
  have hone : dots [k] = k := by simp [dots]
  obtain ⟨c, y, hp, hc, rfl | ⟨front, hf, rfl⟩⟩ := h
  · refine ⟨c, y, hp, hc, .inr ⟨[k], ⟨by simp, by simpa using hk⟩, ?_⟩⟩
    rw [hone]
  · refine ⟨c, y, hp, hc, .inr ⟨k :: front, ?_, ?_⟩⟩
    · exact ⟨by simp, List.forall_mem_cons.mpr ⟨hk, hf.2⟩⟩
    · obtain ⟨s, front, rfl⟩ := List.exists_cons_of_ne_nil hf.1
      rw [dots_cons_cons]
      simp

theorem AreWords.breaksOff (hs : AreWords segs) (hn : ¬ IsDotted segs) : BreaksOff (dots segs) := by
  obtain ⟨hne, hwords⟩ := hs
  induction segs with
  | nil => exact absurd rfl hne
  | cons s segs ih =>
    have hbad {c : Char} {y : List Char} (hp : isNamePart c = true) (hc : isNameStart c = false)
        (he : s = c :: y) : BreaksOff (dots (s :: segs)) := by
      rw [dots_cons, he]
      exact BreaksOff.append ⟨c, y, hp, hc, .inl rfl⟩ _
    rcases isSegment_or_breaksOff (hwords s List.mem_cons_self) with hseg | ⟨c, y, he, hp, hc⟩
    · cases segs with
      | nil => exact absurd ⟨by simp, by simpa using hseg⟩ hn
      | cons u segs =>
        rw [dots_cons_cons]
        apply BreaksOff.behind _ hseg
        apply ih _ (List.cons_ne_nil u segs) (fun s hm => hwords s (List.mem_cons_of_mem _ hm))
        intro hd
        exact hn ⟨by simp, List.forall_mem_cons.mpr ⟨hseg, hd.2⟩⟩
    · exact hbad hp hc he

theorem dotSegment?_foreign {c : Char} {y : List Char} (hp : isNamePart c = true)
    (hc : isNameStart c = false) : dotSegment? ('.' :: c :: y) = none := by
  have h := dotSegment?_dot (v := []) (w := []) (r := c :: y) (by simp [Blank]) (by simp [Blank])
    (by rintro _ ⟨rfl⟩; exact isBlank_of_isNamePart hp)
  rw [List.nil_append, List.nil_append] at h
  exact h.trans (segment?_of_head hc)

theorem IsDotted.spacedName (hs : IsDotted segs) : SpacedName (dots segs) :=
  spacedName_of_dottedName? (dottedName?_eq hs)

theorem BreaksOff.refused (h : BreaksOff n) : ∃ f, Refused ('@' :: n) f := by
  have hblank : Blank [] := by simp [Blank]
  obtain ⟨c, y, hp, hc, rfl | ⟨front, hf, rfl⟩⟩ := h
  · exact ⟨_, read_noName (u := []) hblank hblank (isBlank_of_isNamePart hp) hc y⟩
  · have hd : dotSegment? ('.' :: dropTail isBlank (c :: y)) = none := by
      have htail := dropTail_append_cons (isBlank_of_isNamePart hp) [] y
      rw [List.nil_append, List.nil_append] at htail
      rw [htail]
      exact dotSegment?_foreign hp hc
    exact ⟨_, read_afterName (u := []) (w := []) (l := []) hblank hblank hf.spacedName .nil hd⟩

theorem BreaksOff.classify_eq (h : BreaksOff n) : classify n = .literal (String.ofList n) := by
  obtain ⟨c, y, hp, hc, rfl | ⟨front, hf, rfl⟩⟩ := h
  · rw [classify, dottedName?, segment?_of_head hc]
  · obtain ⟨segs, hname⟩ := hf.spacedName.dottedName?_append (r := '.' :: c :: y)
      (by rintro _ ⟨rfl⟩; decide) (dotSegment?_foreign hp hc)
    rw [classify, hname]

theorem AreWords.isPlain_class (hs : AreWords segs) : IsPlain (dots segs ++ ".class".toList) := by
  rw [dots_concat_class hs.1]
  apply isPlain_dots
  · rw [← dots_concat_class hs.1]
    simp
  · intro s hm
    rcases List.mem_append.mp hm with hm | hm
    · exact (hs.2 s hm).2
    · rw [List.mem_singleton.mp hm]
      exact isSegment_class.isNamePart

theorem joinPieces_cons {p : List Char} (hp : trim p ≠ []) (ps : List (List Char)) :
    ∃ e, joinPieces (p :: ps) = trim p ++ e := by
  rw [joinPieces, List.map_cons, List.filter_cons_of_pos (by simpa using hp)]
  cases (ps.map trim).filter (fun q => !q.isEmpty) with
  | nil => exact ⟨[], by simp [List.intercalate]⟩
  | cons q qs => exact ⟨' ' :: [' '].intercalate (q :: qs), by simp [List.intercalate]⟩

theorem IsWordText.trim_append (hk : IsWordText k) (p : List Char) :
    trim (k ++ p) = k ++ dropTail isBlank p := by
  have hblank : ∀ c ∈ k, isBlank c = false := fun c hc => isBlank_of_isNamePart (hk.2 c hc)
  have hstart : (k ++ p).dropWhile isBlank = k ++ p := by
    obtain ⟨c, y, rfl⟩ := List.exists_cons_of_ne_nil hk.1
    apply dropWhile_stop
    rintro _ ⟨rfl⟩
    exact hblank c List.mem_cons_self
  have hlast := dropTail_append_cons (hblank _ (List.getLast_mem hk.1)) k.dropLast p
  have hsplit (q : List Char) : k.dropLast ++ k.getLast hk.1 :: q = k ++ q := by
    rw [List.append_cons, List.dropLast_append_getLast]
  rw [hsplit, hsplit] at hlast
  rw [trim, hstart, hlast]

theorem joinPieces_addFront (hk : IsWordText k) (ps : List (List Char)) :
    ∃ e, joinPieces (addFront k ps) = k ++ e := by
  have hfirst (p : List Char) (qs : List (List Char)) :
      ∃ e, joinPieces ((k ++ p) :: qs) = k ++ e := by
    have hne : trim (k ++ p) ≠ [] := by
      rw [hk.trim_append]
      exact List.append_ne_nil_of_left_ne_nil hk.1 _
    obtain ⟨e, he⟩ := joinPieces_cons hne qs
    exact ⟨dropTail isBlank p ++ e, by rw [he, hk.trim_append, List.append_assoc]⟩
  cases ps with
  | nil =>
    have h := hfirst [] []
    rwa [List.append_nil] at h
  | cons p ps => exact hfirst p ps

theorem readExpression_foreign {c : Char} {y u : List Char} {v : Value}
    (hk : IsWordText (c :: y)) (hc : isNameStart c = false)
    (h : readExpression (c :: y ++ x) = .ok (v, u)) :
    ∃ e, v = .literal (String.ofList (c :: y ++ e)) := by
  obtain ⟨ps, hps, -, rfl⟩ := readExpression_cases h
  have hmarks : ∀ d ∈ c :: y, d ∉ marks := fun d hd hm =>
    ne_mark_of_isNamePart (hk.2 d hd) (List.mem_cons_of_mem _ (List.mem_cons_of_mem _ hm)) rfl
  rw [pieces_plain (by simp) (List.cons_ne_nil c y) hmarks] at hps
  cases hx : pieces [] x with
  | error f =>
    rw [hx] at hps
    cases hps
  | ok q =>
    rw [hx] at hps
    cases hps
    obtain ⟨e, he⟩ := joinPieces_addFront hk q.1
    have hbreaks : BreaksOff (c :: y ++ e) :=
      ⟨c, y ++ e, hk.2 c List.mem_cons_self, hc, .inl rfl⟩
    exact ⟨e, by rw [he, hbreaks.classify_eq]⟩

theorem readArgument_foreign {c : Char} {y u : List Char} {key : Option (List Char)} {v : Value}
    (hk : IsWordText (c :: y)) (hc : isNameStart c = false)
    (h : readArgument (c :: y ++ x) = .ok (key, v, u)) :
    key = none ∧ ∃ e, v = .literal (String.ofList (c :: y ++ e)) := by
  have hp := hk.2 c List.mem_cons_self
  have hnone : key? (c :: y ++ x) = none := by rw [key?, List.cons_append, segment?_of_head hc]
  rcases readArgument_cases h with ⟨rfl, -, hv⟩ | ⟨_, _, -, hsome, -⟩
  · refine ⟨rfl, ?_⟩
    have hskip : skipLayout (c :: y ++ x) = .ok (c :: y ++ x) :=
      skipLayout_stop (isBlank_of_isNamePart hp) (ne_mark_of_isNamePart hp (by decide)) _
    obtain ⟨d, w, hd, hcases⟩ := readValue_cases hv
    cases hskip.symm.trans hd
    rcases hcases with ⟨_, hopen, -⟩ | ⟨_, hquote, -⟩ | ⟨-, hexpression⟩
    · exact absurd hopen (ne_mark_of_isNamePart hp (by decide))
    · exact absurd hquote (ne_mark_of_isNamePart hp (by decide))
    · exact readExpression_foreign hk hc hexpression
  · rw [hnone] at hsome
    cases hsome

theorem isSegment_of_mem_named {s : List Char} {a : Annotation} {p : String × Value}
    (h : read s = .ok a) (hp : p ∈ a.named) : IsSegment p.1.toList := by
  obtain ⟨items, hread, hi⟩ := read_items h
  rw [← hi.named] at hp
  obtain ⟨⟨_ | key, v⟩, hm, he⟩ := List.mem_filterMap.mp hp
  · cases he
  · cases he
    obtain ⟨u, t, ha⟩ := hread _ hm
    rcases readArgument_cases ha with ⟨hnone, -⟩ | ⟨k, w, hsome, hkey, -⟩
    · cases hnone
    · cases hsome
      obtain ⟨_, hk, -⟩ := key?_cases hkey
      rwa [String.toList_ofList]

theorem read_name (hs : IsDotted segs) : read ('@' :: dots segs) = .ok ⟨joinDots segs, [], []⟩ := by
  obtain ⟨s, d, hd, hlast⟩ := hs.isPlain.last
  have htrim : trim ('@' :: dots segs) = '@' :: dots segs := by
    apply trim_eq_self
    · exact ⟨'@', dots segs, rfl, by decide⟩
    · exact ⟨'@' :: s, d, by rw [hd]; rfl, hlast⟩
  have hstart := hs.dropWhile_append []
  rw [List.append_nil] at hstart
  rw [read, htrim]
  simp only [ofTrimmed, hstart, dottedName?_eq hs, skipLayout_nil, bind, Except.bind]
  rfl

theorem read_named {name : List (List Char)} {w l m : List Char} {v : Value} (hname : IsDotted name)
    (hk : IsSegment k) (hw : Blank w) (hl : Layout l) (ht : Readable v t) (hm : Layout m) :
    read ('@' :: dots name ++ '(' :: (k ++ w ++ '=' :: l ++ t ++ m ++ [')'])) =
      .ok ⟨joinDots name, [], [(String.ofList k, v)]⟩ := by
  have hitem : SpelledItem Readable (some k, v) (k ++ w ++ '=' :: l ++ t) :=
    .named hk hw hl (.base ht)
  have h := SpelledWhole.mk hname .nil (.some (.last .nil hitem hm)) .nil
  rw [List.append_nil, List.append_nil, List.nil_append] at h
  rw [read, ofTrimmed_spelled (fun _ _ h => h) h]
  rfl

def importText (t : List Char) : List Char := '@' :: "Import".toList ++ '(' :: t ++ [')']

theorem read_importText {v : Value} (ht : IsPlain t) (hv : Readable v t) :
    read (importText t) = .ok ⟨"Import", [v], []⟩ := by
  have hImport : IsDotted ["Import".toList] :=
    ⟨by simp, by simpa using isSegment_of_all (by decide) (by decide +kernel)⟩
  have hitem : SpelledItem Readable (none, v) t := .positional (.base hv) (key?_plain ht)
  have hargs : SpelledArgumentList Readable [(none, v)] ([] ++ t ++ [] ++ [')']) :=
    .some (.last .nil hitem .nil)
  have htext : importText t =
      '@' :: dots ["Import".toList] ++ [] ++ '(' :: ([] ++ t ++ [] ++ [')']) ++ [] := by
    have hname : dots ["Import".toList] = "Import".toList := List.append_nil _
    rw [hname, List.append_nil, List.append_nil, List.append_nil, importText]
    rfl
  rw [read, htext, ofTrimmed_spelled (fun _ _ h => h) (.mk hImport .nil hargs .nil)]
  rfl

theorem mem_annotationEntities_import {d : Declaration} {v : Value} {target : String} :
    .classImport d.className target ∈ d.annotationEntities ⟨"Import", [v], []⟩ ↔
      target ∈ v.classNames := by
  have hkind : (⟨"Import", [v], []⟩ : Annotation).kind = .classImport := by
    show Kind.ofName (Text.simpleName "Import") = .classImport
    decide +kernel
  simp [Declaration.annotationEntities, hkind, Annotation.value?]

theorem classImport_mem_entities {config : Config} {d : Declaration} {target : String}
    (hd : d.kind = .classType) : .classImport d.className target ∈ d.entities config ↔
      ∃ a ∈ d.annotations, .classImport d.className target ∈ d.annotationEntities a := by
  have hconfiguration : .classImport d.className target ∉
      if d.has .configuration then [Entity.configuration d.className d.package] else [] := by
    split <;> simp
  simp [Declaration.entities, hd, Declaration.classEntities, hconfiguration]

/-- The name is read as one wherever a name can stand. -/
structure IsTaken (segs : List (List Char)) : Prop where
  marker : read ('@' :: dots segs) = .ok ⟨joinDots segs, [], []⟩
  literal : Readable (.reference (joinDots segs) true) (dots segs ++ ".class".toList)
  key : ∀ k, segs = [k] → ∀ name w l v t m, IsDotted name → Blank w → Layout l → Readable v t →
    Layout m → read ('@' :: dots name ++ '(' :: (k ++ w ++ '=' :: l ++ t ++ m ++ [')'])) =
      .ok ⟨joinDots name, [], [(String.ofList k, v)]⟩
  directive : ∃ a, read (importText (dots segs ++ ".class".toList)) = .ok a ∧
    ∀ config d s, d.kind = .classType → a ∈ d.annotations → segs.getLast? = some s →
      Entity.classImport d.className (String.ofList s) ∈ Declaration.entities config d

/-- There is no annotation of that name, and elsewhere the name is only kept as text. -/
structure IsIgnored (segs : List (List Char)) : Prop where
  marker : ∀ r, ∃ f, Refused ('@' :: (dots segs ++ r)) f
  literal : Readable (.literal (String.ofList (dots segs ++ ".class".toList)))
    (dots segs ++ ".class".toList)
  keyword : ∀ k, segs = [k] → ∀ s a v, read s = .ok a → (String.ofList k, v) ∉ a.named
  key : ∀ k, segs = [k] → ∀ s x a, HasArgument s (k ++ x) → read s = .ok a →
    ∃ e, .literal (String.ofList (k ++ e)) ∈ a.positional
  directive : ∃ a, read (importText (dots segs ++ ".class".toList)) = .ok a ∧
    ∀ config d target, d.kind = .classType → d.annotations = [a] →
      Entity.classImport d.className target ∉ Declaration.entities config d

theorem IsDotted.isTaken (hs : IsDotted segs) : IsTaken segs := by
  have hplain : IsPlain (dots segs ++ ".class".toList) :=
    dots_concat_class hs.1 ▸ hs.concat_class.isPlain
  have hliteral := readable_plain hplain
  rw [classify_class hs] at hliteral
  constructor
  · exact read_name hs
  · exact hliteral
  · rintro k rfl name w l v t m hname hw hl ht hm
    have hk : IsSegment k := hs.2 k (List.mem_singleton_self k)
    exact read_named hname hk hw hl ht hm
  · refine ⟨_, read_importText hplain hliteral, ?_⟩
    intro config d s hd ha hlast
    rw [classImport_mem_entities hd]
    refine ⟨_, ha, mem_annotationEntities_import.mpr ?_⟩
    rw [List.getLast?_eq_getLast_of_ne_nil hs.1] at hlast
    rw [Value.classNames, hs.simpleName_eq, Option.some.inj hlast]
    exact List.mem_singleton_self _

theorem AreWords.isIgnored (hs : AreWords segs) (hn : ¬ IsDotted segs) : IsIgnored segs := by
  have hbreaks := hs.breaksOff hn
  have hliteral := readable_plain hs.isPlain_class
  rw [(hbreaks.append _).classify_eq] at hliteral
  constructor
  · exact fun r => (hbreaks.append r).refused
  · exact hliteral
  · rintro k rfl s a v h hnamed
    have hk := isSegment_of_mem_named h hnamed
    rw [String.toList_ofList] at hk
    exact hn ⟨by simp, by simpa using hk⟩
  · rintro k rfl s x a hs' h
    have hk : IsWordText k := hs.2 k (List.mem_singleton_self k)
    obtain ⟨key, v, after, hargument, hmem⟩ := hs'.argument h
    rcases isSegment_or_breaksOff hk with hseg | ⟨c, y, rfl, -, hc⟩
    · exact absurd ⟨by simp, by simpa using hseg⟩ hn
    · obtain ⟨rfl, e, rfl⟩ := readArgument_foreign hk hc hargument
      exact ⟨e, hmem rfl⟩
  · refine ⟨_, read_importText hs.isPlain_class hliteral, ?_⟩
    intro config d target hd ha himport
    obtain ⟨a, hmem, htarget⟩ := (classImport_mem_entities hd).mp himport
    rw [ha, List.mem_singleton] at hmem
    rw [hmem, mem_annotationEntities_import] at htarget
    simp [Value.classNames] at htarget

/-- A dotted name in letters and digits of any script is a name to the reader exactly if each of its
segments begins with an ASCII letter, an underscore or a dollar sign. -/
theorem read_words (hs : AreWords segs) :
    (IsDotted segs → IsTaken segs) ∧ (¬ IsDotted segs → IsIgnored segs) :=
  ⟨IsDotted.isTaken, hs.isIgnored⟩

theorem read_words_umlaut :
    AreWords ["Müller".toList] ∧ IsDotted ["Müller".toList] ∧ AreWords ["Über".toList] ∧
      ¬ IsDotted ["Über".toList] ∧ read "@Müller".toList = .ok ⟨"Müller", [], []⟩ ∧
      ∃ f, Refused "@Über(1)".toList f := by
  have hword (t : List Char) (hne : t ≠ []) (ht : t.all isNamePart = true) : AreWords [t] :=
    ⟨by simp, by simpa [IsWordText] using ⟨hne, by simpa using ht⟩⟩
  have hM : AreWords ["Müller".toList] := hword _ (by decide) (by decide +kernel)
  have hU : AreWords ["Über".toList] := hword _ (by decide) (by decide +kernel)
  have hdotted : IsDotted ["Müller".toList] :=
    ⟨by simp, by simpa using isSegment_of_all (by decide) (by decide +kernel)⟩
  have hforeign : ¬ IsDotted ["Über".toList] := by
    intro h
    obtain ⟨c, r, hs, hc, -⟩ := h.2 _ (List.mem_singleton_self _)
    cases hs
    exact absurd hc (by decide)
  refine ⟨hM, hdotted, hU, hforeign, ?_, ?_⟩
  · exact ((read_words hM).1 hdotted).marker
  · exact ((read_words hU).2 hforeign).marker "(1)".toList

theorem read_umlaut_lost :
    Refused "@Überwachung".toList .noName ∧
      read "@Import(Über.class)".toList = .ok ⟨"Import", [.literal "Über.class"], []⟩ ∧
      read "@A(änderung = 1)".toList = .ok ⟨"A", [.literal "änderung = 1"], []⟩ := by
  refine ⟨?_, ?_, ?_⟩
  · exact refused_of_walk (n := 60) (by decide) (by cbv)
  · exact read_of_walk (n := 60) (by decide) (by cbv)
  · exact read_of_walk (n := 60) (by decide) (by cbv)

end Wiring.Annotation
