import Wiring.Proofs.Dot.Lines

namespace Wiring.Dot

variable {s : String} {w : List Char}

theorem IsBare.lexesWord (h : IsBare w) : LexesWord w [word w] := by
  obtain ⟨c, r, rfl, hc, hr⟩ := h
  exact lexesWord_word hc hr

theorem not_isReserved_of_endsLine (h : EndsLine s) : isReserved s = false := by
  obtain ⟨w, hw⟩ := List.getLast?_eq_some_iff.mp h
  have hlast : ∀ k ∈ reserved, ¬ k.toList.getLast? = some '\n' := by decide
  rw [isReserved, List.contains_eq_mem, decide_eq_false_iff_not]
  intro hk
  apply hlast _ hk
  have hfeed : '\n'.toLower = '\n' := by decide
  rw [String.toList_ofList, hw, List.map_append, List.map_singleton, hfeed, List.getLast?_concat]

theorem quoteId_of_isBare (hw : IsBare w) (hs : s.toList = w ++ ['\n']) : quoteId s = s := by
  have hends : EndsLine s := by
    rw [EndsLine, hs, List.getLast?_concat]
  have hplain : isPlain s.toList = true := by
    rw [hs, isPlain_concat_feed]
    exact hw
  rw [quoteId, if_pos]
  rw [hplain, not_isReserved_of_endsLine hends]
  rfl

theorem lexes_quoteId_of_isBare (hw : IsBare w) (hs : s.toList = w ++ ['\n']) :
    Lexes (quoteId s).toList [word w] := by
  have hfeed : Lexes ['\n'] [] := lexes_white (by decide)
  rw [quoteId_of_isBare hw hs, hs]
  exact hw.lexesWord.append hfeed (by decide)

theorem word_ne_id (hs : s.toList = w ++ ['\n']) : word w ≠ .id s := by
  intro h
  rw [word] at h
  split at h
  · cases h
  · have hname := Token.id.inj h
    rw [← hname, String.toList_ofList] at hs
    simpa using congrArg List.length hs

theorem LexesWord.tokens_eq {t : List Char} {ts : List Token} (h : LexesWord t ts) :
    tokens t = some ts := by
  have htokens := h [] (by simp)
  rw [List.append_nil, tokens_nil] at htokens
  simpa using htokens

/-- A written identifier is read as one token, the identifier that was written, unless it is a bare
word with a line feed behind it, which is read as the word alone, if need be as a keyword. Thus of
two different identifiers that are read the same one is such a word. -/
theorem tokens_quoteId (s : String) :
    (LexesWord (quoteId s).toList [.id s] ↔ ¬ IsBroken s) ∧
      (∀ w, IsBare w → s.toList = w ++ ['\n'] → Lexes (quoteId s).toList [word w]) ∧
      ∀ t, tokens (quoteId s).toList = tokens (quoteId t).toList → s ≠ t → IsBroken s ∨ IsBroken t := by
  refine ⟨⟨?_, lexesWord_quoteId⟩, ?_, ?_⟩
  · rintro h ⟨w, hw, hs⟩
    have hword := (lexes_quoteId_of_isBare hw hs).word.tokens_eq
    rw [h.tokens_eq] at hword
    exact word_ne_id hs (by simpa using hword.symm)
  · exact fun w hw hs => lexes_quoteId_of_isBare hw hs
  · intro t h hne
    by_contra hbroken
    rw [not_or] at hbroken
    rw [(lexesWord_quoteId hbroken.1).tokens_eq,
      (lexesWord_quoteId hbroken.2).tokens_eq] at h
    exact hne (by simpa using h)

theorem tokens_quoteId_keyword :
    IsBare "Node".toList ∧ Lexes (quoteId "Node\n").toList [.keyword "node"] ∧
      ¬ IsBroken "Node" ∧ LexesWord (quoteId "Node").toList [.id "Node"] ∧
      ¬ IsBroken "a b\n" ∧ LexesWord (quoteId "a b\n").toList [.id "a b\n"] := by
  have hbare : IsBare "Node".toList := ⟨'N', "ode".toList, rfl, by decide, by decide⟩
  have hword : ¬ IsBroken "Node" := fun h => absurd h.endsLine (by decide)
  have hspaced : ¬ IsBroken "a b\n" := by
    rintro ⟨w, hw, h⟩
    have hplain := (isPlain_concat_feed w).mpr hw
    rw [← h] at hplain
    exact absurd hplain (by decide)
  exact ⟨hbare, (tokens_quoteId "Node\n").2.1 _ hbare rfl, hword,
    (tokens_quoteId "Node").1.mpr hword, hspaced, (tokens_quoteId "a b\n").1.mpr hspaced⟩

theorem tokens_quoteId_feed :
    tokens (quoteId "A\n").toList = some [.id "A"] ∧ tokens (quoteId "A").toList = some [.id "A"] := by
  have hbare : IsBare ['A'] := ⟨'A', [], rfl, by decide, rfl⟩
  have hplain : LexesWord (quoteId "A").toList [.id "A"] :=
    lexesWord_quoteId (fun h => absurd h.endsLine (by decide))
  exact ⟨(lexes_quoteId_of_isBare hbare rfl).word.tokens_eq, hplain.tokens_eq⟩

end Wiring.Dot
