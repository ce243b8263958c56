import Wiring.Proofs.Dot.Faithful

namespace Wiring.Dot

/-- The lines that stand below a title, up to the next blank line. -/
def below (title : String) (ls : List Line) : List Line :=
  ((ls.dropWhile (· ≠ .comment title)).drop 1).takeWhile (· ≠ .blank)

theorem below_append {title : String} {before lines after : List Line}
    (hbefore : .comment title ∉ before) (hlines : .blank ∉ lines)
    (hafter : ∀ l ∈ after.head?, l = .blank) :
    below title (before ++ .comment title :: (lines ++ after)) = lines := by
  have htitle : (before ++ .comment title :: (lines ++ after)).dropWhile (· ≠ .comment title) =
      .comment title :: (lines ++ after) := by
    apply Text.dropWhile_append_stop
    · intro l hl
      simpa using ne_of_mem_of_not_mem hl hbefore
    · rintro l ⟨⟩
      simp
  rw [below, htitle, List.drop_one, List.tail_cons]
  apply Text.takeWhile_append_stop
  · intro l hl
    simpa using ne_of_mem_of_not_mem hl hlines
  · intro l hl
    simpa using hafter l hl

section Titles

variable {title : String} {c : Config} {g : Graph}

theorem comment_notMem_legend (h : title ≠ "Legend" ∧ title ≠ "Align legend") :
    .comment title ∉ legend := by
  simp [legend, h]

theorem below_components : below "Components" (body c g) = g.nodes.map nodeLine := by
  have hbody : body c g = (legend ++ [.blank]) ++ .comment "Components" ::
      (g.nodes.map nodeLine ++ .blank :: (relations c g ++ componentScans c g)) := by
    simp [body, components]
  rw [hbody]
  apply below_append
  · simp [comment_notMem_legend]
  · simp [nodeLine]
  · rintro l ⟨⟩
    rfl

theorem below_relations :
    below "Relations" (body c g) = (g.edges.filter (isDrawn c)).map edgeLine := by
  have hbody : body c g = (legend ++ .blank :: (components g ++ [.blank])) ++
      .comment "Relations" ::
        ((g.edges.filter (isDrawn c)).map edgeLine ++ componentScans c g) := by
    simp [body, relations, hasFeature_eq_isDrawn]
  rw [hbody]
  apply below_append
  · simp [comment_notMem_legend, components, nodeLine]
  · simp [edgeLine]
  · unfold componentScans
    split
    · rintro l ⟨⟩
      rfl
    · rintro l ⟨⟩

end Titles

def attributesOf? (text : String) : Option Attributes := do
  let ts ← tokens ('[' :: (text.toList ++ [']']))
  let (as, _) ← bracketed? ts
  return as

theorem attributesOf?_of_writes {text : String} {as : Attributes} (h : Writes text as) :
    attributesOf? text = some as := by
  have hclose : Lexes [']'] [.mark ']'] := lexes_mark (by decide)
  have hall := (lexes_mark (c := '[') (by decide)).append (h.append hclose (by decide))
  have htokens := hall []
  rw [List.append_nil, tokens_nil] at htokens
  have hread : tokens ('[' :: (text.toList ++ [']'])) =
      some (.mark '[' :: (attributeTokens as ++ [.mark ']'])) := by simpa using htokens
  rw [attributesOf?, hread]
  simp [bracketed?, attributes?_tokens]

end Wiring.Dot
