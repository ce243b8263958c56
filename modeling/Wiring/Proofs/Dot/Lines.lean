import Wiring.Proofs.Dot.Tokens

namespace Wiring.Dot

def attributeTokens : Attributes → List Token
  | [] => []
  | [(key, value)] => [.id key, .mark '=', .id value]
  | (key, value) :: as => .id key :: .mark '=' :: .id value :: .mark ',' :: attributeTokens as

def Statement.tokens : Statement → List Token
  | node id as => .id id :: .mark '[' :: (attributeTokens as ++ [.mark ']', .mark ';'])
  | edge source target as =>
    .id source :: .arrow :: .id target :: .mark '[' :: (attributeTokens as ++ [.mark ']', .mark ';'])

theorem attributes?_tokens (as : Attributes) (ts : List Token) :
    attributes? (attributeTokens as ++ .mark ']' :: ts) = some (as, ts) := by
  fun_induction attributeTokens as with
  | case1 => rfl
  | case2 key value => rfl
  | case3 key value as _ ih => simp [attributes?, ih]

theorem statement?_tokens (st : Statement) (ts : List Token) :
    statement? (st.tokens ++ ts) = some (st, .mark ';' :: ts) := by
  cases st with
  | node id as => simp [Statement.tokens, statement?, bracketed?, attributes?_tokens]
  | edge source target as => simp [Statement.tokens, statement?, bracketed?, attributes?_tokens]

theorem statements?_append (st : Statement) (ts : List Token) :
    statements? (st.tokens ++ ts) = (statements? ts).map (st :: ·) := by
  have hstatement := statement?_tokens st ts
  have hfirst : ∃ name rest, st.tokens ++ ts = .id name :: rest := by
    cases st <;> exact ⟨_, _, rfl⟩
  obtain ⟨name, rest, he⟩ := hfirst
  rw [he] at hstatement ⊢
  rw [statements?]
  · split
    · next h => rw [hstatement] at h; cases h
    · next st' rest' h =>
      rw [hstatement] at h
      cases h
      rw [statements?]
  · intro r h; cases h
  · intro r h; cases h

theorem statements?_tokens (sts : List Statement) :
    statements? (sts.flatMap Statement.tokens ++ [.mark '}']) = some sts := by
  induction sts with
  | nil =>
    rw [List.flatMap_nil, List.nil_append, statements?]
    rfl
  | cons st sts ih =>
    rw [List.flatMap_cons, List.append_assoc, statements?_append, ih]
    rfl

def Writes (text : String) (as : Attributes) : Prop := LexesWord text.toList (attributeTokens as)

instance (s : String) : Decidable (EndsLine s) :=
  inferInstanceAs (Decidable (s.toList.getLast? = some '\n'))

theorem writes_one {key value text : String} (hkey : LexesWord key.toList [.id key])
    (hvalue : LexesWord text.toList [.id value]) : Writes (key ++ "=" ++ text) [(key, value)] := by
  have hequals : Lexes (key.toList ++ ['=']) [.id key, .mark '='] :=
    hkey.append (lexes_mark (by decide)) (by decide)
  have h := hequals.append_word hvalue
  simpa [Writes, attributeTokens, String.toList_append] using h

theorem writes_cons {key value text rest : String} {as : Attributes}
    (hone : Writes text [(key, value)]) (hrest : Writes rest as) (has : as ≠ []) :
    Writes (text ++ "," ++ rest) ((key, value) :: as) := by
  have hcomma : Lexes (text.toList ++ [',']) [.id key, .mark '=', .id value, .mark ','] :=
    hone.append (lexes_mark (by decide)) (by decide)
  have htokens : attributeTokens ((key, value) :: as) =
      .id key :: .mark '=' :: .id value :: .mark ',' :: attributeTokens as := by
    cases as with
    | nil => exact absurd rfl has
    | cons a as => rfl
  have h := hcomma.append_word hrest
  rw [Writes, htokens]
  simpa [String.toList_append] using h

def lineText : Line → List Char
  | .blank => ['\n']
  | .comment text => ("    // " ++ text ++ "\n").toList
  | .node id attributes => ("    " ++ quoteId id ++ " [" ++ attributes ++ "];\n").toList
  | .edge source target attributes =>
    ("    " ++ quoteId source ++ " -> " ++ quoteId target ++ " [" ++ attributes ++ "];\n").toList

theorem lineText_eq (l : Line) : lineText l = l.render.toList ++ ['\n'] := by
  cases l <;> simp [lineText, Line.render, indent, String.toList_append]

def Says (ls : List Line) (sts : List Statement) : Prop :=
  Lexes (ls.flatMap lineText) (sts.flatMap Statement.tokens)

section Says

variable {ls ms : List Line} {sts uts : List Statement}

theorem Says.nil : Says [] [] := Lexes.nil

theorem Says.append (h : Says ls sts) (h' : Says ms uts) : Says (ls ++ ms) (sts ++ uts) := by
  rw [Says, List.flatMap_append, List.flatMap_append]
  exact Lexes.append h h'

theorem says_blank : Says [.blank] [] := lexes_white (by decide)

theorem lexes_indent : Lexes indent.toList [] := lexes_white (by decide)

theorem says_comment {text : String} (h : '\n' ∉ text.toList) : Says [.comment text] [] := by
  have hspace : '\n' ∉ ' ' :: text.toList := by simpa using h
  have hline := lexes_indent.append (lexes_comment hspace)
  simpa [Says, lineText_eq, Line.render, String.toList_append] using hline

theorem lexes_attributes {text : String} {as : Attributes} (h : Writes text as) :
    Lexes (' ' :: '[' :: (text.toList ++ [']', ';', '\n']))
      (.mark '[' :: (attributeTokens as ++ [.mark ']', .mark ';'])) := by
  have hopen : Lexes [' ', '['] [.mark '['] :=
    (lexes_white (s := [' ']) (by decide)).append (lexes_mark (by decide))
  have hclose : Lexes [']', ';', '\n'] [.mark ']', .mark ';'] :=
    (lexes_mark (by decide)).append ((lexes_mark (by decide)).append (lexes_white (by decide)))
  exact hopen.append (h.append hclose (by decide))

theorem says_node {id text : String} {as : Attributes} (hid : ¬ EndsLine id) (h : Writes text as) :
    Says [.node id text] [.node id as] := by
  have hword := lexesWord_quoteId (mt IsBroken.endsLine hid)
  have hline := lexes_indent.append (hword.append (lexes_attributes h) (by decide))
  simpa [Says, lineText_eq, Line.render, Statement.tokens, String.toList_append] using hline

theorem says_edge {source target text : String} {as : Attributes} (hs : ¬ EndsLine source)
    (ht : ¬ EndsLine target) (h : Writes text as) :
    Says [.edge source target text] [.edge source target as] := by
  have harrow : Lexes [' ', '-', '>', ' '] [.arrow] :=
    (lexes_white (s := [' ']) (by decide)).append (lexes_arrow.append (lexes_white (by decide)))
  have hsource := lexesWord_quoteId (mt IsBroken.endsLine hs)
  have htarget := lexesWord_quoteId (mt IsBroken.endsLine ht)
  have hends := (hsource.append harrow (by decide)).append
    (htarget.append (lexes_attributes h) (by decide))
  have hline := lexes_indent.append hends
  simpa [Says, lineText_eq, Line.render, Statement.tokens, String.toList_append] using hline

theorem says_flatMap {α : Type} {f : α → List Line} {d : α → List Statement} {xs : List α}
    (h : ∀ x ∈ xs, Says (f x) (d x)) : Says (xs.flatMap f) (xs.flatMap d) := by
  induction xs with
  | nil => exact .nil
  | cons x xs ih =>
    obtain ⟨hx, hxs⟩ := List.forall_mem_cons.mp h
    exact hx.append (ih hxs)

theorem says_map {α : Type} {f : α → Line} {d : α → Statement} {xs : List α}
    (h : ∀ x ∈ xs, Says [f x] [d x]) : Says (xs.map f) (xs.map d) := by
  rw [List.map_eq_flatMap, List.map_eq_flatMap]
  exact says_flatMap h

end Says

end Wiring.Dot
