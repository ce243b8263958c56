import Wiring.Dot
import Wiring.Proofs.Dot.Reader
import Wiring.Proofs.Runs

namespace Wiring.Dot

open Wiring.Text

section Cut

variable {c : Char} {w r : List Char}

theorem tokens_nil : tokens [] = some [] := by rw [tokens]

theorem tokens_cons (c : Char) (r : List Char) :
    tokens (c :: r) =
      if isWhite c then tokens r
      else if isLetter c then
        (tokens (r.dropWhile isWordPart)).map (word (c :: r.takeWhile isWordPart) :: ·)
      else if c ∈ marks then (tokens r).map (.mark c :: ·)
      else if c = '"' then
        (unquote? r).bind (fun p => (tokens p.2).map (.id (String.ofList p.1) :: ·))
      else if c = '-' then
        if r.head? = some '>' then (tokens r.tail).map (.arrow :: ·) else none
      else if c = '/' then
        if r.head? = some '/' then tokens (r.tail.dropWhile (· ≠ '\n')) else none
      else none := by
  rw [tokens]
  cases unquote? r <;> rfl

theorem tokens_white (hc : isWhite c = true) : tokens (c :: r) = tokens r := by
  rw [tokens_cons, if_pos hc]

theorem tokens_mark (hc : c ∈ marks) : tokens (c :: r) = (tokens r).map (.mark c :: ·) := by
  have hclass : marks.all (fun x => !isWhite x && !isLetter x) = true := by decide
  have hother : isWhite c = false ∧ isLetter c = false := by
    simpa using List.all_eq_true.mp hclass c hc
  rw [tokens_cons, if_neg (by simp [hother.1]), if_neg (by simp [hother.2]), if_pos hc]

theorem tokens_arrow : tokens ('-' :: '>' :: r) = (tokens r).map (.arrow :: ·) := by
  rw [tokens_cons, if_neg (by decide), if_neg (by decide), if_neg (by decide), if_neg (by decide),
    if_pos rfl, List.head?_cons, if_pos rfl, List.tail_cons]

theorem tokens_comment : tokens ('/' :: '/' :: r) = tokens (r.dropWhile (· ≠ '\n')) := by
  rw [tokens_cons, if_neg (by decide), if_neg (by decide), if_neg (by decide), if_neg (by decide),
    if_neg (by decide), if_pos rfl, List.head?_cons, if_pos rfl, List.tail_cons]

theorem tokens_quoted {name : List Char} (h : unquote? w = some (name, r)) :
    tokens ('"' :: w) = (tokens r).map (.id (String.ofList name) :: ·) := by
  rw [tokens_cons, if_neg (by decide), if_neg (by decide), if_neg (by decide), if_pos rfl,
    h, Option.bind_some]

theorem isWhite_of_isLetter (hc : isLetter c = true) : isWhite c = false := by
  cases hw : isWhite c with
  | false => rfl
  | true =>
    simp only [isWhite, Bool.or_eq_true, beq_iff_eq] at hw
    rcases hw with ((rfl | rfl) | rfl) | rfl <;> exact absurd hc (by decide)

theorem tokens_word (hc : isLetter c = true) (hw : ∀ x ∈ w, isWordPart x = true)
    (hr : ∀ x ∈ r.head?, isWordPart x = false) :
    tokens (c :: w ++ r) = (tokens r).map (word (c :: w) :: ·) := by
  rw [List.cons_append, tokens_cons, if_neg (by simp [isWhite_of_isLetter hc]), if_pos hc,
    takeWhile_append_stop hw hr, dropWhile_append_stop hw hr]

theorem unquote?_escape (s r : List Char) :
    unquote? (s.flatMap escapeChar ++ '"' :: r) = some (s, r) := by
  induction s with
  | nil => rfl
  | cons c s ih =>
    rw [List.flatMap_cons, List.append_assoc]
    by_cases hb : c = '\\'
    · subst hb
      simp [escapeChar, unquote?, ih]
    · by_cases hq : c = '"'
      · subst hq
        simp [escapeChar, unquote?, ih]
      · simp [escapeChar, unquote?, hb, hq, ih]

end Cut

/-- Whatever follows the text, it is cut into the given tokens. -/
def Lexes (s : List Char) (ts : List Token) : Prop :=
  ∀ r, tokens (s ++ r) = (tokens r).map (ts ++ ·)

def LexesWord (s : List Char) (ts : List Token) : Prop :=
  ∀ r, (∀ c ∈ r.head?, isWordPart c = false) → tokens (s ++ r) = (tokens r).map (ts ++ ·)

section Pieces

variable {c : Char} {s t : List Char} {ts us : List Token}

theorem map_append_map (o : Option (List Token)) (ts us : List Token) :
    (o.map (us ++ ·)).map (ts ++ ·) = o.map (ts ++ us ++ ·) := by
  cases o <;> simp

theorem Lexes.nil : Lexes [] [] := by
  intro r
  simp

theorem Lexes.word (h : Lexes s ts) : LexesWord s ts := fun r _ => h r

theorem Lexes.append (hs : Lexes s ts) (ht : Lexes t us) : Lexes (s ++ t) (ts ++ us) := by
  intro r
  rw [List.append_assoc, hs, ht, map_append_map]

theorem Lexes.append_word (hs : Lexes s ts) (ht : LexesWord t us) :
    LexesWord (s ++ t) (ts ++ us) := by
  intro r hr
  rw [List.append_assoc, hs, ht r hr, map_append_map]

theorem LexesWord.append (hs : LexesWord s ts) (ht : Lexes (c :: t) us)
    (hc : isWordPart c = false) : Lexes (s ++ c :: t) (ts ++ us) := by
  intro r
  have hstop : ∀ x ∈ ((c :: t) ++ r).head?, isWordPart x = false := by
    rintro x ⟨rfl⟩
    exact hc
  rw [List.append_assoc, hs _ hstop, ht, map_append_map]

theorem lexes_white (h : s.all isWhite = true) : Lexes s [] := by
  induction s with
  | nil => exact .nil
  | cons c s ih =>
    obtain ⟨hc, hs⟩ := Bool.and_eq_true_iff.mp h
    intro r
    rw [List.cons_append, tokens_white hc]
    exact ih hs r

theorem lexes_mark (hc : c ∈ marks) : Lexes [c] [.mark c] := fun _ => tokens_mark hc

theorem lexes_arrow : Lexes ['-', '>'] [.arrow] := fun _ => tokens_arrow

theorem lexes_comment (h : '\n' ∉ s) : Lexes ('/' :: '/' :: s ++ ['\n']) [] := by
  intro r
  have hrun : (s ++ '\n' :: r).dropWhile (· ≠ '\n') = '\n' :: r := by
    apply dropWhile_append_stop
    · intro c hc
      simpa using ne_of_mem_of_not_mem hc h
    · rintro c ⟨rfl⟩
      rfl
  have hcut : '/' :: '/' :: s ++ ['\n'] ++ r = '/' :: '/' :: (s ++ '\n' :: r) := by simp
  rw [hcut, tokens_comment, hrun, tokens_white rfl]
  simp

theorem lexes_quote (s : String) : Lexes (quote s).toList [.id s] := by
  intro r
  have hcut : (quote s).toList ++ r = '"' :: (s.toList.flatMap escapeChar ++ '"' :: r) := by
    simp [quote]
  rw [hcut, tokens_quoted (unquote?_escape s.toList r), String.ofList_toList]
  rfl

theorem lexesWord_word (hc : isLetter c = true) (hs : s.all isWordPart = true) :
    LexesWord (c :: s) [word (c :: s)] := fun _ hr => tokens_word hc (List.all_eq_true.mp hs) hr

end Pieces

def EndsLine (s : String) : Prop := s.toList.getLast? = some '\n'

theorem isPlainStart_eq (c : Char) : isPlainStart c = isLetter c := by
  have hupper : c.isUpper = ('A' ≤ c && c ≤ 'Z') := Bool.decide_and _ _
  have hlower : c.isLower = ('a' ≤ c && c ≤ 'z') := rfl
  have halpha : c.isAlpha = (c.isLower || c.isUpper) := Bool.or_comm _ _
  rw [isPlainStart, halpha, hupper, hlower]
  rfl

theorem isPlainPart_eq (c : Char) : isPlainPart c = isWordPart c := by
  have hdigit : c.isDigit = ('0' ≤ c && c ≤ '9') := rfl
  have hletter : isLetter c = (c.isAlpha || c == '_') := (isPlainStart_eq c).symm
  rw [isPlainPart, isWordPart, hletter, Char.isAlphanum, hdigit, Bool.or_right_comm]

theorem word_of_not_reserved {s : String} (h : isReserved s = false) : word s.toList = .id s := by
  have hkeywords : reserved = keywords := rfl
  rw [isReserved, List.contains_eq_mem, decide_eq_false_iff_not, hkeywords] at h
  rw [word, if_neg h, String.ofList_toList]

theorem lexesWord_plain {s : String} (hs : ¬ EndsLine s) (hp : isPlain s.toList = true)
    (hk : isReserved s = false) : LexesWord s.toList [.id s] := by
  have hlast : ¬ s.toList.getLast? = some '\n' := hs
  rw [isPlain, if_neg hlast] at hp
  rw [← word_of_not_reserved hk]
  cases hl : s.toList with
  | nil => rw [hl] at hp; cases hp
  | cons c w =>
    rw [hl] at hp
    obtain ⟨hc, hw⟩ := Bool.and_eq_true_iff.mp hp
    rw [isPlainStart_eq] at hc
    rw [funext isPlainPart_eq] at hw
    exact lexesWord_word hc hw

def IsBare (w : List Char) : Prop :=
  ∃ c r, w = c :: r ∧ isLetter c = true ∧ r.all isWordPart = true

/-- A bare word with a line feed behind it. -/
def IsBroken (s : String) : Prop := ∃ w, IsBare w ∧ s.toList = w ++ ['\n']

theorem isPlain_concat_feed (w : List Char) : isPlain (w ++ ['\n']) = true ↔ IsBare w := by
  rw [isPlain, if_pos List.getLast?_concat, List.dropLast_concat]
  cases w with
  | nil =>
    refine ⟨nofun, ?_⟩
    rintro ⟨c, r, h, -⟩
    cases h
  | cons c r =>
    rw [Bool.and_eq_true, isPlainStart_eq, funext isPlainPart_eq]
    constructor
    · rintro ⟨hc, hr⟩
      exact ⟨c, r, rfl, hc, hr⟩
    · rintro ⟨_, _, ⟨rfl, rfl⟩, hc, hr⟩
      exact ⟨hc, hr⟩

theorem IsBroken.endsLine {s : String} (h : IsBroken s) : EndsLine s := by
  obtain ⟨w, -, hw⟩ := h
  rw [EndsLine, hw, List.getLast?_concat]

theorem isBroken_of_endsLine {s : String} (hs : EndsLine s) (hp : isPlain s.toList = true) :
    IsBroken s := by
  obtain ⟨w, hw⟩ := List.getLast?_eq_some_iff.mp hs
  rw [hw, isPlain_concat_feed] at hp
  exact ⟨w, hp, hw⟩

theorem lexesWord_quoteId {s : String} (h : ¬ IsBroken s) :
    LexesWord (quoteId s).toList [.id s] := by
  unfold quoteId
  split
  · next hs =>
    obtain ⟨hp, hk⟩ := Bool.and_eq_true_iff.mp hs
    have hends : ¬ EndsLine s := fun he => h (isBroken_of_endsLine he hp)
    exact lexesWord_plain hends hp (by simpa using hk)
  · exact (lexes_quote s).word

end Wiring.Dot
