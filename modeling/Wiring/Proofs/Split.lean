import Mathlib.Data.String.Basic
import Wiring.Files.Path

namespace Wiring.Text

open String (ofList utf8Len)

theorem utf8Len_concat (s : List Char) (x : Char) :
    utf8Len (s ++ [x]) = utf8Len s + x.utf8Size := by
  rw [String.utf8Len_append, String.utf8Len_cons, String.utf8Len_nil, Nat.zero_add]

theorem extract_ofList (l m r : List Char) :
    String.Pos.Raw.extract (ofList (l ++ m ++ r)) ⟨utf8Len l⟩ ⟨utf8Len (l ++ m)⟩ = ofList m := by
  rw [String.utf8Len_append]
  exact String.extract_of_valid l m r

theorem splitOnAux_ofList (c : Char) (l m r : List Char) (acc : List String) :
    String.splitOnAux (ofList (l ++ m ++ r)) (ofList [c]) ⟨utf8Len l⟩ ⟨utf8Len (l ++ m)⟩ 0 acc =
      acc.reverse ++ (List.splitOnPPrepend (· == c) r m.reverse).map ofList := by
  -- before the place that is looked at, `l` is in pieces already and `m` belongs to the
  -- next piece
  induction r generalizing l m acc with
  | nil =>
    have hend := (String.atEnd_of_valid (l ++ m) []).mpr rfl
    rw [String.splitOnAux, if_pos hend, extract_ofList]
    simp [List.splitOnPPrepend]
  | cons x r ih =>
    have hend : ¬ String.Pos.Raw.atEnd (ofList (l ++ m ++ x :: r)) ⟨utf8Len (l ++ m)⟩ = true :=
      fun h => List.cons_ne_nil x r ((String.atEnd_of_valid (l ++ m) (x :: r)).mp h)
    have hget := String.get_of_valid (l ++ m) (x :: r)
    have hnext := String.next_of_valid (l ++ m) x r
    have hcut : String.Pos.Raw.get (ofList [c]) 0 = c := String.get_of_valid [] [c]
    rw [String.splitOnAux, if_neg hend, hget, hcut, List.headD_cons,
      List.splitOnPPrepend_cons_eq_if]
    by_cases hx : x = c
    · subst hx
      have hpast : String.Pos.Raw.next (ofList [x]) 0 = ⟨utf8Len [x]⟩ :=
        String.next_of_valid [] x []
      have hdone : String.Pos.Raw.atEnd (ofList [x]) ⟨utf8Len [x]⟩ = true :=
        (String.atEnd_of_valid [x] []).mpr rfl
      have hback : (⟨utf8Len (l ++ m) + x.utf8Size⟩ : String.Pos.Raw).unoffsetBy ⟨utf8Len [x]⟩ =
          ⟨utf8Len (l ++ m)⟩ := by
        simp [String.Pos.Raw.unoffsetBy]
      have hrest := ih (l ++ m ++ [x]) [] (ofList m :: acc)
      rw [List.append_nil, utf8Len_concat, List.append_assoc _ [x], List.singleton_append] at hrest
      rw [if_pos (beq_self_eq_true x), if_pos (beq_self_eq_true x), hnext, hpast, if_pos hdone,
        hback, extract_ofList, hrest]
      simp
    · have hne : ¬ (x == c) = true := by simpa using hx
      have hback : (⟨utf8Len (l ++ m)⟩ : String.Pos.Raw).unoffsetBy 0 = ⟨utf8Len (l ++ m)⟩ := rfl
      have hrest := ih l (m ++ [x]) acc
      rw [← List.append_assoc l m [x], utf8Len_concat, List.append_assoc _ [x],
        List.singleton_append, List.reverse_append, List.reverse_singleton, List.singleton_append]
        at hrest
      rw [if_neg hne, if_neg hne, hback, hnext]
      exact hrest

theorem splitOn_singleton (s : String) (c : Char) :
    s.splitOn (ofList [c]) = (s.toList.splitOn c).map ofList := by
  have h := splitOnAux_ofList c [] [] s.toList []
  rw [List.nil_append, List.nil_append, String.ofList_toList] at h
  have hsep : (ofList [c] == "") = false := by simp
  rw [String.splitOn, List.splitOn_eq_splitOnP, hsep]
  exact h

end Wiring.Text

theorem Wiring.Files.Path.ofString_relative {s : String} (h : leadingSlashes s = 0) :
    ofString s =
      ⟨"", ((s.toList.splitOn '/').map String.ofList).filter (fun t => t != "" && t != ".")⟩ := by
  rw [ofString, h]
  exact congrArg (fun pieces => Path.mk "" (pieces.filter (fun t => t != "" && t != ".")))
    (Text.splitOn_singleton s '/')
