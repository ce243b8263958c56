import Wiring.Proofs.Annotation.Print
import Wiring.Proofs.Annotation.Values

namespace Wiring.Annotation

open Wiring.Text

variable {t : List Char}

theorem ofTrimmed_trim {a : Annotation} (h : WrittenAnnotation a t) : ofTrimmed (trim t) = .ok a :=
  ofTrimmed_spelled (fun _ _ ht => ht) h.spelled

/-- An annotation may be written with its values in any order and any layout between them. -/
theorem read_written {a : Annotation} (h : a.IsPrintable) :
    (∀ items, Interleaves items a → WrittenAnnotation a (print a.name items)) ∧
      ∀ t, WrittenAnnotation a t → read t = .ok a := by
  constructor
  · intro items hi
    exact writtenAnnotation_print h hi
  · intro t ht
    rw [read, ofTrimmed_trim ht]

theorem read_written_nested :
    Annotation.IsPrintable
        ⟨"Import", [.list [.reference "A" true]], [("note", .string "a\"b")]⟩ ∧
      read "@Import (note = \"a\\\"b\", {A.class, /* B */}) // end\n".toList =
        .ok ⟨"Import", [.list [.reference "A" true]], [("note", .string "a\"b")]⟩ := by
  have hblank : Layout [' '] := .blank (by decide) .nil
  have hcomment : Layout " /* B */".toList :=
    .blank (by decide) (@Layout.block " B ".toList [] (by decide) .nil)
  have hend : Layout " // end\n".toList :=
    .blank (by decide) (@Layout.line " end".toList [] (by decide) .nil)
  have hImport : IsDotted ["Import".toList] :=
    ⟨by simp, by simpa using isSegment_of_all (by decide) (by decide +kernel)⟩
  have hA : IsDotted ["A".toList] := ⟨by simp, by simpa using isSegment_of_all (by decide) rfl⟩
  have hnote : IsSegment "note".toList := isSegment_of_all (by decide) (by decide +kernel)
  have hprintable : Annotation.IsPrintable
      ⟨"Import", [.list [.reference "A" true]], [("note", .string "a\"b")]⟩ := by
    refine ⟨⟨_, hImport, rfl⟩, ?_, ?_⟩
    · simpa using Value.IsPrintable.list (by simpa using .classLiteral hA)
    · simpa using ⟨hnote, .string _⟩
  have hlist : Written (.list [.reference "A" true]) "{A.class, /* B */}".toList :=
    .list (.cons .nil (.classLiteral hA) .nil (.nil hcomment))
  have hnamed : WrittenItem (some "note".toList, .string "a\"b") "note = \"a\\\"b\"".toList :=
    .named (w := [' ']) hnote (by simp [Blank]; decide) hblank (.string "a\"b".toList)
  have hargs := WrittenArgumentList.some
    (.cons .nil hnamed .nil (.last hblank (.positional hlist) .nil))
  exact ⟨hprintable, (read_written hprintable).2 _ (.mk hImport hblank hargs hend)⟩

end Wiring.Annotation
