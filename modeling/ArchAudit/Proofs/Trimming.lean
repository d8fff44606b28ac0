import ArchAudit.Continuation
import ArchAudit.Text.Lines
import Mathlib.Data.List.DropRight

/-!
# Trimming the ends of a line

Line endings are removed in several places: one carriage return where a text is cut into lines,
every carriage return and newline where statements are joined, and all blanks where a statement is
trimmed.  Removing a smaller class of characters first never changes what a later removal of a
larger class leaves.
-/

namespace ArchAudit.Text

theorem dropEndWhile_concat
    (drops : Char → Bool) (text : List Char) (last : Char) :
    dropEndWhile drops (text ++ [last]) =
      if drops last then dropEndWhile drops text else text ++ [last] :=
  List.rdropWhile_concat drops text last

/-- Dropping a class of characters first does not change what dropping a larger class leaves. -/
theorem dropEndWhile_dropEndWhile
    {few many : Char → Bool}
    (larger : ∀ c, few c = true → many c = true)
    (text : List Char) :
    dropEndWhile many (dropEndWhile few text) = dropEndWhile many text := by
  induction text using List.reverseRecOn with
  | nil => rfl
  | append_singleton initial last inductionHypothesis =>
      rw [dropEndWhile_concat few, dropEndWhile_concat many]
      by_cases dropped : few last = true
      · rw [if_pos dropped, if_pos (larger last dropped)]
        exact inductionHypothesis
      · rw [if_neg dropped, dropEndWhile_concat]

theorem isBlank_of_lineEnding
    (c : Char)
    (ending : (decide (c = '\r') || decide (c = '\n')) = true) :
    isBlank c = true := by
  simp only [Bool.or_eq_true, decide_eq_true_eq] at ending
  rcases ending with rfl | rfl
  · decide
  · decide

theorem trimEnd_dropLineEnding (raw : List Char) :
    trimEnd (Continuation.dropLineEnding raw) = trimEnd raw :=
  dropEndWhile_dropEndWhile isBlank_of_lineEnding raw

theorem trim_dropLineEnding (raw : List Char) :
    trim (Continuation.dropLineEnding raw) = trim raw := by
  unfold trim
  rw [trimEnd_dropLineEnding]

/-- A carriage return that is dropped on its own belongs to the line ending anyway. -/
theorem dropLineEnding_dropCarriageReturn (line : List Char) :
    Continuation.dropLineEnding (dropCarriageReturn line) =
      Continuation.dropLineEnding line := by
  induction line using List.reverseRecOn with
  | nil => rfl
  | append_singleton initial last _ =>
      by_cases isReturn : last = '\r'
      · subst isReturn
        simp [dropCarriageReturn, Continuation.dropLineEnding, dropEndWhile_concat]
      · simp [dropCarriageReturn, isReturn]

/-! ## Characters that remain -/

theorem trim_subset (text : List Char) :
    trim text ⊆ text := by
  have ending : trimEnd text ⊆ text := (List.rdropWhile_prefix isBlank text).subset
  exact List.Subset.trans (List.dropWhile_subset isBlank) ending

theorem mem_dropWhile_of_mem
    {drops : Char → Bool} {c : Char} {text : List Char}
    (member : c ∈ text)
    (kept : drops c = false) :
    c ∈ text.dropWhile drops := by
  rw [← List.takeWhile_append_dropWhile (p := drops) (l := text), List.mem_append] at member
  rcases member with dropped | remains
  · exact nomatch kept.symm.trans (List.mem_takeWhile_imp dropped)
  · exact remains

/-- Trimming keeps every character that is not blank. -/
theorem mem_trim_of_mem
    {c : Char} {text : List Char}
    (member : c ∈ text)
    (visible : isBlank c = false) :
    c ∈ trim text := by
  apply mem_dropWhile_of_mem _ visible
  rw [trimEnd, dropEndWhile, List.mem_reverse]
  exact mem_dropWhile_of_mem (List.mem_reverse.mpr member) visible

theorem dropCarriageReturn_subset (line : List Char) :
    dropCarriageReturn line ⊆ line := by
  unfold dropCarriageReturn
  split
  · exact List.dropLast_subset line
  · exact List.Subset.refl line

end ArchAudit.Text
