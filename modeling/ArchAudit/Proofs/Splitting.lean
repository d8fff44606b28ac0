import ArchAudit.Text.Split
import Mathlib.Data.List.Basic

/-!
# Splitting at a separator

What splitting gives on texts that are put together from parts: the parts themselves, if the
separator stands between them and nowhere inside.
-/

namespace ArchAudit.Text

/-- What stands in front of the first separator belongs to the first piece. -/
theorem splitList_append_of_not_mem
    {separator : Char} {front text first : List Char} {others : List (List Char)}
    (absent : separator ∉ front)
    (shape : splitList separator text = first :: others) :
    splitList separator (front ++ text) = (front ++ first) :: others := by
  induction front with
  | nil => exact shape
  | cons c rest inductionHypothesis =>
      obtain ⟨headDifferent, tailAbsent⟩ := List.ne_and_not_mem_of_not_mem_cons absent
      rw [List.cons_append, splitList, if_neg headDifferent.symm, inductionHypothesis tailAbsent,
        List.cons_append]

theorem splitList_of_not_mem
    {separator : Char} {text : List Char}
    (absent : separator ∉ text) :
    splitList separator text = [text] := by
  have split := splitList_append_of_not_mem absent (show splitList separator [] = [[]] from rfl)
  rwa [List.append_nil] at split

theorem splitList_separator_cons (separator : Char) (rest : List Char) :
    splitList separator (separator :: rest) = [] :: splitList separator rest := by
  rw [splitList, if_pos rfl]

theorem splitList_append
    {separator : Char} {first : List Char}
    (absent : separator ∉ first)
    (rest : List Char) :
    splitList separator (first ++ separator :: rest) = first :: splitList separator rest := by
  have split := splitList_append_of_not_mem absent (splitList_separator_cons separator rest)
  rwa [List.append_nil] at split

/-- The first piece goes up to the first separator. -/
theorem splitList_head (separator : Char) (text : List Char) :
    ∃ first others,
      splitList separator text = first :: others ∧ first <+: text ∧ separator ∉ first := by
  by_cases member : separator ∈ text
  · obtain ⟨first, rest, rfl, absent⟩ := List.eq_append_cons_of_mem member
    exact ⟨first, _, splitList_append absent rest, List.prefix_append _ _, absent⟩
  · exact ⟨text, [], splitList_of_not_mem member, List.prefix_rfl, member⟩

/-- A separator splits a text into what the two sides of it are split into. -/
theorem splitList_append_cons (separator : Char) (front rest : List Char) :
    splitList separator (front ++ separator :: rest) =
      splitList separator front ++ splitList separator rest := by
  induction front with
  | nil => exact splitList_separator_cons separator rest
  | cons c others inductionHypothesis =>
      obtain ⟨first, later, shape, _⟩ := splitList_head separator others
      by_cases same : c = separator
      · rw [List.cons_append, splitList, if_pos same, inductionHypothesis, splitList, if_pos same,
          List.cons_append]
      · rw [List.cons_append, splitList, if_neg same, inductionHypothesis, shape,
          splitList, if_neg same, shape]
        rfl

theorem splitList_intercalate
    {separator : Char} {parts : List (List Char)}
    (nonempty : parts ≠ [])
    (absent : ∀ part ∈ parts, separator ∉ part) :
    splitList separator ([separator].intercalate parts) = parts := by
  induction parts with
  | nil => exact (nonempty rfl).elim
  | cons part others inductionHypothesis =>
      have partAbsent := absent part List.mem_cons_self
      cases others with
      | nil =>
          rw [List.intercalate_singleton]
          exact splitList_of_not_mem partAbsent
      | cons next later =>
          have laterAbsent : ∀ part ∈ next :: later, separator ∉ part :=
            fun other member => absent other (List.mem_cons_of_mem part member)
          rw [List.intercalate_cons_cons, List.append_assoc, List.singleton_append,
            splitList_append partAbsent,
            inductionHypothesis (List.cons_ne_nil next later) laterAbsent]

theorem splitText_intercalate
    {separator : Char} {mark : String} {parts : List String}
    (isMark : mark.toList = [separator])
    (nonempty : parts ≠ [])
    (absent : ∀ part ∈ parts, separator ∉ part.toList) :
    splitText separator (mark.intercalate parts) = parts := by
  have absentLists : ∀ part ∈ parts.map String.toList, separator ∉ part := by
    intro part member
    obtain ⟨text, textMember, rfl⟩ := List.mem_map.mp member
    exact absent text textMember
  rw [splitText, String.toList_intercalate, isMark,
    splitList_intercalate (by simpa using nonempty) absentLists, List.map_map]
  simp

end ArchAudit.Text
