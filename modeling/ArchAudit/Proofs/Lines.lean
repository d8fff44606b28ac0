import ArchAudit.Text.Lines

/-!
# Cutting at newlines

The pieces of a sequence, stated without the recursion that computes them: each complete piece goes
up to the next newline, and what is left behind the last newline is a piece of its own unless it is
empty.
-/

namespace ArchAudit.Text

variable {α : Type}

/-- Cuts of a sequence after each newline. -/
inductive Cut (newline : α) : List α → List (Piece α) → Prop
  | nil :
      Cut newline [] []
  | unfinished {content : List α} :
      content ≠ [] →
      newline ∉ content →
      Cut newline content [⟨content, false⟩]
  | complete {content rest : List α} {others : List (Piece α)} :
      newline ∉ content →
      Cut newline rest others →
      Cut newline (content ++ newline :: rest) (⟨content, true⟩ :: others)

theorem Cut.not_mem_content
    {newline : α} {text : List α} {linePieces : List (Piece α)}
    (cut : Cut newline text linePieces) :
    ∀ piece ∈ linePieces, newline ∉ piece.content := by
  induction cut with
  | nil => exact fun _ member => nomatch member
  | unfinished _ absent =>
      intro piece member
      rw [List.mem_singleton.mp member]
      exact absent
  | complete absent _ inductionHypothesis =>
      intro piece member
      rcases List.mem_cons.mp member with rfl | later
      · exact absent
      · exact inductionHypothesis piece later

variable [DecidableEq α]

theorem pieces_of_unfinished
    {newline : α} {content : List α}
    (nonempty : content ≠ [])
    (absent : newline ∉ content) :
    pieces newline content = [⟨content, false⟩] := by
  induction content with
  | nil => exact (nonempty rfl).elim
  | cons c rest inductionHypothesis =>
      obtain ⟨headDifferent, tailAbsent⟩ := List.ne_and_not_mem_of_not_mem_cons absent
      cases rest with
      | nil => simp [pieces, headDifferent.symm]
      | cons next others =>
          rw [pieces, if_neg headDifferent.symm,
            inductionHypothesis (List.cons_ne_nil next others) tailAbsent]

theorem pieces_of_complete
    {newline : α} {content : List α}
    (absent : newline ∉ content)
    (rest : List α) :
    pieces newline (content ++ newline :: rest) = ⟨content, true⟩ :: pieces newline rest := by
  induction content with
  | nil => exact pieces_newline_cons newline rest
  | cons c others inductionHypothesis =>
      obtain ⟨headDifferent, tailAbsent⟩ := List.ne_and_not_mem_of_not_mem_cons absent
      rw [List.cons_append, pieces, if_neg headDifferent.symm, inductionHypothesis tailAbsent]

/-- One more element in front belongs to the first piece. -/
theorem Cut.cons_of_ne
    {newline c : α} {rest : List α}
    (different : c ≠ newline)
    (restCut : Cut newline rest (pieces newline rest)) :
    Cut newline (c :: rest) (pieces newline (c :: rest)) := by
  have extended :
      ∀ {content : List α}, newline ∉ content → newline ∉ c :: content :=
    List.not_mem_cons_of_ne_of_not_mem different.symm
  generalize shape : pieces newline rest = restPieces at restCut
  cases restCut with
  | nil =>
      rw [pieces_of_unfinished (List.cons_ne_nil c []) (extended List.not_mem_nil)]
      exact .unfinished (List.cons_ne_nil c []) (extended List.not_mem_nil)
  | unfinished _ absent =>
      rw [pieces_of_unfinished (List.cons_ne_nil c _) (extended absent)]
      exact .unfinished (List.cons_ne_nil c _) (extended absent)
  | @complete content others othersPieces absent othersCut =>
      have others_eq : pieces newline others = othersPieces := by
        rw [pieces_of_complete absent] at shape
        exact (List.cons.inj shape).2
      rw [← List.cons_append, pieces_of_complete (extended absent), others_eq]
      exact .complete (extended absent) othersCut

theorem pieces_cut (newline : α) (text : List α) :
    Cut newline text (pieces newline text) := by
  induction text with
  | nil => exact .nil
  | cons c rest inductionHypothesis =>
      by_cases same : c = newline
      · subst same
        rw [pieces_newline_cons]
        exact .complete List.not_mem_nil inductionHypothesis
      · exact inductionHypothesis.cons_of_ne same

/-- There is only one way to cut a sequence after each newline. -/
theorem Cut.eq_pieces
    {newline : α} {text : List α} {candidate : List (Piece α)}
    (cut : Cut newline text candidate) :
    candidate = pieces newline text := by
  induction cut with
  | nil => rfl
  | unfinished nonempty absent => rw [pieces_of_unfinished nonempty absent]
  | complete absent _ inductionHypothesis =>
      rw [pieces_of_complete absent, inductionHypothesis]

end ArchAudit.Text
