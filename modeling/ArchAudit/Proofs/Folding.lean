import ArchAudit.Proofs.Trimming
import Mathlib.Data.List.Forall2

/-!
# Statements of a list of physical lines

What the folder of continued lines is meant to compute, stated without its state: physical lines
fall into groups, each a run of continued lines and the line behind the run, and every group is one
statement.  The folder, fed with the lines one by one and told where the input ends, emits exactly
these statements.
-/

namespace ArchAudit

/-! ## Groups of lines -/

namespace Folding

/-- Whether a physical line asks to be continued by the next one. -/
def IsContinued (raw : String) : Prop :=
  (Text.trimEnd (Continuation.dropLineEnding raw.toList)).getLast? = some '\\'

instance : DecidablePred IsContinued :=
  fun raw => inferInstanceAs
    (Decidable ((Text.trimEnd (Continuation.dropLineEnding raw.toList)).getLast? = some '\\'))

/-- Cuts of physical lines into groups: a run of continued lines, as long as it goes, together with
the line behind it, or with the end of the input. -/
inductive Grouped : List String → List (List String) → Prop
  | nil :
      Grouped [] []
  | unfinished {continued : List String} :
      continued ≠ [] →
      (∀ line ∈ continued, IsContinued line) →
      Grouped continued [continued]
  | complete {continued rest : List String} {last : String} {groups : List (List String)} :
      (∀ line ∈ continued, IsContinued line) →
      ¬ IsContinued last →
      Grouped rest groups →
      Grouped (continued ++ last :: rest) ((continued ++ [last]) :: groups)

def prepend (raw : String) : List (List String) → List (List String)
  | [] => [[raw]]
  | group :: others => (raw :: group) :: others

def groups : List String → List (List String)
  | [] => []
  | raw :: rest =>
      if IsContinued raw then prepend raw (groups rest)
      else [raw] :: groups rest

theorem groups_of_continued
    {continued : List String}
    (nonempty : continued ≠ [])
    (allContinued : ∀ line ∈ continued, IsContinued line) :
    groups continued = [continued] := by
  induction continued with
  | nil => exact (nonempty rfl).elim
  | cons raw rest inductionHypothesis =>
      obtain ⟨rawContinued, restContinued⟩ := List.forall_mem_cons.mp allContinued
      cases rest with
      | nil => simp [groups, rawContinued, prepend]
      | cons next others =>
          rw [groups, if_pos rawContinued,
            inductionHypothesis (List.cons_ne_nil next others) restContinued]
          rfl

theorem groups_of_complete
    {continued : List String} {last : String}
    (allContinued : ∀ line ∈ continued, IsContinued line)
    (lastPlain : ¬ IsContinued last)
    (rest : List String) :
    groups (continued ++ last :: rest) = (continued ++ [last]) :: groups rest := by
  induction continued with
  | nil => simp [groups, lastPlain]
  | cons raw others inductionHypothesis =>
      obtain ⟨rawContinued, othersContinued⟩ := List.forall_mem_cons.mp allContinued
      rw [List.cons_append, groups, if_pos rawContinued,
        inductionHypothesis othersContinued]
      rfl

theorem Grouped.cons_continued
    {raw : String} {rest : List String} {restGroups : List (List String)}
    (rawContinued : IsContinued raw)
    (restGrouped : Grouped rest restGroups) :
    Grouped (raw :: rest) (prepend raw restGroups) := by
  cases restGrouped with
  | nil =>
      exact .unfinished (List.cons_ne_nil raw [])
        (List.forall_mem_cons.mpr ⟨rawContinued, List.forall_mem_nil _⟩)
  | unfinished _ allContinued =>
      exact .unfinished (List.cons_ne_nil raw _)
        (List.forall_mem_cons.mpr ⟨rawContinued, allContinued⟩)
  | complete allContinued lastPlain othersGrouped =>
      exact .complete (List.forall_mem_cons.mpr ⟨rawContinued, allContinued⟩)
        lastPlain othersGrouped

theorem groups_grouped (lines : List String) :
    Grouped lines (groups lines) := by
  induction lines with
  | nil => exact .nil
  | cons raw rest inductionHypothesis =>
      by_cases rawContinued : IsContinued raw
      · rw [groups, if_pos rawContinued]
        exact inductionHypothesis.cons_continued rawContinued
      · rw [groups, if_neg rawContinued]
        exact .complete (List.forall_mem_nil IsContinued) rawContinued inductionHypothesis

/-- There is only one way to cut lines into groups. -/
theorem grouped_iff {lines : List String} {candidate : List (List String)} :
    Grouped lines candidate ↔ candidate = groups lines := by
  constructor
  · intro grouped
    induction grouped with
    | nil => rfl
    | unfinished nonempty allContinued =>
        exact (groups_of_continued nonempty allContinued).symm
    | complete allContinued lastPlain _ inductionHypothesis =>
        rw [groups_of_complete allContinued lastPlain, inductionHypothesis]
  · rintro rfl
    exact groups_grouped lines

theorem Grouped.flatten_eq
    {lines : List String} {candidate : List (List String)}
    (grouped : Grouped lines candidate) :
    candidate.flatten = lines := by
  induction grouped with
  | nil => rfl
  | unfinished _ _ => simp
  | complete _ _ _ inductionHypothesis => simp [inductionHypothesis]

theorem Grouped.ne_nil
    {lines : List String} {candidate : List (List String)}
    (grouped : Grouped lines candidate) :
    ∀ group ∈ candidate, group ≠ [] := by
  induction grouped with
  | nil => exact List.forall_mem_nil _
  | unfinished nonempty _ => exact List.forall_mem_singleton.mpr nonempty
  | complete _ _ _ inductionHypothesis =>
      exact List.forall_mem_cons.mpr ⟨by simp, inductionHypothesis⟩

/-! ## Statements of groups -/

/-- What a line contributes to a statement that was continued: its trimmed text, without the marker
if it has one. -/
def contribution (raw : String) : String :=
  if IsContinued raw then
    String.ofList
      (Text.trim (Text.trimEnd (Continuation.dropLineEnding raw.toList)).dropLast)
  else Text.trimmed raw

/-- The contributions of some lines, the empty ones left out. -/
def fragments (lines : List String) : List String :=
  (lines.map contribution).filter fun fragment => fragment ≠ ""

/-- The text of the statement that a group makes up.  Only a line that stands alone and is not
continued keeps the blanks around it. -/
def groupText : List String → String
  | [raw] =>
      if IsContinued raw then String.intercalate " " (fragments [raw])
      else String.ofList (Continuation.dropLineEnding raw.toList)
  | group => String.intercalate " " (fragments group)

def statement (count : Nat) (group : List String) : LogicalLine :=
  ⟨groupText group, count + 1, count + group.length⟩

def numbered : Nat → List (List String) → List LogicalLine
  | _, [] => []
  | count, group :: others =>
      statement count group :: numbered (count + group.length) others

/-- The statements of a list of physical lines. -/
def statements (lines : List String) : List LogicalLine :=
  numbered 0 (groups lines)

@[simp]
theorem fragments_nil : fragments [] = [] := rfl

@[simp]
theorem fragments_append (first second : List String) :
    fragments (first ++ second) = fragments first ++ fragments second := by
  simp [fragments]

theorem groupText_of_continued
    {group : List String}
    (folded : ∀ raw, group = [raw] → IsContinued raw) :
    groupText group = String.intercalate " " (fragments group) := by
  match group with
  | [] => rfl
  | [raw] => simp [groupText, folded raw rfl]
  | _ :: _ :: _ => rfl

end Folding

/-! ## Runs of the folder -/

namespace Continuation

open Folding

/-- Takes in physical lines one by one, with the given number of lines before them: what is pending
after them, and the statements that they complete. -/
def run : Continuation → Nat → List String → Continuation × List LogicalLine
  | pending, _, [] => (pending, [])
  | pending, count, raw :: rest =>
      let step := pending.feed (count + 1) raw
      let later := run step.1 (count + 1) rest
      (later.1, step.2.toList ++ later.2)

def emittedFrom
    (pending : Continuation)
    (count : Nat)
    (lines : List String) :
    List LogicalLine :=
  let after := run pending count lines
  after.2 ++ (after.1.finish (count + lines.length)).2.toList

/-- The statements that a fresh folder emits for the whole input. -/
def emitted (lines : List String) : List LogicalLine :=
  emittedFrom closed 0 lines

theorem run_append
    (pending : Continuation) (count : Nat) (first second : List String) :
    run pending count (first ++ second) =
      ((run (run pending count first).1 (count + first.length) second).1,
        (run pending count first).2 ++
          (run (run pending count first).1 (count + first.length) second).2) := by
  induction first generalizing pending count with
  | nil => rfl
  | cons raw rest inductionHypothesis =>
      have shifted : count + 1 + rest.length = count + (raw :: rest).length := by
        simp only [List.length_cons]
        omega
      rw [List.cons_append, run, inductionHypothesis, shifted, run]
      simp only [List.append_assoc]

theorem emittedFrom_append
    (pending : Continuation) (count : Nat) (first second : List String) :
    emittedFrom pending count (first ++ second) =
      (run pending count first).2 ++
        emittedFrom (run pending count first).1 (count + first.length) second := by
  unfold emittedFrom
  rw [run_append, List.length_append, ← Nat.add_assoc, List.append_assoc]

/-! ### One line -/

theorem fragment_eq_filter (part : List Char) :
    fragment part =
      [String.ofList (Text.trim part)].filter fun fragment => fragment ≠ "" := by
  unfold fragment
  cases Text.trim part with
  | nil => rfl
  | cons c rest => simp

theorem continuedPart?_of_continued
    {raw : String}
    (rawContinued : IsContinued raw) :
    continuedPart? (dropLineEnding raw.toList) =
      some (Text.trimEnd (dropLineEnding raw.toList)).dropLast :=
  if_pos rawContinued

theorem continuedPart?_of_plain
    {raw : String}
    (rawPlain : ¬ IsContinued raw) :
    continuedPart? (dropLineEnding raw.toList) = none :=
  if_neg rawPlain

theorem fragment_of_continued
    {raw : String}
    (rawContinued : IsContinued raw) :
    fragment (Text.trimEnd (dropLineEnding raw.toList)).dropLast = fragments [raw] := by
  rw [fragment_eq_filter, fragments, List.map_singleton, contribution, if_pos rawContinued]

theorem fragment_of_plain
    {raw : String}
    (rawPlain : ¬ IsContinued raw) :
    fragment (dropLineEnding raw.toList) = fragments [raw] := by
  rw [fragment_eq_filter, fragments, List.map_singleton, contribution, if_neg rawPlain,
    Text.trim_dropLineEnding, Text.trimmed]

theorem feed_closed_of_continued
    {raw : String}
    (rawContinued : IsContinued raw)
    (lineNumber : Nat) :
    closed.feed lineNumber raw = (opened lineNumber (fragments [raw]), none) := by
  rw [← fragment_of_continued rawContinued]
  simp only [feed, continuedPart?_of_continued rawContinued]

theorem feed_opened_of_continued
    {raw : String}
    (rawContinued : IsContinued raw)
    (startLine lineNumber : Nat) (earlier : List String) :
    (opened startLine earlier).feed lineNumber raw =
      (opened startLine (earlier ++ fragments [raw]), none) := by
  rw [← fragment_of_continued rawContinued]
  simp only [feed, continuedPart?_of_continued rawContinued]

theorem feed_closed_of_plain
    {raw : String}
    (rawPlain : ¬ IsContinued raw)
    (lineNumber : Nat) :
    closed.feed lineNumber raw =
      (closed, some ⟨String.ofList (dropLineEnding raw.toList), lineNumber, lineNumber⟩) := by
  simp only [feed, continuedPart?_of_plain rawPlain]

theorem feed_opened_of_plain
    {raw : String}
    (rawPlain : ¬ IsContinued raw)
    (startLine lineNumber : Nat) (earlier : List String) :
    (opened startLine earlier).feed lineNumber raw =
      (closed, some (join startLine (earlier ++ fragments [raw]) lineNumber)) := by
  rw [← fragment_of_plain rawPlain]
  simp only [feed, continuedPart?_of_plain rawPlain]

/-! ### Groups and whole inputs -/

theorem run_opened_of_continued
    {continued : List String}
    (allContinued : ∀ line ∈ continued, IsContinued line)
    (startLine count : Nat) (earlier : List String) :
    run (opened startLine earlier) count continued =
      (opened startLine (earlier ++ fragments continued), []) := by
  induction continued generalizing count earlier with
  | nil => simp [run]
  | cons raw rest inductionHypothesis =>
      obtain ⟨rawContinued, restContinued⟩ := List.forall_mem_cons.mp allContinued
      rw [run, feed_opened_of_continued rawContinued, inductionHypothesis restContinued,
        List.append_assoc, ← fragments_append]
      rfl

theorem run_closed_of_continued
    {continued : List String}
    (nonempty : continued ≠ [])
    (allContinued : ∀ line ∈ continued, IsContinued line)
    (count : Nat) :
    run closed count continued = (opened (count + 1) (fragments continued), []) := by
  cases continued with
  | nil => exact (nonempty rfl).elim
  | cons raw rest =>
      obtain ⟨rawContinued, restContinued⟩ := List.forall_mem_cons.mp allContinued
      rw [run, feed_closed_of_continued rawContinued, run_opened_of_continued restContinued,
        ← fragments_append]
      rfl

/-- A complete group leaves nothing pending and is emitted as one statement. -/
theorem run_closed_of_complete
    {continued : List String} {last : String}
    (allContinued : ∀ line ∈ continued, IsContinued line)
    (lastPlain : ¬ IsContinued last)
    (count : Nat) :
    run closed count (continued ++ [last]) =
      (closed, [statement count (continued ++ [last])]) := by
  by_cases nonempty : continued = []
  · subst nonempty
    simp [run, feed_closed_of_plain lastPlain, statement, groupText, lastPlain]
  · have joined :
        groupText (continued ++ [last]) =
          String.intercalate " " (fragments (continued ++ [last])) := by
      apply groupText_of_continued
      intro raw single
      have lengths := congrArg List.length single
      simp [nonempty] at lengths
    rw [run_append, run_closed_of_continued nonempty allContinued]
    simp only [run, feed_opened_of_plain lastPlain, statement, joined, join,
      ← fragments_append, List.length_append, List.length_singleton, Nat.add_assoc]
    rfl

/-- From a state with nothing pending, the folder emits one statement a group. -/
theorem emittedFrom_of_grouped
    {lines : List String} {lineGroups : List (List String)}
    (grouped : Grouped lines lineGroups)
    (count : Nat) :
    emittedFrom closed count lines = numbered count lineGroups := by
  induction grouped generalizing count with
  | nil => rfl
  | @unfinished continued nonempty allContinued =>
      have joined : groupText continued = String.intercalate " " (fragments continued) :=
        groupText_of_continued fun raw single =>
          allContinued raw (by simp [single])
      simp [emittedFrom, run_closed_of_continued nonempty allContinued, finish, join,
        numbered, statement, joined]
  | @complete continued rest last _ allContinued lastPlain _ inductionHypothesis =>
      rw [List.append_cons, emittedFrom_append,
        run_closed_of_complete allContinued lastPlain, inductionHypothesis]
      rfl

theorem emitted_eq_statements (lines : List String) :
    emitted lines = statements lines :=
  emittedFrom_of_grouped (groups_grouped lines) 0

end Continuation

/-! ## Spans -/

namespace Folding

def spannedLines (line : LogicalLine) : List Nat :=
  List.range' line.startLine (line.endLine + 1 - line.startLine)

/-- Whether a statement is the one of a group: its text is that of the group, and it spans as many
lines. -/
structure IsStatementOf (group : List String) (line : LogicalLine) : Prop where
  text_eq : line.text = groupText group
  ordered : line.startLine ≤ line.endLine
  span_eq : line.endLine + 1 = line.startLine + group.length

theorem statement_isStatementOf
    {group : List String}
    (nonempty : group ≠ [])
    (count : Nat) :
    IsStatementOf group (statement count group) where
  text_eq := rfl
  ordered := by
    have positive : 0 < group.length := List.length_pos_of_ne_nil nonempty
    simp only [statement]
    omega
  span_eq := by
    simp only [statement]
    omega

theorem numbered_forall₂
    {lineGroups : List (List String)}
    (nonempty : ∀ group ∈ lineGroups, group ≠ [])
    (count : Nat) :
    List.Forall₂ IsStatementOf lineGroups (numbered count lineGroups) := by
  induction lineGroups generalizing count with
  | nil => exact .nil
  | cons group others inductionHypothesis =>
      obtain ⟨groupNonempty, othersNonempty⟩ := List.forall_mem_cons.mp nonempty
      exact .cons (statement_isStatementOf groupNonempty count)
        (inductionHypothesis othersNonempty _)

theorem spannedLines_numbered
    (count : Nat) (lineGroups : List (List String)) :
    (numbered count lineGroups).flatMap spannedLines =
      List.range' (count + 1) lineGroups.flatten.length := by
  induction lineGroups generalizing count with
  | nil => rfl
  | cons group others inductionHypothesis =>
      have own : spannedLines (statement count group) = List.range' (count + 1) group.length := by
        simp only [spannedLines, statement]
        congr 1
        omega
      rw [numbered, List.flatMap_cons, own, inductionHypothesis, List.flatten_cons,
        List.length_append, Nat.add_right_comm, List.range'_append_1]

theorem spannedLines_statements (lines : List String) :
    (statements lines).flatMap spannedLines = List.range' 1 lines.length := by
  rw [statements, spannedLines_numbered, (groups_grouped lines).flatten_eq]

theorem endLine_bounds_of_mem_numbered
    {lineGroups : List (List String)}
    (nonempty : ∀ group ∈ lineGroups, group ≠ [])
    {count : Nat} {line : LogicalLine}
    (member : line ∈ numbered count lineGroups) :
    count < line.endLine ∧ line.endLine ≤ count + lineGroups.flatten.length := by
  induction lineGroups generalizing count with
  | nil => exact nomatch member
  | cons group others inductionHypothesis =>
      obtain ⟨groupNonempty, othersNonempty⟩ := List.forall_mem_cons.mp nonempty
      have positive : 0 < group.length := List.length_pos_of_ne_nil groupNonempty
      rw [List.flatten_cons, List.length_append]
      rcases List.mem_cons.mp member with rfl | tailMember
      · simp only [statement]
        omega
      · have bounds := inductionHypothesis othersNonempty tailMember
        omega

theorem numbered_pairwise_endLine
    {lineGroups : List (List String)}
    (nonempty : ∀ group ∈ lineGroups, group ≠ [])
    (count : Nat) :
    (numbered count lineGroups).Pairwise fun earlier later =>
      earlier.endLine < later.endLine := by
  induction lineGroups generalizing count with
  | nil => exact .nil
  | cons group others inductionHypothesis =>
      have othersNonempty := (List.forall_mem_cons.mp nonempty).2
      refine .cons ?_ (inductionHypothesis othersNonempty _)
      intro later laterMember
      exact (endLine_bounds_of_mem_numbered othersNonempty laterMember).1

theorem statements_pairwise_endLine (lines : List String) :
    (statements lines).Pairwise fun earlier later => earlier.endLine < later.endLine :=
  numbered_pairwise_endLine (groups_grouped lines).ne_nil 0

theorem endLine_bounds_of_mem_statements
    {lines : List String} {line : LogicalLine}
    (member : line ∈ statements lines) :
    1 ≤ line.endLine ∧ line.endLine ≤ lines.length := by
  have bounds := endLine_bounds_of_mem_numbered (groups_grouped lines).ne_nil member
  rw [(groups_grouped lines).flatten_eq] at bounds
  omega

/-- The folder emits one statement for each group of lines, in order, and the statements span all
the lines without gap or overlap. -/
theorem emitted_exact (lines : List String) :
    ∃ lineGroups : List (List String),
      (∀ candidate, Grouped lines candidate ↔ candidate = lineGroups) ∧
        List.Forall₂ IsStatementOf lineGroups (Continuation.emitted lines) ∧
        (Continuation.emitted lines).flatMap spannedLines = List.range' 1 lines.length := by
  refine ⟨groups lines, fun candidate => grouped_iff, ?_, ?_⟩
  · rw [Continuation.emitted_eq_statements]
    exact numbered_forall₂ (groups_grouped lines).ne_nil 0
  · rw [Continuation.emitted_eq_statements]
    exact spannedLines_statements lines

end Folding

end ArchAudit
