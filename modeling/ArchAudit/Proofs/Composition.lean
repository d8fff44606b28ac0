import ArchAudit.Proofs.FileFindings
import ArchAudit.Proofs.Lines

/-!
# Scanning two texts one behind the other

Where the first of two texts ends together with a statement, nothing is carried into the second.
The findings about statements are then those of the first text and those of the second, moved down
by the number of lines of the first; the findings about the whole follow from what the two texts
match, taken together.
-/

namespace ArchAudit

/-! ## Lines of two texts -/

namespace Text

theorem Cut.pieces_append
    {α : Type} [DecidableEq α] {newline : α} {first : List α} {firstPieces : List (Piece α)}
    (cut : Cut newline first firstPieces)
    (endsLine : first = [] ∨ first.getLast? = some newline)
    (second : List α) :
    pieces newline (first ++ second) = firstPieces ++ pieces newline second := by
  induction cut with
  | nil => rfl
  | unfinished nonempty absent =>
      rcases endsLine with empty | last
      · exact absurd empty nonempty
      · exact absurd (List.mem_of_getLast? last) absent
  | @complete content rest _ absent _ inductionHypothesis =>
      have restEnds : rest = [] ∨ rest.getLast? = some newline := by
        cases rest with
        | nil => exact .inl rfl
        | cons c others => exact .inr (by simpa using endsLine)
      rw [List.append_assoc, List.cons_append, pieces_of_complete absent,
        inductionHypothesis restEnds, List.cons_append]

theorem lines_append
    {first : String}
    (endsLine : first = "" ∨ first.toList.getLast? = some '\n')
    (second : String) :
    lines (first ++ second) = lines first ++ lines second := by
  have listEnds : first.toList = [] ∨ first.toList.getLast? = some '\n' :=
    endsLine.imp_left fun empty => by rw [empty]; rfl
  rw [lines, String.toList_append, (pieces_cut '\n' first.toList).pieces_append listEnds,
    List.map_append, ← lines, ← lines]

end Text

/-! ## Statements of two lists of lines -/

/-- The statement, so many physical lines further down. -/
def LogicalLine.moveDown (count : Nat) (line : LogicalLine) : LogicalLine :=
  ⟨line.text, line.startLine + count, line.endLine + count⟩

namespace Folding

theorem Grouped.groups_append
    {first : List String} {firstGroups : List (List String)}
    (grouped : Grouped first firstGroups)
    (lastPlain : ∀ last ∈ first.getLast?, ¬ IsContinued last)
    (second : List String) :
    groups (first ++ second) = firstGroups ++ groups second := by
  induction grouped with
  | nil => rfl
  | @unfinished continued nonempty allContinued =>
      -- a statement left open would end in a continued line
      have last := List.getLast?_eq_some_getLast nonempty
      exact absurd (allContinued _ (List.getLast_mem nonempty)) (lastPlain _ last)
  | @complete continued rest last _ allContinued plain _ inductionHypothesis =>
      have restPlain : ∀ final ∈ rest.getLast?, ¬ IsContinued final := by
        intro final isFinal
        apply lastPlain final
        cases rest with
        | nil => exact nomatch isFinal
        | cons next others => simpa using isFinal
      rw [List.append_assoc, List.cons_append, groups_of_complete allContinued plain,
        inductionHypothesis restPlain, List.cons_append]

theorem numbered_append
    (count : Nat) (first second : List (List String)) :
    numbered count (first ++ second) =
      numbered count first ++ numbered (count + first.flatten.length) second := by
  induction first generalizing count with
  | nil => rfl
  | cons group others inductionHypothesis =>
      rw [List.cons_append, numbered, numbered, inductionHypothesis, List.flatten_cons,
        List.length_append, Nat.add_assoc, List.cons_append]

theorem numbered_moveDown
    (count earlier : Nat) (lineGroups : List (List String)) :
    numbered (earlier + count) lineGroups =
      (numbered earlier lineGroups).map (LogicalLine.moveDown count) := by
  induction lineGroups generalizing earlier with
  | nil => rfl
  | cons group others inductionHypothesis =>
      have own :
          statement (earlier + count) group = (statement earlier group).moveDown count := by
        simp only [statement, LogicalLine.moveDown, LogicalLine.mk.injEq, true_and]
        omega
      rw [numbered, numbered, List.map_cons, own, Nat.add_right_comm, inductionHypothesis]

/-- Where the first lines leave no statement open, the statements of the second lines are only moved
down. -/
theorem statements_append
    {first : List String}
    (lastPlain : ∀ last ∈ first.getLast?, ¬ IsContinued last)
    (second : List String) :
    statements (first ++ second) =
      statements first ++ (statements second).map (LogicalLine.moveDown first.length) := by
  rw [statements, (groups_grouped first).groups_append lastPlain, numbered_append,
    (groups_grouped first).flatten_eq, numbered_moveDown, ← statements, ← statements]

end Folding

namespace Scan

open Folding

theorem visible_map_moveDown (count : Nat) (lines : List LogicalLine) :
    visible (lines.map (LogicalLine.moveDown count)) =
      (visible lines).map (LogicalLine.moveDown count) :=
  List.filter_map

/-! ## Findings about statements -/

/-- The words for a place, and the words for the place so many lines further down. -/
inductive LocationMoved (count : Nat) : String → String → Prop
  | single (line : Nat) :
      LocationMoved count ("line " ++ toString line) ("line " ++ toString (line + count))
  | several (first last : Nat) :
      LocationMoved count
        ("lines " ++ toString first ++ "-" ++ toString last)
        ("lines " ++ toString (first + count) ++ "-" ++ toString (last + count))

/-- Whether two findings differ only in that the second stands so many lines further down: in its
line, in the lines that its place names, and in the line of its identifier. -/
structure MovedDown (count : Nat) (finding moved : Finding) : Prop where
  line_eq : moved.line = finding.line + count
  location : LocationMoved count finding.location moved.location
  id_eq : ∃ front : String,
    finding.id = front ++ ":" ++ toString finding.line ∧
      moved.id = front ++ ":" ++ toString (finding.line + count)
  others_eq :
    moved = { finding with id := moved.id, line := moved.line, location := moved.location }

theorem span_moveDown (count : Nat) (line : LogicalLine) :
    LocationMoved count line.span (line.moveDown count).span := by
  have sameFolded : (line.moveDown count).isFolded = line.isFolded := by
    simp [LogicalLine.isFolded, LogicalLine.moveDown]
  unfold LogicalLine.span
  rw [sameFolded]
  split
  · exact .several line.startLine line.endLine
  · exact .single line.startLine

theorem statementFindings_moveDown
    (vocabulary : Vocabulary) (filePath : String) (count : Nat) (line : LogicalLine) :
    List.Forall₂ (MovedDown count) (statementFindings vocabulary filePath line)
      (statementFindings vocabulary filePath (line.moveDown count)) := by
  unfold statementFindings
  rw [List.forall₂_map_left_iff, List.forall₂_map_right_iff]
  apply List.forall₂_same.mpr
  intro issue _
  have lineMoved : line.endLine + count + 1 = line.endLine + 1 + count := Nat.add_right_comm _ _ _
  exact {
    line_eq := lineMoved
    location := span_moveDown count line
    id_eq := ⟨issue.rule.id ++ "-" ++ filePath, rfl, by
      simp only [Finding.ofIssue, LogicalLine.moveDown, lineMoved]⟩
    others_eq := rfl }

theorem flatMap_statementFindings_moveDown
    (vocabulary : Vocabulary) (filePath : String) (count : Nat) (lines : List LogicalLine) :
    List.Forall₂ (MovedDown count)
      (lines.flatMap (statementFindings vocabulary filePath))
      ((lines.map (LogicalLine.moveDown count)).flatMap
        (statementFindings vocabulary filePath)) := by
  induction lines with
  | nil => exact .nil
  | cons line rest inductionHypothesis =>
      rw [List.map_cons, List.flatMap_cons, List.flatMap_cons]
      exact List.rel_append (statementFindings_moveDown vocabulary filePath count line)
        inductionHypothesis

/-! ## Findings about the whole -/

/-- Whether a statement of a text that is not blank passes a test. -/
def SomeStatement (test : String → Bool) (text : String) : Prop :=
  ∃ line ∈ statementsOf text, test line.text = true

theorem not_someStatement_iff (test : String → Bool) (text : String) :
    (¬ SomeStatement test text) ↔ ∀ line ∈ statementsOf text, test line.text = false := by
  simp [SomeStatement]

theorem lastBranch?_append_moveDown
    (vocabulary : Vocabulary) (count : Nat) (first second : List LogicalLine) :
    lastBranch? vocabulary (first ++ second.map (LogicalLine.moveDown count)) =
      ((lastBranch? vocabulary second).map (LogicalLine.moveDown count)).or
        (lastBranch? vocabulary first) := by
  have movedBranches :
      (second.map (LogicalLine.moveDown count)).filter
          (fun line => vocabulary.fires .otherCondition line.text) =
        (second.filter fun line => vocabulary.fires .otherCondition line.text).map
          (LogicalLine.moveDown count) :=
    List.filter_map
  simp only [lastBranch?, List.filter_append, movedBranches, List.getLast?_append,
    List.getLast?_map]

section Boundary

variable {first : String}
variable (endsLine : first = "" ∨ first.toList.getLast? = some '\n')
variable (lastPlain : ∀ last ∈ (Text.lines first).getLast?, ¬ IsContinued last)
variable (second : String)

include endsLine

theorem length_lines_append :
    (Text.lines (first ++ second)).length =
      (Text.lines first).length + (Text.lines second).length := by
  rw [Text.lines_append endsLine, List.length_append]

include lastPlain

theorem statementsOf_append :
    statementsOf (first ++ second) =
      statementsOf first ++
        (statementsOf second).map (LogicalLine.moveDown (Text.lines first).length) := by
  rw [statementsOf, Text.lines_append endsLine, statements_append lastPlain, visible_append,
    visible_map_moveDown, ← statementsOf, ← statementsOf]

theorem someStatement_append (test : String → Bool) :
    SomeStatement test (first ++ second) ↔
      SomeStatement test first ∨ SomeStatement test second := by
  unfold SomeStatement
  rw [statementsOf_append endsLine lastPlain]
  simp [or_and_right, exists_or, LogicalLine.moveDown]

/-! ## The scan of two texts -/

variable {vocabulary : Vocabulary} {table : Table}
variable (compiled : Table.compile vocabulary = .ok table)
variable (filePath : String)

include compiled

theorem immediate_append :
    ∃ moved,
      List.Forall₂ (MovedDown (Text.lines first).length)
          ((ofText table filePath second).filter isImmediate) moved ∧
        (ofText table filePath (first ++ second)).filter isImmediate =
          (ofText table filePath first).filter isImmediate ++ moved := by
  have immediate : ∀ text,
      (ofText table filePath text).filter isImmediate =
        (statementsOf text).flatMap (statementFindings vocabulary filePath) := by
    intro text
    rw [ofText_of_compile compiled, filter_isImmediate]
  have moves :=
    flatMap_statementFindings_moveDown vocabulary filePath (Text.lines first).length
      (statementsOf second)
  rw [immediate, immediate, immediate, statementsOf_append endsLine lastPlain,
    List.flatMap_append]
  exact ⟨_, moves, rfl⟩

theorem reports_condition_append_iff :
    withRule "A005" (ofText table filePath (first ++ second)) ≠ [] ↔
      (SomeStatement (vocabulary.fires .otherCondition) first ∨
        SomeStatement (vocabulary.fires .otherCondition) second) ∧
        ¬ SomeStatement vocabulary.knowsAarch64 first ∧
        ¬ SomeStatement vocabulary.knowsAarch64 second := by
  have together := someStatement_append endsLine lastPlain second
  rw [reports_condition_iff compiled, ← not_someStatement_iff, ← SomeStatement, together, together,
    not_or]

theorem condition_finding_append
    {finding : Finding}
    (member : finding ∈ withRule "A005" (ofText table filePath (first ++ second))) :
    withRule "A005" (ofText table filePath (first ++ second)) = [finding] ∧
      ∃ line,
        (lastBranch? vocabulary (statementsOf second)).or
            (lastBranch? vocabulary (statementsOf first)) = some line ∧
          finding =
            .ofIssue (.otherArchCondition line.text) filePath
              ((Text.lines first).length + (Text.lines second).length + 1)
              "end of file" (some (Text.trimmed line.text)) := by
  obtain ⟨single, line, last, findingEq⟩ := condition_finding_unique compiled filePath _ member
  refine ⟨single, ?_⟩
  rw [statementsOf_append endsLine lastPlain, lastBranch?_append_moveDown] at last
  rw [length_lines_append endsLine] at findingEq
  cases behind : lastBranch? vocabulary (statementsOf second) with
  | none =>
      rw [behind] at last
      exact ⟨line, last, findingEq⟩
  | some unmoved =>
      rw [behind] at last
      -- a statement that is moved down keeps its text
      have line_eq : unmoved.moveDown (Text.lines first).length = line := Option.some.inj last
      subst line_eq
      exact ⟨unmoved, rfl, findingEq⟩

theorem reports_tuning_append_iff :
    withRule "A004" (ofText table filePath (first ++ second)) ≠ [] ↔
      (SomeStatement (vocabulary.fires .neoverseTuning) first ∨
        SomeStatement (vocabulary.fires .neoverseTuning) second) ∧
        ¬ SomeStatement (vocabulary.fires .ampereOneTuning) first ∧
        ¬ SomeStatement (vocabulary.fires .ampereOneTuning) second := by
  have together := someStatement_append endsLine lastPlain second
  rw [reports_tuning_iff compiled, ← not_someStatement_iff, ← SomeStatement, together, together,
    not_or]

omit lastPlain in
theorem tuning_finding_append
    {finding : Finding}
    (member : finding ∈ withRule "A004" (ofText table filePath (first ++ second))) :
    withRule "A004" (ofText table filePath (first ++ second)) = [finding] ∧
      finding =
        .ofIssue (.counterpartTuningMissing .neoverse .ampereOne) filePath
          ((Text.lines first).length + (Text.lines second).length + 1) "end of file" none := by
  rw [← length_lines_append endsLine]
  exact tuning_finding_unique compiled filePath _ member

end Boundary

/-- The scan of two texts one behind the other, by the scans of each.  The first text is empty or
ends in a newline, and its last line is not continued. -/
theorem findings_append
    {vocabulary : Vocabulary} {table : Table}
    (compiled : Table.compile vocabulary = .ok table)
    (filePath : String) {first : String}
    (endsLine : first = "" ∨ first.toList.getLast? = some '\n')
    (lastPlain : ∀ last ∈ (Text.lines first).getLast?, ¬ IsContinued last)
    (second : String) :
    (∃ moved,
      List.Forall₂ (MovedDown (Text.lines first).length)
          ((ofText table filePath second).filter isImmediate) moved ∧
        (ofText table filePath (first ++ second)).filter isImmediate =
          (ofText table filePath first).filter isImmediate ++ moved) ∧
      (withRule "A005" (ofText table filePath (first ++ second)) ≠ [] ↔
        (SomeStatement (vocabulary.fires .otherCondition) first ∨
          SomeStatement (vocabulary.fires .otherCondition) second) ∧
          ¬ SomeStatement vocabulary.knowsAarch64 first ∧
          ¬ SomeStatement vocabulary.knowsAarch64 second) ∧
      (∀ finding ∈ withRule "A005" (ofText table filePath (first ++ second)),
        withRule "A005" (ofText table filePath (first ++ second)) = [finding] ∧
          ∃ line,
            (lastBranch? vocabulary (statementsOf second)).or
                (lastBranch? vocabulary (statementsOf first)) = some line ∧
              finding =
                .ofIssue (.otherArchCondition line.text) filePath
                  ((Text.lines first).length + (Text.lines second).length + 1)
                  "end of file" (some (Text.trimmed line.text))) ∧
      (withRule "A004" (ofText table filePath (first ++ second)) ≠ [] ↔
        (SomeStatement (vocabulary.fires .neoverseTuning) first ∨
          SomeStatement (vocabulary.fires .neoverseTuning) second) ∧
          ¬ SomeStatement (vocabulary.fires .ampereOneTuning) first ∧
          ¬ SomeStatement (vocabulary.fires .ampereOneTuning) second) ∧
      ∀ finding ∈ withRule "A004" (ofText table filePath (first ++ second)),
        withRule "A004" (ofText table filePath (first ++ second)) = [finding] ∧
          finding =
            .ofIssue (.counterpartTuningMissing .neoverse .ampereOne) filePath
              ((Text.lines first).length + (Text.lines second).length + 1)
              "end of file" none :=
  ⟨immediate_append endsLine lastPlain second compiled filePath,
    reports_condition_append_iff endsLine lastPlain second compiled filePath,
    fun _ => condition_finding_append endsLine lastPlain second compiled filePath,
    reports_tuning_append_iff endsLine lastPlain second compiled filePath,
    fun _ => tuning_finding_append endsLine second compiled filePath⟩

/-- A library in the first text, and a continued statement in the second that moves down by one
line. -/
theorem findings_append_sample :
    Table.compile sampleVocabulary = .ok sampleTable ∧
      "find_package(MKL)\n".toList.getLast? = some '\n' ∧
      (∀ last ∈ (Text.lines "find_package(MKL)\n").getLast?, ¬ IsContinued last) ∧
      (∃ moved,
        List.Forall₂ (MovedDown 1)
            ((ofText sampleTable "CMakeLists.txt" "options(-O2 \\\n -mavx2)").filter isImmediate)
            moved ∧
          moved.map Finding.id = ["A002-CMakeLists.txt:4"]) := by
  have endsLine : "find_package(MKL)\n".toList.getLast? = some '\n' := by decide +kernel
  have lastPlain :
      ∀ last ∈ (Text.lines "find_package(MKL)\n").getLast?, ¬ IsContinued last := by
    decide +kernel
  obtain ⟨moved, moves, foundEq⟩ :=
    (findings_append compile_sampleVocabulary "CMakeLists.txt" (.inr endsLine) lastPlain
      "options(-O2 \\\n -mavx2)").1
  refine ⟨compile_sampleVocabulary, endsLine, lastPlain, moved, moves, ?_⟩
  have found := congrArg (List.map Finding.id) foundEq
  rw [List.map_append] at found
  have firstIds :
      ((ofText sampleTable "CMakeLists.txt" "find_package(MKL)\n").filter isImmediate).map
        Finding.id = ["A001-CMakeLists.txt:2"] := by
    decide +kernel
  have allIds :
      ((ofText sampleTable "CMakeLists.txt"
        ("find_package(MKL)\n" ++ "options(-O2 \\\n -mavx2)")).filter isImmediate).map
          Finding.id = ["A001-CMakeLists.txt:2", "A002-CMakeLists.txt:4"] := by
    decide +kernel
  rw [firstIds, allIds] at found
  exact (List.cons.inj found).2.symm

end Scan

end ArchAudit
