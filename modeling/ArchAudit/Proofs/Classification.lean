import ArchAudit.Classifier.Table
import Mathlib.Data.List.Induction

/-!
# What a compiled table does with a statement

A table that was compiled from a vocabulary acts on a statement as its six rows do, each on its own:
three rows report what they capture, and four rows add to the evidence about the file.  A row
without words is left out of the table, and it would find nothing if it were there.
-/

namespace ArchAudit

/-! ## Rows without words -/

namespace Classifier

theorem keywordAt?_nil
    {κ : Type} (keywords : List (κ × List Char)) (text : List Char) :
    keywordAt? keywords [] text = none := by
  simp [keywordAt?, wordAt?]

theorem keywordHit?_nil
    {κ : Type} (keywords : List (κ × List Char)) (text : List Char) :
    keywordHit? keywords [] text = none := by
  induction text with
  | nil => rw [keywordHit?, keywordAt?_nil]
  | cons c rest inductionHypothesis =>
      rw [keywordHit?, keywordAt?_nil]
      exact inductionHypothesis

theorem reachesWord_nil (text : List Char) :
    reachesWord [] text = false := by
  induction text with
  | nil => rfl
  | cons c rest inductionHypothesis => simp [reachesWord, inductionHypothesis]

theorem conditionHit_nil (keyword text : List Char) :
    conditionHit keyword [] text = false := by
  have nothing : reachesWord [] = fun _ => false := funext reachesWord_nil
  induction text with
  | nil => simp [conditionHit, nothing]
  | cons c rest inductionHypothesis => simp [conditionHit, nothing, inductionHypothesis]

theorem signal?_nil (row : Row) (text : String) :
    signal? ⟨row, []⟩ text = none := by
  cases row <;> simp [signal?, keywordHit?_nil, conditionHit_nil]

end Classifier

/-! ## Rows of a vocabulary -/

namespace Vocabulary

def rowWords (vocabulary : Vocabulary) (row : Row) : List String :=
  Classifier.orderedWords (vocabulary.words row.wordList)

/-- What a row finds in a text. -/
def signal? (vocabulary : Vocabulary) (row : Row) (text : String) : Option Signal :=
  Classifier.signal? ⟨row, vocabulary.rowWords row⟩ text

/-- Whether a row matches a text. -/
def fires (vocabulary : Vocabulary) (row : Row) (text : String) : Bool :=
  (vocabulary.signal? row text).isSome

/-- Whether a text shows that its file knows about AArch64. -/
def knowsAarch64 (vocabulary : Vocabulary) (text : String) : Bool :=
  vocabulary.fires .neoverseTuning text || vocabulary.fires .ampereOneTuning text
    || vocabulary.fires .aarch64Condition text

/-- What a row captures in a text: which of its keywords stands there, and the word behind it. -/
def capture?
    {κ : Type}
    (vocabulary : Vocabulary)
    (row : Row)
    (keywords : List (κ × List Char))
    (text : String) :
    Option (κ × String) :=
  (Classifier.keywordHit? keywords ((vocabulary.rowWords row).map String.toList)
      text.toList).map fun hit =>
    (hit.1, String.ofList hit.2)

/-- The issues that one row reports about a text.  Three rows report what they capture, at most one
issue each. -/
def rowIssues (vocabulary : Vocabulary) (text : String) : Row → List Issue
  | .library =>
      (vocabulary.capture? .library Classifier.lookupCommands text).toList.map fun hit =>
        .archSpecificLibrary hit.2
  | .buildOption =>
      (vocabulary.capture? .buildOption Classifier.optionMark text).toList.map fun hit =>
        .archSpecificBuildOption hit.2
  | .neoverseTuning =>
      (vocabulary.capture? .neoverseTuning Classifier.tuningLeads text).toList.map fun hit =>
        .vendorTuningFlag .neoverse hit.1.name hit.2
  | .ampereOneTuning | .otherCondition | .aarch64Condition => []

/-- The issues that a text raises at once: a library, then a build option, then a tuning flag. -/
def reportedIssues (vocabulary : Vocabulary) (text : String) : List Issue :=
  vocabulary.rowIssues text .library ++ vocabulary.rowIssues text .buildOption
    ++ vocabulary.rowIssues text .neoverseTuning

theorem signal?_library (vocabulary : Vocabulary) (text : String) :
    vocabulary.signal? .library text =
      (vocabulary.capture? .library Classifier.lookupCommands text).map fun hit =>
        .library hit.2 := by
  simp [signal?, capture?, Classifier.signal?, Function.comp_def]

theorem signal?_buildOption (vocabulary : Vocabulary) (text : String) :
    vocabulary.signal? .buildOption text =
      (vocabulary.capture? .buildOption Classifier.optionMark text).map fun hit =>
        .buildOption hit.2 := by
  simp [signal?, capture?, Classifier.signal?, Function.comp_def]

theorem signal?_neoverseTuning (vocabulary : Vocabulary) (text : String) :
    vocabulary.signal? .neoverseTuning text =
      (vocabulary.capture? .neoverseTuning Classifier.tuningLeads text).map fun hit =>
        .tuning .neoverse hit.1 hit.2 := by
  simp [signal?, capture?, Classifier.signal?, Function.comp_def]

theorem signal?_ampereOneTuning (vocabulary : Vocabulary) (text : String) :
    vocabulary.signal? .ampereOneTuning text =
      (vocabulary.capture? .ampereOneTuning Classifier.tuningLeads text).map fun hit =>
        .tuning .ampereOne hit.1 hit.2 := by
  simp [signal?, capture?, Classifier.signal?, Function.comp_def]

theorem signal?_otherCondition (vocabulary : Vocabulary) (text : String) :
    vocabulary.signal? .otherCondition text =
      if vocabulary.fires .otherCondition text then some .otherCondition else none := by
  simp only [fires, signal?, Classifier.signal?]
  split <;> simp

theorem signal?_aarch64Condition (vocabulary : Vocabulary) (text : String) :
    vocabulary.signal? .aarch64Condition text =
      if vocabulary.fires .aarch64Condition text then some .aarch64Condition else none := by
  simp only [fires, signal?, Classifier.signal?]
  split <;> simp

end Vocabulary

/-! ## Compiled tables -/

namespace Table

theorem compileRow_ok
    {vocabulary : Vocabulary} {row : Row} {classifier : Option Classifier}
    (compiled : compileRow vocabulary row = .ok classifier) :
    (vocabulary.rowWords row = [] ∧ classifier = none) ∨
      classifier = some ⟨row, vocabulary.rowWords row⟩ := by
  change
    (if (vocabulary.rowWords row).isEmpty then .ok none
      else if Classifier.fits (vocabulary.rowWords row) then
        .ok (some ⟨row, vocabulary.rowWords row⟩)
      else .error ⟨row⟩) =
      (.ok classifier : Except PatternTooLarge (Option Classifier)) at compiled
  split at compiled
  · rename_i wordless
    cases compiled
    exact .inl ⟨List.isEmpty_iff.mp wordless, rfl⟩
  · split at compiled
    · cases compiled
      exact .inr rfl
    · cases compiled

theorem signals_of_compileRow
    {vocabulary : Vocabulary} {row : Row} {classifier : Option Classifier}
    (compiled : compileRow vocabulary row = .ok classifier)
    (text : String) :
    signals classifier.toList text = (vocabulary.signal? row text).toList := by
  rcases compileRow_ok compiled with ⟨wordless, rfl⟩ | rfl
  · rw [Vocabulary.signal?, wordless, Classifier.signal?_nil]
    rfl
  · rw [Vocabulary.signal?]
    cases found : Classifier.signal? ⟨row, vocabulary.rowWords row⟩ text with
    | none => simp [signals, found]
    | some signal => simp [signals, found]

theorem signals_of_compileRows
    {vocabulary : Vocabulary} {rows : List Row} {table : Table}
    (compiled : compileRows vocabulary rows = .ok table)
    (text : String) :
    table.signals text = rows.flatMap fun row => (vocabulary.signal? row text).toList := by
  induction rows generalizing table with
  | nil =>
      cases compiled
      rfl
  | cons row rows inductionHypothesis =>
      rw [compileRows] at compiled
      cases first : compileRow vocabulary row with
      | error tooLarge => simp [first] at compiled
      | ok classifier =>
          cases later : compileRows vocabulary rows with
          | error tooLarge => simp [first, later] at compiled
          | ok others =>
              have table_eq : table = classifier.toList ++ others := by
                simpa [first, later] using compiled.symm
              rw [table_eq, signals, List.filterMap_append, ← signals, ← signals,
                signals_of_compileRow first, inductionHypothesis later, List.flatMap_cons]

theorem signals_of_compile
    {vocabulary : Vocabulary} {table : Table}
    (compiled : compile vocabulary = .ok table)
    (text : String) :
    table.signals text = Row.all.flatMap fun row => (vocabulary.signal? row text).toList :=
  signals_of_compileRows compiled text

end Table

/-! ## Evidence of a statement -/

namespace Evidence

def afterRow
    (vocabulary : Vocabulary)
    (line : LogicalLine)
    (evidence : Evidence) :
    Row → Evidence
  | .library | .buildOption => evidence
  | .neoverseTuning =>
      if vocabulary.fires .neoverseTuning line.text then evidence.markTuning .neoverse
      else evidence
  | .ampereOneTuning =>
      if vocabulary.fires .ampereOneTuning line.text then evidence.markTuning .ampereOne
      else evidence
  | .otherCondition =>
      if vocabulary.fires .otherCondition line.text then
        evidence.recordOtherCondition line.text
      else evidence
  | .aarch64Condition =>
      if vocabulary.fires .aarch64Condition line.text then evidence.markAarch64
      else evidence

/-- The evidence after a statement, field by field. -/
def gather
    (vocabulary : Vocabulary)
    (evidence : Evidence)
    (line : LogicalLine) :
    Evidence where
  otherCondition :=
    if vocabulary.fires .otherCondition line.text then some line.text
    else evidence.otherCondition
  aarch64 := evidence.aarch64 || vocabulary.knowsAarch64 line.text
  neoverse := evidence.neoverse || vocabulary.fires .neoverseTuning line.text
  ampereOne := evidence.ampereOne || vocabulary.fires .ampereOneTuning line.text

/-- Only whether a row matches counts for the evidence, not what it captures. -/
theorem foldl_note_signal
    (vocabulary : Vocabulary) (line : LogicalLine) (evidence : Evidence) (row : Row) :
    (vocabulary.signal? row line.text).toList.foldl (note line) evidence =
      evidence.afterRow vocabulary line row := by
  cases row with
  | library =>
      rw [Vocabulary.signal?_library]
      cases vocabulary.capture? .library Classifier.lookupCommands line.text <;> rfl
  | buildOption =>
      rw [Vocabulary.signal?_buildOption]
      cases vocabulary.capture? .buildOption Classifier.optionMark line.text <;> rfl
  | neoverseTuning =>
      rw [afterRow, Vocabulary.fires, Vocabulary.signal?_neoverseTuning]
      cases vocabulary.capture? .neoverseTuning Classifier.tuningLeads line.text <;> rfl
  | ampereOneTuning =>
      rw [afterRow, Vocabulary.fires, Vocabulary.signal?_ampereOneTuning]
      cases vocabulary.capture? .ampereOneTuning Classifier.tuningLeads line.text <;> rfl
  | otherCondition =>
      rw [afterRow, Vocabulary.signal?_otherCondition]
      cases vocabulary.fires .otherCondition line.text <;> rfl
  | aarch64Condition =>
      rw [afterRow, Vocabulary.signal?_aarch64Condition]
      cases vocabulary.fires .aarch64Condition line.text <;> rfl

theorem foldl_afterRow
    (vocabulary : Vocabulary) (line : LogicalLine) (evidence : Evidence) :
    Row.all.foldl (afterRow vocabulary line) evidence = evidence.gather vocabulary line := by
  simp only [Row.all, List.foldl_cons, List.foldl_nil, afterRow, gather, Vocabulary.knowsAarch64]
  cases vocabulary.fires .neoverseTuning line.text <;>
    cases vocabulary.fires .ampereOneTuning line.text <;>
    cases vocabulary.fires .otherCondition line.text <;>
    cases vocabulary.fires .aarch64Condition line.text <;>
    simp [markTuning, recordOtherCondition, markAarch64]

/-! ### Several statements -/

/-- A flag that every statement can only set is set after some statements if it was set before or
one of them sets it. -/
theorem foldl_gather_flag
    {vocabulary : Vocabulary}
    (flag : Evidence → Bool) (shows : String → Bool)
    (step : ∀ evidence line,
      flag (gather vocabulary evidence line) = (flag evidence || shows line.text))
    (evidence : Evidence) (lines : List LogicalLine) :
    flag (lines.foldl (gather vocabulary) evidence) =
      (flag evidence || lines.any fun line => shows line.text) := by
  induction lines generalizing evidence with
  | nil => simp
  | cons line rest inductionHypothesis =>
      rw [List.foldl_cons, inductionHypothesis, step, List.any_cons, Bool.or_assoc]

theorem foldl_gather_otherCondition
    (vocabulary : Vocabulary) (evidence : Evidence) (lines : List LogicalLine) :
    (lines.foldl (gather vocabulary) evidence).otherCondition =
      ((lines.filter fun line =>
          vocabulary.fires .otherCondition line.text).getLast?.map LogicalLine.text).or
        evidence.otherCondition := by
  induction lines using List.reverseRecOn with
  | nil => rfl
  | append_singleton initial last inductionHypothesis =>
      rw [List.foldl_append, List.filter_append]
      by_cases matched : vocabulary.fires .otherCondition last.text = true
      · simp [gather, matched]
      · simp [gather, matched, inductionHypothesis]

end Evidence

/-! ## Issues of a statement -/

namespace Vocabulary

theorem filterMap_issue?_signal
    (vocabulary : Vocabulary) (text : String) (row : Row) :
    (vocabulary.signal? row text).toList.filterMap Signal.issue? =
      vocabulary.rowIssues text row := by
  cases row with
  | library =>
      rw [signal?_library, rowIssues]
      cases vocabulary.capture? .library Classifier.lookupCommands text <;> rfl
  | buildOption =>
      rw [signal?_buildOption, rowIssues]
      cases vocabulary.capture? .buildOption Classifier.optionMark text <;> rfl
  | neoverseTuning =>
      rw [signal?_neoverseTuning, rowIssues]
      cases vocabulary.capture? .neoverseTuning Classifier.tuningLeads text <;> rfl
  | ampereOneTuning =>
      rw [signal?_ampereOneTuning, rowIssues]
      cases vocabulary.capture? .ampereOneTuning Classifier.tuningLeads text <;> rfl
  | otherCondition =>
      rw [signal?_otherCondition, rowIssues]
      cases vocabulary.fires .otherCondition text <;> rfl
  | aarch64Condition =>
      rw [signal?_aarch64Condition, rowIssues]
      cases vocabulary.fires .aarch64Condition text <;> rfl

theorem flatMap_rowIssues (vocabulary : Vocabulary) (text : String) :
    Row.all.flatMap (vocabulary.rowIssues text) = vocabulary.reportedIssues text := by
  simp [Row.all, rowIssues, reportedIssues]

end Vocabulary

namespace Table

/-- What a compiled table does with a statement: it adds to the evidence what the rows match, and
it reports what the reporting rows capture. -/
theorem classify_of_compile
    {vocabulary : Vocabulary} {table : Table}
    (compiled : compile vocabulary = .ok table)
    (line : LogicalLine) (evidence : Evidence) :
    table.classify line evidence =
      (evidence.gather vocabulary line, vocabulary.reportedIssues line.text) := by
  unfold classify
  rw [signals_of_compile compiled, List.foldl_flatMap, List.filterMap_flatMap]
  simp only [Evidence.foldl_note_signal, Vocabulary.filterMap_issue?_signal]
  rw [Evidence.foldl_afterRow, Vocabulary.flatMap_rowIssues]

end Table

end ArchAudit
