import ArchAudit.Proofs.KeywordPlaces

/-!
# What the rows match

Four rows look for a word right behind a keyword, and two rows for a word further behind the
processor variable on the same line.  A row with keywords reports the longest word at the leftmost
place.  A row of conditions reports nothing, and what it matches is remembered about the file.
-/

namespace ArchAudit

/-! ## Rows of a vocabulary -/

namespace Classifier

theorem exclusive_lookupCommands : Exclusive lookupCommands := by
  unfold Exclusive
  decide

theorem exclusive_optionMark : Exclusive optionMark := by
  unfold Exclusive
  decide

theorem exclusive_tuningLeads : Exclusive tuningLeads := by
  unfold Exclusive
  decide

end Classifier

namespace Vocabulary

open Classifier

section Captures

variable {κ : Type} {keywords : List (κ × List Char)}

theorem not_standsAt_of_capture?_eq_none
    {vocabulary : Vocabulary} {row : Row} {text : String}
    (missed : vocabulary.capture? row keywords text = none)
    (place : Nat) (tag : κ) (word : String) :
    ¬ StandsAt keywords (vocabulary.words row.wordList) text place tag word := by
  have nowhere := Option.map_eq_none_iff.mp missed
  exact not_standsAt_of_keywordAt?_eq_none
    (keywordAt?_eq_none_of_keywordHit?_eq_none nowhere place) tag word

variable (exclusive : Exclusive keywords)
variable (vocabulary : Vocabulary) (row : Row) (text : String)

include exclusive

/-- A row captures the longest word at the leftmost place. -/
theorem capture?_eq_some_iff (tag : κ) (word : String) :
    vocabulary.capture? row keywords text = some (tag, word) ↔
      ∃ place, IsForemost keywords (vocabulary.words row.wordList) text place tag word := by
  constructor
  · intro captured
    obtain ⟨⟨ownTag, own⟩, found, pair_eq⟩ := Option.map_eq_some_iff.mp captured
    obtain ⟨rfl, rfl⟩ := Prod.mk.inj pair_eq
    exact isForemost_of_keywordHit?_eq_some exclusive found
  · rintro ⟨place, foremost⟩
    cases captured : vocabulary.capture? row keywords text with
    | none =>
        exact absurd foremost.stands (not_standsAt_of_capture?_eq_none captured place tag word)
    | some hit =>
        obtain ⟨own, found, rfl⟩ := Option.map_eq_some_iff.mp captured
        obtain ⟨ownPlace, ownForemost⟩ := isForemost_of_keywordHit?_eq_some exclusive found
        obtain ⟨tag_eq, word_eq⟩ := ownForemost.unique exclusive foremost
        rw [tag_eq, word_eq]

theorem isSome_capture?_iff :
    (vocabulary.capture? row keywords text).isSome = true ↔
      ∃ place tag word,
        StandsAt keywords (vocabulary.words row.wordList) text place tag word := by
  constructor
  · intro isSome
    obtain ⟨⟨tag, word⟩, captured⟩ := Option.isSome_iff_exists.mp isSome
    obtain ⟨place, foremost⟩ :=
      (capture?_eq_some_iff exclusive vocabulary row text tag word).mp captured
    exact ⟨place, tag, word, foremost.stands⟩
  · rintro ⟨place, tag, word, stands⟩
    rw [← Option.ne_none_iff_isSome]
    intro missed
    exact not_standsAt_of_capture?_eq_none missed place tag word stands

end Captures

theorem fires_library (vocabulary : Vocabulary) (text : String) :
    vocabulary.fires .library text =
      (vocabulary.capture? .library lookupCommands text).isSome := by
  rw [fires, signal?_library, Option.isSome_map]

theorem fires_buildOption (vocabulary : Vocabulary) (text : String) :
    vocabulary.fires .buildOption text =
      (vocabulary.capture? .buildOption optionMark text).isSome := by
  rw [fires, signal?_buildOption, Option.isSome_map]

theorem fires_neoverseTuning (vocabulary : Vocabulary) (text : String) :
    vocabulary.fires .neoverseTuning text =
      (vocabulary.capture? .neoverseTuning tuningLeads text).isSome := by
  rw [fires, signal?_neoverseTuning, Option.isSome_map]

theorem fires_ampereOneTuning (vocabulary : Vocabulary) (text : String) :
    vocabulary.fires .ampereOneTuning text =
      (vocabulary.capture? .ampereOneTuning tuningLeads text).isSome := by
  rw [fires, signal?_ampereOneTuning, Option.isSome_map]

theorem fires_iff_branchesOn
    {row : Row}
    (isCondition : row.wantsBoundary = false)
    (vocabulary : Vocabulary) (text : String) :
    vocabulary.fires row text = true ↔ BranchesOn (vocabulary.words row.wordList) text := by
  rw [← conditionHit_iff_branchesOn, ← rowWords]
  cases row with
  | library | buildOption | neoverseTuning | ampereOneTuning => cases isCondition
  | otherCondition => simp [fires, signal?, Classifier.signal?]
  | aarch64Condition => simp [fires, signal?, Classifier.signal?]

/-! ### Issues that are reported at once -/

/-- What a row reports about a text: an issue whenever one of its words stands behind one of its
keywords, and then the one of the foremost match. -/
structure ReportsForemost
    {κ : Type}
    (keywords : List (κ × List Char))
    (listed : List String)
    (text : String)
    (issue : κ → String → Issue)
    (issues : List Issue) :
    Prop where
  reports : ∀ place tag word,
    StandsAt keywords listed text place tag word → ∃ ownTag own, issue ownTag own ∈ issues
  mem_iff : ∀ tag word,
    issue tag word ∈ issues ↔ ∃ place, IsForemost keywords listed text place tag word

theorem reportsForemost_of_mem_iff
    {κ : Type} {keywords : List (κ × List Char)}
    (exclusive : Exclusive keywords)
    {vocabulary : Vocabulary} {row : Row} {text : String}
    {issue : κ → String → Issue} {issues : List Issue}
    (mem_iff : ∀ tag word,
      issue tag word ∈ issues ↔ vocabulary.capture? row keywords text = some (tag, word)) :
    ReportsForemost keywords (vocabulary.words row.wordList) text issue issues where
  reports place tag word stands := by
    have isSome :=
      (isSome_capture?_iff exclusive vocabulary row text).mpr ⟨place, tag, word, stands⟩
    obtain ⟨⟨ownTag, own⟩, captured⟩ := Option.isSome_iff_exists.mp isSome
    exact ⟨ownTag, own, (mem_iff ownTag own).mpr captured⟩
  mem_iff tag word := by
    rw [mem_iff]
    exact capture?_eq_some_iff exclusive vocabulary row text tag word

theorem library_mem_reportedIssues_iff
    (vocabulary : Vocabulary) (text : String) (tag : Unit) (name : String) :
    .archSpecificLibrary name ∈ vocabulary.reportedIssues text ↔
      vocabulary.capture? .library lookupCommands text = some (tag, name) := by
  simp [reportedIssues, rowIssues, Unique.exists_iff]

theorem buildOption_mem_reportedIssues_iff
    (vocabulary : Vocabulary) (text : String) (tag : Unit) (name : String) :
    .archSpecificBuildOption name ∈ vocabulary.reportedIssues text ↔
      vocabulary.capture? .buildOption optionMark text = some (tag, name) := by
  simp [reportedIssues, rowIssues, Unique.exists_iff]

theorem tuningFlag_mem_reportedIssues_iff
    (vocabulary : Vocabulary) (text : String) (flag : TuningFlag) (core : String) :
    .vendorTuningFlag .neoverse flag.name core ∈ vocabulary.reportedIssues text ↔
      vocabulary.capture? .neoverseTuning tuningLeads text = some (flag, core) := by
  have name_inj : ∀ other : TuningFlag, other.name = flag.name ↔ other = flag := by
    cases flag <;> rintro (_ | _) <;> decide
  simp [reportedIssues, rowIssues, name_inj]

end Vocabulary

namespace Table

open Classifier Vocabulary

/-- The rows with keywords match where a keyword stands with a word of the row right behind it and
the word ends at a word boundary.  What is reported is the longest such word at the leftmost such
place, and for a tuning flag also which flag stands there.  The row for AmpereOne reports nothing,
and its match is noted in the evidence. -/
theorem keyword_rows_exact (vocabulary : Vocabulary) (text : String) :
    (vocabulary.fires .library text = true ↔
        ∃ place tag word,
          StandsAt [((), "find_package(".toList), ((), "find_library(".toList)]
            vocabulary.libraries text place tag word) ∧
      (vocabulary.fires .buildOption text = true ↔
        ∃ place tag word,
          StandsAt [((), "-m".toList)] vocabulary.buildOptions text place tag word) ∧
      (vocabulary.fires .neoverseTuning text = true ↔
        ∃ place tag word,
          StandsAt [(TuningFlag.cpu, "-mcpu=".toList), (.tune, "-mtune=".toList)]
            vocabulary.neoverseCores text place tag word) ∧
      (vocabulary.fires .ampereOneTuning text = true ↔
        ∃ place tag word,
          StandsAt [(TuningFlag.cpu, "-mcpu=".toList), (.tune, "-mtune=".toList)]
            vocabulary.ampereOneCores text place tag word) ∧
      ∀ table, compile vocabulary = .ok table →
        ∀ line evidence, line.text = text →
          ReportsForemost [((), "find_package(".toList), ((), "find_library(".toList)]
              vocabulary.libraries text (fun _ name => .archSpecificLibrary name)
              (table.classify line evidence).2 ∧
            ReportsForemost [((), "-m".toList)]
              vocabulary.buildOptions text (fun _ name => .archSpecificBuildOption name)
              (table.classify line evidence).2 ∧
            ReportsForemost [(TuningFlag.cpu, "-mcpu=".toList), (.tune, "-mtune=".toList)]
              vocabulary.neoverseCores text
              (fun flag core => .vendorTuningFlag .neoverse flag.name core)
              (table.classify line evidence).2 ∧
            ((table.classify line evidence).1.ampereOne = true ↔
              evidence.ampereOne = true ∨ vocabulary.fires .ampereOneTuning text = true) := by
  refine ⟨?_, ?_, ?_, ?_, ?_⟩
  · rw [fires_library]
    exact isSome_capture?_iff exclusive_lookupCommands vocabulary .library text
  · rw [fires_buildOption]
    exact isSome_capture?_iff exclusive_optionMark vocabulary .buildOption text
  · rw [fires_neoverseTuning]
    exact isSome_capture?_iff exclusive_tuningLeads vocabulary .neoverseTuning text
  · rw [fires_ampereOneTuning]
    exact isSome_capture?_iff exclusive_tuningLeads vocabulary .ampereOneTuning text
  · rintro table compiled line evidence rfl
    rw [classify_of_compile compiled]
    refine ⟨?_, ?_, ?_, ?_⟩
    · exact reportsForemost_of_mem_iff exclusive_lookupCommands
        (library_mem_reportedIssues_iff vocabulary line.text)
    · exact reportsForemost_of_mem_iff exclusive_optionMark
        (buildOption_mem_reportedIssues_iff vocabulary line.text)
    · exact reportsForemost_of_mem_iff exclusive_tuningLeads
        (tuningFlag_mem_reportedIssues_iff vocabulary line.text)
    · simp only [Evidence.gather, Bool.or_eq_true]

def overlappingVocabulary : Vocabulary where
  aarch64Processors := []
  otherProcessors := []
  libraries := []
  buildOptions := ["a", "a.b"]
  neoverseCores := []
  ampereOneCores := []

def overlappingTable : Table :=
  [⟨.buildOption, ["a.b", "a"]⟩]

theorem compile_overlappingVocabulary :
    compile overlappingVocabulary = .ok overlappingTable := by
  cbv

def overlappingLine : LogicalLine :=
  ⟨"options(-ma.bc -ma.b)", 1, 1⟩

/-- At the first mark the longer option does not end at a boundary, and the shorter one does. -/
theorem keyword_rows_exact_overlapping :
    compile overlappingVocabulary = .ok overlappingTable ∧
      .archSpecificBuildOption "a" ∈ (overlappingTable.classify overlappingLine .empty).2 ∧
      ∃ place,
        IsForemost [((), "-m".toList)] ["a", "a.b"] overlappingLine.text place () "a" := by
  have reported :
      .archSpecificBuildOption "a" ∈ (overlappingTable.classify overlappingLine .empty).2 := by
    decide +kernel
  obtain ⟨_, _, _, _, reports⟩ := keyword_rows_exact overlappingVocabulary overlappingLine.text
  obtain ⟨_, options, _⟩ :=
    reports overlappingTable compile_overlappingVocabulary overlappingLine .empty rfl
  exact ⟨compile_overlappingVocabulary, reported, (options.mem_iff () "a").mp reported⟩

end Table

end ArchAudit
