import ArchAudit.Proofs.OptionWords
import ArchAudit.Proofs.Splitting

/-!
# Spellings of a scan command

The options of a scan can be written in any order, a value in the word of its option or in a word of
its own, and a list of rules in one piece or in many.  Every such spelling is read as the command
that it spells, and an option that may be given once only is refused when it is given again.
-/

namespace ArchAudit.Arguments

/-! ## Settings and their spellings -/

/-- The settings that a command line can give: paths of files are not empty, and commas separate the
rules of a list. -/
structure Spellable (options : ScanOptions) : Prop where
  path : options.path ≠ ""
  output : ∀ file ∈ options.output, file ≠ ""
  vocabulary : ∀ file ∈ options.vocabulary, file ≠ ""
  exclude : ∀ id ∈ options.exclude, ',' ∉ id.toList
  only : ∀ id ∈ options.only, ',' ∉ id.toList

/-- The values of a parameter, each on its own. -/
def settingValues (options : ScanOptions) : Parameter → List String
  | .path => [options.path]
  | .noRecursive => if options.noRecursive then [""] else []
  | .format => [options.format.name]
  | .output => options.output.toList
  | .severity => options.severity.toList
  | .exclude => options.exclude
  | .only => options.only
  | .vocabulary => options.vocabulary.toList
  | .ignore => options.ignore

/-- Values that are made from the items of a list, in their order: each one from some items with
commas between them. -/
def IsGrouping (items values : List String) : Prop :=
  ∃ groups : List (List String),
    (∀ group ∈ groups, group ≠ []) ∧
      groups.flatten = items ∧ values = groups.map fun group => ",".intercalate group

/-- Whether values give a parameter as it is set.  Rules can be grouped, and the form of a report
for the terminal need not be named. -/
def IsGivenBy (options : ScanOptions) (parameter : Parameter) (values : List String) : Prop :=
  match parameter with
  | .exclude | .only => IsGrouping (settingValues options parameter) values
  | .format =>
    values = settingValues options parameter ∨ values = [] ∧ options.format = .terminal
  | _ => values = settingValues options parameter

/-- Options, in some order, that give all settings but the path. -/
structure Spells (occurrences : List Occurrence) (options : ScanOptions) : Prop where
  readable : ∀ occurrence ∈ occurrences, occurrence.Readable
  given :
    ∀ parameter, parameter ≠ .path →
      IsGivenBy options parameter (valuesOf occurrences parameter)

/-- The words of a scan: the options, and the path behind two dashes. -/
def scanWords (occurrences : List Occurrence) (path : String) : List String :=
  "scan" :: (occurrences.flatMap Occurrence.words ++ ["--", path])

theorem IsGrouping.flatMap_splitText
    {items values : List String}
    (grouping : IsGrouping items values)
    (commaFree : ∀ item ∈ items, ',' ∉ item.toList) :
    values.flatMap (Text.splitText ',') = items := by
  obtain ⟨groups, nonempty, rfl, rfl⟩ := grouping
  have split :
      ∀ group ∈ groups, Text.splitText ',' (",".intercalate group) = group := by
    intro group member
    refine Text.splitText_intercalate (by decide) (nonempty group member) ?_
    intro item itemMember
    exact commaFree item (List.mem_flatten_of_mem member itemMember)
  rw [List.flatMap_map, List.flatMap_def, List.map_congr_left split, List.map_id']

theorem isGrouping_self (items : List String) : IsGrouping items items := by
  refine ⟨items.map fun item => [item], ?_, ?_, ?_⟩
  · intro group member
    obtain ⟨item, _, rfl⟩ := List.mem_map.mp member
    exact List.cons_ne_nil item []
  · rw [← List.flatMap_def, List.flatMap_singleton']
  · rw [List.map_map]
    exact (List.map_id' items).symm

theorem isGivenBy_settingValues (options : ScanOptions) (parameter : Parameter) :
    IsGivenBy options parameter (settingValues options parameter) := by
  cases parameter with
  | exclude | only => exact isGrouping_self _
  | format => exact .inl rfl
  | path | noRecursive | output | severity | vocabulary | ignore => rfl

theorem IsGivenBy.length_le_one
    {options : ScanOptions} {parameter : Parameter} {values : List String}
    (given : IsGivenBy options parameter values)
    (single : parameter.isRepeatable = false) :
    values.length ≤ 1 := by
  cases parameter with
  | exclude | only | ignore => cases single
  | format =>
      rcases given with rfl | ⟨rfl, _⟩
      · exact Nat.le_refl 1
      · exact Nat.zero_le 1
  | path =>
      rw [given]
      exact Nat.le_refl 1
  | noRecursive =>
      rw [given, settingValues]
      split <;> simp
  | output | severity | vocabulary =>
      rw [given, settingValues]
      exact Option.length_toList_le

theorem isValidValue_formatName (format : OutputFormat) :
    isValidValue .format format.name = true := by
  cases format <;> decide

theorem IsGivenBy.isValidValue
    {options : ScanOptions} {parameter : Parameter} {values : List String} {value : String}
    (given : IsGivenBy options parameter values)
    (spellable : Spellable options)
    (member : value ∈ values) :
    isValidValue parameter value = true := by
  cases parameter with
  | exclude | only | ignore | noRecursive | severity => rfl
  | format =>
      rcases given with rfl | ⟨rfl, _⟩
      · rw [List.mem_singleton.mp member]
        exact isValidValue_formatName options.format
      · cases member
  | path =>
      rw [given] at member
      rw [List.mem_singleton.mp member]
      exact decide_eq_true spellable.path
  | output =>
      rw [given] at member
      exact decide_eq_true (spellable.output value (Option.mem_toList.mp member))
  | vocabulary =>
      rw [given] at member
      exact decide_eq_true (spellable.vocabulary value (Option.mem_toList.mp member))

/-- A command that is given all settings has them. -/
theorem scanOptions_eq_ok
    {options : ScanOptions} {draft : Draft}
    (spellable : Spellable options)
    (given : ∀ parameter, IsGivenBy options parameter (draft.values parameter)) :
    scanOptions draft = .ok options := by
  have path : draft.values .path = [options.path] := given .path
  have noRecursive : draft.has .noRecursive = options.noRecursive := by
    have values := given .noRecursive
    cases isSet : options.noRecursive with
    | false =>
        rw [Draft.has_eq_false_iff, values]
        simp [settingValues, isSet]
    | true =>
        rw [← Bool.not_eq_false, Draft.has_eq_false_iff, values]
        simp [settingValues, isSet]
  have format :
      ((draft.values .format).head?.bind OutputFormat.ofName?).getD .terminal =
        options.format := by
    rcases given .format with named | ⟨unnamed, isTerminal⟩
    · rw [named, settingValues]
      cases options.format <;> decide
    · rw [unnamed, isTerminal]
      rfl
  have output : draft.values .output = options.output.toList := given .output
  have severity : draft.values .severity = options.severity.toList := given .severity
  have exclude := IsGrouping.flatMap_splitText (given .exclude) spellable.exclude
  have only := IsGrouping.flatMap_splitText (given .only) spellable.only
  have vocabulary : draft.values .vocabulary = options.vocabulary.toList := given .vocabulary
  have ignore : draft.values .ignore = options.ignore := given .ignore
  simp only [scanOptions, path, noRecursive, format, output, severity, exclude, only, vocabulary,
    ignore, List.head?_cons, Option.head?_toList]
  rfl

/-! ## Reading a spelling -/

namespace Spells

variable {occurrences : List Occurrence} {options : ScanOptions}

theorem isGivenBy
    (spells : Spells occurrences options)
    {occurrence : Occurrence}
    (member : occurrence ∈ occurrences) :
    IsGivenBy options occurrence.parameter (valuesOf occurrences occurrence.parameter) :=
  spells.given occurrence.parameter (spells.readable occurrence member).isOption

theorem pathless (spells : Spells occurrences options) :
    (draftOf occurrences).has .path = false := by
  rw [Draft.has_eq_false_iff, values_draftOf, valuesOf_path spells.readable]

theorem length_valuesOf_le_one
    (spells : Spells occurrences options)
    {parameter : Parameter}
    (single : parameter.isRepeatable = false) :
    (valuesOf occurrences parameter).length ≤ 1 := by
  by_cases isPath : parameter = .path
  · rw [isPath, valuesOf_path spells.readable]
    exact Nat.zero_le 1
  · exact (spells.given parameter isPath).length_le_one single

theorem readWords_eq
    (spells : Spells occurrences options)
    (spellable : Spellable options)
    (rest : List String) :
    ∃ later,
      readWords .scan .empty (occurrences.flatMap Occurrence.words ++ rest) =
          readWords .scan later rest ∧
        settle later = .ok (draftOf occurrences) :=
  readWords_occurrences spells.readable
    (fun _ member => (spells.isGivenBy member).isValidValue spellable (mem_valuesOf member))
    (fun _ single => spells.length_valuesOf_le_one single) rest

theorem isGivenBy_values
    (spells : Spells occurrences options)
    (parameter : Parameter) :
    IsGivenBy options parameter
      (Draft.values ⟨(draftOf occurrences).given ++ [(.path, options.path)], none⟩ parameter) := by
  have values :
      Draft.values ⟨(draftOf occurrences).given ++ [(.path, options.path)], none⟩ parameter =
        valuesOf occurrences parameter ++
          Draft.values ⟨[(.path, options.path)], none⟩ parameter := by
    rw [← values_draftOf]
    simp only [Draft.values, List.filter_append, List.map_append]
  rw [values]
  by_cases isPath : parameter = .path
  · subst isPath
    rw [valuesOf_path spells.readable]
    rfl
  · have noOther : Draft.values ⟨[(.path, options.path)], none⟩ parameter = [] := by
      simp [Draft.values, Ne.symm isPath]
    rw [noOther, List.append_nil]
    exact spells.given parameter isPath

theorem parse_eq
    (spells : Spells occurrences options)
    (spellable : Spellable options) :
    parse (scanWords occurrences options.path) = .ok (.scan options) := by
  obtain ⟨later, read, settles⟩ := spells.readWords_eq spellable ["--", options.path]
  have parsed : parse (scanWords occurrences options.path) =
      parseCommand .scan (occurrences.flatMap Occurrence.words ++ ["--", options.path]) := rfl
  rw [parsed, parseCommand, read, readWords_path settles spells.pathless spellable.path]
  simp only [toCommand, scanOptions_eq_ok spellable spells.isGivenBy_values]

theorem parse_again
    (spells : Spells occurrences options)
    (spellable : Spellable options)
    {again earlier : Occurrence}
    (readable : again.Readable)
    (single : again.parameter.isRepeatable = false)
    (member : earlier ∈ occurrences)
    (same : earlier.parameter = again.parameter) :
    parse (scanWords (occurrences ++ [again]) options.path) = .error .argumentConflict := by
  have present : (draftOf occurrences).has again.parameter = true := by
    rw [← Bool.not_eq_false, Draft.has_eq_false_iff, values_draftOf, ← same]
    exact List.ne_nil_of_mem (mem_valuesOf member)
  obtain ⟨later, read, settles⟩ :=
    spells.readWords_eq spellable (again.words ++ ["--", options.path])
  have refused :=
    readWords_occurrence_refused readable settles spells.pathless
      (add_eq_conflict single present again.value) options.path
  have parsed : parse (scanWords (occurrences ++ [again]) options.path) =
      parseCommand .scan
        ((occurrences ++ [again]).flatMap Occurrence.words ++ ["--", options.path]) := rfl
  rw [parsed, parseCommand, List.flatMap_append, List.append_assoc, List.flatMap_singleton, read,
    refused]

end Spells

/-- An option, once for each value, with the values attached. -/
def attach (parameter : Parameter) (values : List String) : List Occurrence :=
  values.map fun value => ⟨parameter, value, true⟩

theorem valuesOf_attach (attached parameter : Parameter) (values : List String) :
    valuesOf (attach attached values) parameter = if attached = parameter then values else [] := by
  split
  · next same => simp [valuesOf, attach, List.filter_map, Function.comp_def, same]
  · next different => simp [valuesOf, attach, List.filter_map, Function.comp_def, different]

def attachAll (values : Parameter → List String) : List Occurrence :=
  (Parameter.all.filter (· ≠ .path)).flatMap fun parameter => attach parameter (values parameter)

theorem valuesOf_attachAll
    {parameter : Parameter}
    (isOption : parameter ≠ .path)
    (values : Parameter → List String) :
    valuesOf (attachAll values) parameter = values parameter := by
  cases parameter with
  | path => exact (isOption rfl).elim
  | noRecursive | format | output | severity | exclude | only | vocabulary | ignore =>
      simp [attachAll, Parameter.all, valuesOf_append, valuesOf_attach]

theorem spells_attachAll (options : ScanOptions) :
    Spells (attachAll (settingValues options)) options := by
  constructor
  · intro occurrence member
    obtain ⟨parameter, parameterMember, valueMember⟩ := List.mem_flatMap.mp member
    obtain ⟨value, isValue, rfl⟩ := List.mem_map.mp valueMember
    refine ⟨of_decide_eq_true (List.mem_filter.mp parameterMember).2, ?_, by simp⟩
    intro unvalued
    cases parameter with
    | noRecursive =>
        simp only [settingValues] at isValue
        split at isValue <;> simp_all
    | path | format | output | severity | exclude | only | vocabulary | ignore => cases unvalued
  · intro parameter isOption
    rw [valuesOf_attachAll isOption]
    exact isGivenBy_settingValues options parameter

/-- Every scan can be asked for: its settings have a spelling.  Whatever spelling is chosen, it is
read as the scan with these settings, and to give an option once more that may be given once only
is a conflict. -/
theorem scan_command_spelled
    {options : ScanOptions}
    (spellable : Spellable options) :
    (∃ occurrences, Spells occurrences options) ∧
      ∀ occurrences, Spells occurrences options →
        parse (scanWords occurrences options.path) = .ok (.scan options) ∧
          ∀ again : Occurrence,
            again.Readable → again.parameter.isRepeatable = false →
              (∃ earlier ∈ occurrences, earlier.parameter = again.parameter) →
                parse (scanWords (occurrences ++ [again]) options.path) =
                  .error .argumentConflict := by
  refine ⟨⟨_, spells_attachAll options⟩, ?_⟩
  intro occurrences spells
  refine ⟨spells.parse_eq spellable, ?_⟩
  rintro again readable single ⟨earlier, member, same⟩
  exact spells.parse_again spellable readable single member same

/-- Settings with values and a path that look like options. -/
def dashedOptions : ScanOptions where
  path := "--help"
  noRecursive := true
  format := .terminal
  output := some "-o=x"
  severity := some "high"
  exclude := ["A001", "A002", "A003"]
  only := []
  vocabulary := none
  ignore := ["a,b", "--only"]

/-- The excluded rules stand in two groups, with other options between them. -/
theorem scan_command_spelled_dashed :
    parse
        ["scan", "--exclude", "A001,A002", "--ignore", "a,b", "--output=-o=x", "--no-recursive",
          "--exclude=A003", "--ignore=--only", "--severity", "high", "--", "--help"] =
        .ok (.scan dashedOptions) ∧
      parse
        ["scan", "--exclude", "A001,A002", "--ignore", "a,b", "--output=-o=x", "--no-recursive",
          "--exclude=A003", "--ignore=--only", "--severity", "high", "--severity", "low", "--",
          "--help"] =
        .error .argumentConflict := by
  have spellable : Spellable dashedOptions :=
    ⟨by decide, by decide, by decide, by decide, by decide⟩
  have spells :
      Spells
        [⟨.exclude, "A001,A002", false⟩, ⟨.ignore, "a,b", false⟩, ⟨.output, "-o=x", true⟩,
          ⟨.noRecursive, "", false⟩, ⟨.exclude, "A003", true⟩, ⟨.ignore, "--only", true⟩,
          ⟨.severity, "high", false⟩]
        dashedOptions := by
    refine ⟨by decide, ?_⟩
    intro parameter isOption
    cases parameter with
    | path => exact (isOption rfl).elim
    | exclude => exact ⟨[["A001", "A002"], ["A003"]], by decide, rfl, by decide⟩
    | only => exact ⟨[], by decide, rfl, rfl⟩
    | format => exact .inr ⟨rfl, rfl⟩
    | noRecursive | output | severity | vocabulary | ignore => rfl
  obtain ⟨parsed, again⟩ := (scan_command_spelled spellable).2 _ spells
  exact ⟨parsed, again ⟨.severity, "low", false⟩ (by decide) rfl (by decide)⟩

end ArchAudit.Arguments
