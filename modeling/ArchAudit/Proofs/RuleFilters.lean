import ArchAudit.Command.Run
import ArchAudit.Proofs.FindingIds
import Mathlib.Data.List.Basic

/-!
# Filters and the rule catalogue

A filter compares the upper-case forms of identifiers, with all of Unicode, while the catalogue
finds a rule by its identifier whatever the case of the ASCII letters.  The two agree on every text,
since no character beyond ASCII has a capital `A` or a digit as its whole upper-case form.  So a
filter keeps exactly the findings of the rules that the catalogue finds, and the identifiers that a
run warns about are those that can select nothing.
-/

namespace ArchAudit

/-! ## Upper case -/

namespace Text

/-- The characters from the digit zero to the capital `A`, which make up identifiers of rules. -/
def IsIdChar (c : Char) : Prop :=
  0x30 ≤ c.toNat ∧ c.toNat ≤ 0x41

instance : DecidablePred IsIdChar :=
  fun c => inferInstanceAs (Decidable (0x30 ≤ c.toNat ∧ c.toNat ≤ 0x41))

theorem toUpper_of_not_small
    {c : Char}
    (notSmall : ¬ ('a'.toNat ≤ c.toNat ∧ c.toNat ≤ 'z'.toNat)) :
    c.toUpper = c :=
  dif_neg notSmall

/-- Besides the characters of identifiers only the small `a` is put into one of them. -/
theorem isIdChar_toUpper_iff {c : Char} :
    IsIdChar c.toUpper ↔ IsIdChar c ∨ c = 'a' := by
  by_cases small : 'a'.toNat ≤ c.toNat ∧ c.toNat ≤ 'z'.toNat
  · have checked :
        ∀ code ≤ 'z'.toNat, 'a'.toNat ≤ code →
          (IsIdChar (Char.ofNat code).toUpper ↔
            IsIdChar (Char.ofNat code) ∨ Char.ofNat code = 'a') := by
      decide
    rw [← Char.ofNat_toNat c]
    exact checked c.toNat small.2 small.1
  · have notSmallA : c ≠ 'a' := by
      rintro rfl
      exact small (by decide)
    rw [toUpper_of_not_small small, or_iff_left notSmallA]

theorem upperChar_of_isIdChar
    {c : Char}
    (isIdChar : IsIdChar c.toUpper) :
    upperChar c = [c.toUpper] := by
  have checked :
      ∀ code < 0x42, 0x30 ≤ code →
        upperChar (Char.ofNat code) = [(Char.ofNat code).toUpper] := by
    decide +kernel
  rcases isIdChar_toUpper_iff.mp isIdChar with ⟨atLeast, atMost⟩ | rfl
  · rw [← Char.ofNat_toNat c]
    exact checked c.toNat (Nat.lt_succ_of_le atMost) atLeast
  · decide +kernel

/-- All other letters are put far beyond the characters of identifiers. -/
theorem lt_shifted_of_mem_upperRuns
    {run : CaseRun}
    (member : run ∈ upperRuns) :
    run = ⟨0x61, 0x7A, 1, -32⟩ ∨ 0x41 < run.first + run.shift := by
  revert run
  decide +kernel

/-- An upper-case form of several characters has one that is no part of an identifier. -/
theorem exists_not_isIdChar_of_mem_upperExpansions
    {expansion : Nat × List Nat}
    (member : expansion ∈ upperExpansions) :
    ∃ code ∈ expansion.2, ¬ IsIdChar (Char.ofNat code) := by
  revert expansion
  decide +kernel

theorem not_isIdChar_ofNat
    {code : Nat}
    (beyond : 0x41 < code) :
    ¬ IsIdChar (Char.ofNat code) := by
  intro isIdChar
  rw [IsIdChar, Char.toNat_ofNat] at isIdChar
  split at isIdChar <;> omega

/-- A character whose upper-case form can stand in an identifier is one of the ASCII characters with
that form. -/
theorem isIdChar_of_upperChar
    {c : Char}
    (allIdChars : ∀ upper ∈ upperChar c, IsIdChar upper) :
    IsIdChar c.toUpper := by
  rw [isIdChar_toUpper_iff]
  unfold upperChar at allIdChars
  split at allIdChars
  · next codes expanded =>
      have member : (c.toNat, codes) ∈ upperExpansions := by
        obtain ⟨front, behind, shape, _⟩ := List.lookup_eq_some_iff.mp expanded
        rw [shape]
        exact List.mem_append_right front List.mem_cons_self
      obtain ⟨code, isCode, notIdChar⟩ := exists_not_isIdChar_of_mem_upperExpansions member
      exact (notIdChar (allIdChars _ (List.mem_map_of_mem isCode))).elim
  · split at allIdChars
    · next run found =>
        have inRun := List.find?_some found
        simp only [CaseRun.contains, Bool.and_eq_true, decide_eq_true_eq] at inRun
        obtain ⟨⟨atLeast, atMost⟩, _⟩ := inRun
        have isIdChar := allIdChars _ List.mem_cons_self
        by_cases beyond : 0x41 < (c.toNat + run.shift).toNat
        · exact (not_isIdChar_ofNat beyond isIdChar).elim
        · rcases lt_shifted_of_mem_upperRuns (List.mem_of_find?_eq_some found) with rfl | far
          · right
            rw [← Char.toNat_inj]
            show c.toNat = 0x61
            simp only at atLeast beyond
            omega
          · omega
    · exact .inl (allIdChars c List.mem_cons_self)

/-- A text is put into upper case letter by letter, if the letters of identifiers result. -/
theorem toList_upperCase_of_isIdChar
    {text : String}
    (isIdChar : ∀ c ∈ text.toList, IsIdChar c.toUpper) :
    (upperCase text).toList = text.toList.map Char.toUpper := by
  rw [upperCase, String.toList_ofList, List.map_eq_flatMap]
  exact List.flatMap_congr fun c member => upperChar_of_isIdChar (isIdChar c member)

end Text

/-! ## Identifiers of rules -/

namespace Rule

theorem isIdChar_of_mem_id
    {rule : Rule} {c : Char}
    (member : c ∈ rule.id.toList) :
    Text.IsIdChar c := by
  have checked : rule.id.toList.all (fun c => Text.IsIdChar c) = true := by
    cases rule <;> decide +kernel
  exact of_decide_eq_true (List.all_eq_true.mp checked c member)

theorem map_toUpper_id (rule : Rule) :
    rule.id.toList.map Char.toUpper = rule.id.toList := by
  cases rule <;> decide +kernel

theorem ofId?_eq_some_iff {id : String} {rule : Rule} :
    ofId? id = some rule ↔ id.toList.map Char.toUpper = rule.id.toList := by
  have lower :
      ofId? id = some rule ↔ id.toList.map Char.toLower = rule.id.toList.map Char.toLower := by
    rw [← String.toList_map, ← String.toList_map, String.toList_inj]
    constructor
    · intro found
      have named := List.find?_some found
      exact (beq_iff_eq.mp named).symm
    · intro same
      have self : ofId? rule.id = some rule := by cases rule <;> decide +kernel
      rw [ofId?] at self ⊢
      rw [same]
      exact self
  rw [lower]
  constructor
  · intro same
    have raised := congrArg (List.map Char.toUpper) same
    simpa [Function.comp_def, Char.toUpper_toLower_eq_toUpper, map_toUpper_id] using raised
  · intro same
    have lowered := congrArg (List.map Char.toLower) same
    simpa [Function.comp_def, Char.toLower_toUpper_eq_toLower] using lowered

/-- The comparison of upper-case forms finds the rule that the catalogue finds. -/
theorem upperCase_eq_iff {id : String} {rule : Rule} :
    Text.upperCase id = Text.upperCase rule.id ↔ ofId? id = some rule := by
  have ruleUpper : (Text.upperCase rule.id).toList = rule.id.toList := by
    rw [Text.toList_upperCase_of_isIdChar, map_toUpper_id]
    intro c member
    exact Text.isIdChar_toUpper_iff.mpr (.inl (isIdChar_of_mem_id member))
  rw [ofId?_eq_some_iff, ← String.toList_inj, ruleUpper]
  constructor
  · intro same
    have isIdChar : ∀ c ∈ id.toList, Text.IsIdChar c.toUpper := by
      intro c member
      apply Text.isIdChar_of_upperChar
      intro upper isUpper
      have inRule : upper ∈ rule.id.toList := by
        rw [← same, Text.upperCase, String.toList_ofList]
        exact List.mem_flatMap.mpr ⟨c, member, isUpper⟩
      exact isIdChar_of_mem_id inRule
    rw [← Text.toList_upperCase_of_isIdChar isIdChar]
    exact same
  · intro same
    have isIdChar : ∀ c ∈ id.toList, Text.IsIdChar c.toUpper := by
      intro c member
      have inRule : c.toUpper ∈ rule.id.toList := by
        rw [← same]
        exact List.mem_map_of_mem member
      exact isIdChar_of_mem_id inRule
    rw [Text.toList_upperCase_of_isIdChar isIdChar]
    exact same

end Rule

/-! ## Findings that a scan can report -/

namespace Scan

/-- Whether some scan of some source, with the table of some vocabulary, reports a finding. -/
def IsReported (finding : Finding) : Prop :=
  ∃ vocabulary table filePath source,
    Table.compile vocabulary = .ok table ∧ finding ∈ (ofSource table filePath source).1

theorem IsReported.ruleId_eq
    {finding : Finding}
    (reported : IsReported finding) :
    finding.ruleId = finding.issue.rule.id := by
  obtain ⟨vocabulary, table, filePath, source, compiled, member⟩ := reported
  have inFile := (ofSource_findings_begin_ofLines compiled filePath source).subset member
  exact (identifiedIn_of_mem_ofLines compiled filePath inFile).ruleId_eq

/-- A script with findings of four rules, and one with a finding of the fifth. -/
def sampleSources : List Source :=
  [.ofText "find_package(MKL -mavx2 -mcpu=neoverse-n1)",
    .ofText "if(CMAKE_SYSTEM_PROCESSOR MATCHES x86_64)"]

/-- No rule of the catalogue is idle. -/
theorem exists_isReported (rule : Rule) :
    ∃ finding, IsReported finding ∧ finding.issue.rule = rule := by
  have rules :
      (sampleSources.flatMap fun source => (ofSource sampleTable "CMakeLists.txt" source).1).map
        (fun finding => finding.issue.rule) = Rule.all := by
    decide +kernel
  have listed := Rule.mem_all rule
  rw [← rules] at listed
  obtain ⟨finding, found, isRule⟩ := List.mem_map.mp listed
  obtain ⟨source, _, member⟩ := List.mem_flatMap.mp found
  exact ⟨finding, ⟨_, _, _, source, compile_sampleVocabulary, member⟩, isRule⟩

end Scan

/-! ## Filters -/

namespace FindingFilter

/-- Whether the catalogue finds the rule of a finding under one of some identifiers. -/
def NamesRule (ids : List String) (finding : Finding) : Prop :=
  ∃ id ∈ ids, Rule.ofId? id = some finding.issue.rule

instance (ids : List String) : DecidablePred (NamesRule ids) :=
  fun finding => inferInstanceAs (Decidable (∃ id ∈ ids, Rule.ofId? id = some finding.issue.rule))

/-- Whether a finding is severe enough, and of a rule that is asked for. -/
def Admits (filter : FindingFilter) (finding : Finding) : Prop :=
  (∀ text ∈ filter.severity, Severity.ofText text ≤ finding.severity) ∧
    ¬ NamesRule filter.exclude finding ∧
    (filter.only = [] ∨ NamesRule filter.only finding)

instance (filter : FindingFilter) : DecidablePred filter.Admits :=
  fun finding =>
    inferInstanceAs
      (Decidable
        ((∀ text ∈ filter.severity, Severity.ofText text ≤ finding.severity) ∧
          ¬ NamesRule filter.exclude finding ∧
          (filter.only = [] ∨ NamesRule filter.only finding)))

theorem names_eq
    {finding : Finding}
    (identified : finding.ruleId = finding.issue.rule.id)
    (ids : List String) :
    names ids finding = decide (NamesRule ids finding) := by
  rw [Bool.eq_iff_iff, names, List.any_eq_true, decide_eq_true_iff, NamesRule]
  simp only [decide_eq_true_iff, identified, Rule.upperCase_eq_iff]

theorem wants_eq
    {finding : Finding}
    (identified : finding.ruleId = finding.issue.rule.id)
    (filter : FindingFilter) :
    filter.wants finding = decide (filter.Admits finding) := by
  have severe :
      filter.isSevere finding = true ↔
        ∀ text ∈ filter.severity, Severity.ofText text ≤ finding.severity := by
    unfold isSevere
    cases filter.severity <;> simp
  rw [Bool.eq_iff_iff, decide_eq_true_iff, wants, names_eq identified, names_eq identified]
  simp only [Admits, Bool.and_eq_true, Bool.or_eq_true, Bool.not_eq_true', severe,
    decide_eq_false_iff_not, decide_eq_true_iff, List.isEmpty_iff, and_assoc]

theorem select_eq
    {findings : List Finding}
    (reported : ∀ finding ∈ findings, Scan.IsReported finding)
    (filter : FindingFilter) :
    filter.select findings = findings.filter fun finding => filter.Admits finding :=
  List.filter_congr fun finding member => wants_eq (reported finding member).ruleId_eq filter

/-- The catalogue knows an identifier if a finding can be named by it. -/
theorem ofId?_eq_none_iff {id : String} :
    Rule.ofId? id = none ↔ ∀ finding, Scan.IsReported finding → names [id] finding = false := by
  constructor
  · intro unknown finding reported
    rw [names_eq reported.ruleId_eq]
    simp [NamesRule, unknown]
  · intro namesNothing
    rw [Option.eq_none_iff_forall_ne_some]
    intro rule known
    obtain ⟨finding, reported, rfl⟩ := Scan.exists_isReported rule
    have named := namesNothing finding reported
    rw [names_eq reported.ruleId_eq] at named
    simp [NamesRule, known] at named

/-- A filter keeps the findings that are severe enough and of the rules that the catalogue finds
under the given identifiers, in their order.  The identifiers that a run warns about are those that
name no finding any scan can report.  And what is kept by naming some rules and what is kept by
excluding them are the two complementary parts of the findings. -/
theorem filters_follow_catalogue
    {findings : List Finding}
    (reported : ∀ finding ∈ findings, Scan.IsReported finding)
    (filter : FindingFilter) :
    filter.select findings = findings.filter (fun finding => filter.Admits finding) ∧
      (∀ entry,
        entry ∈ Run.unknownRules filter ↔
          ∃ id ∈ filter.exclude ++ filter.only,
            (∀ finding, Scan.IsReported finding → names [id] finding = false) ∧
              entry = ⟨.warn, Log.commandTarget, "unknown rule ID '" ++ id ++ "'"⟩) ∧
      ∀ ids, ids ≠ [] →
        (FindingFilter.mk none [] ids).select findings =
            findings.filter (fun finding => NamesRule ids finding) ∧
          (FindingFilter.mk none ids []).select findings =
            findings.filter (fun finding => ¬ NamesRule ids finding) := by
  refine ⟨select_eq reported filter, ?_, ?_⟩
  · intro entry
    rw [Run.unknownRules, List.mem_map, unknownIds]
    simp only [List.mem_filter, Option.isNone_iff_eq_none, ofId?_eq_none_iff]
    constructor
    · rintro ⟨id, ⟨given, namesNothing⟩, rfl⟩
      exact ⟨id, given, namesNothing, rfl⟩
    · rintro ⟨id, given, namesNothing, rfl⟩
      exact ⟨id, ⟨given, namesNothing⟩, rfl⟩
  · intro ids nonempty
    constructor
    · rw [select_eq reported]
      refine List.filter_congr fun finding _ => decide_eq_decide.mpr ?_
      simp [Admits, NamesRule, nonempty]
    · rw [select_eq reported]
      refine List.filter_congr fun finding _ => decide_eq_decide.mpr ?_
      simp [Admits, NamesRule]

/-- The findings in a script with a library and a build option. -/
def twoFindings : List Finding :=
  (Scan.ofSource Scan.sampleTable "CMakeLists.txt" (.ofText "find_package(MKL -mavx)")).1

/-- The first identifier becomes `A001` with a mark between the letter and the digits when it is put
into upper case, so it names no rule; the second one names the build option. -/
theorem filters_follow_catalogue_marked :
    (∀ finding ∈ twoFindings, Scan.IsReported finding) ∧
      (FindingFilter.mk (some "Medium") ["ẚ001", "a002"] []).select twoFindings =
        twoFindings.filter (fun finding =>
          (FindingFilter.mk (some "Medium") ["ẚ001", "a002"] []).Admits finding) ∧
      ((FindingFilter.mk (some "Medium") ["ẚ001", "a002"] []).select twoFindings).map
        Finding.ruleId = ["A001"] ∧
      ⟨.warn, Log.commandTarget, "unknown rule ID 'ẚ001'"⟩ ∈
        Run.unknownRules ⟨some "Medium", ["ẚ001", "a002"], []⟩ ∧
      (FindingFilter.mk none [] ["ẚ001", "a002"]).select twoFindings =
        twoFindings.filter (fun finding => NamesRule ["ẚ001", "a002"] finding) := by
  have reported : ∀ finding ∈ twoFindings, Scan.IsReported finding :=
    fun finding member => ⟨_, _, _, _, Scan.compile_sampleVocabulary, member⟩
  obtain ⟨selected, warned, split⟩ :=
    filters_follow_catalogue reported ⟨some "Medium", ["ẚ001", "a002"], []⟩
  have unknown : Rule.ofId? "ẚ001" = none := by decide +kernel
  have warning := (warned _).mpr ⟨"ẚ001", by simp, ofId?_eq_none_iff.mp unknown, rfl⟩
  exact ⟨reported, selected, by decide +kernel, warning, (split _ (by decide)).1⟩

end FindingFilter

end ArchAudit
