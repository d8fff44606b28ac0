import ArchAudit.Proofs.CodeBlocks
import ArchAudit.Proofs.Decoding
import ArchAudit.Proofs.FileFindings
import ArchAudit.Proofs.FindingIds
import ArchAudit.Proofs.Lines
import ArchAudit.Proofs.RowMatches

/-!
# Scanned content in a Markdown report

What a scan puts into its findings keeps to its place in a report.  A statement is joined from
lines without newlines, and so the words found in it hold none either.  A statement is shown only
if one of the rows matched it, and every row looks for a keyword that no fence could hold.
-/

namespace ArchAudit

open Markdown

/-! ## Statements without newlines -/

theorem Source.newline_not_mem_lines (source : Source) :
    ∀ line ∈ source.lines.map PhysicalLine.text, '\n' ∉ line.toList := by
  intro line member
  simp only [lines, pieces, List.mem_map, List.mem_filter] at member
  obtain ⟨_, ⟨piece, ⟨pieceMember, _⟩, rfl⟩, rfl⟩ := member
  have bytes : 10 ∉ piece.content :=
    (Text.pieces_cut 10 source.bytes).not_mem_content piece pieceMember
  rw [PhysicalLine.ofBytes, String.toList_ofList]
  intro newline
  exact Text.Utf8.newline_not_mem_decodeLossy bytes (Text.dropCarriageReturn_subset _ newline)

namespace Folding

theorem contribution_subset (raw : String) :
    (contribution raw).toList ⊆ raw.toList := by
  unfold contribution
  split
  · rw [String.toList_ofList]
    have trimmed : Text.trimEnd (Continuation.dropLineEnding raw.toList) ⊆ raw.toList := by
      rw [Text.trimEnd_dropLineEnding]
      exact (List.rdropWhile_prefix Text.isBlank raw.toList).subset
    exact List.Subset.trans (Text.trim_subset _)
      (List.Subset.trans (List.dropLast_subset _) trimmed)
  · rw [Text.trimmed, String.toList_ofList]
    exact Text.trim_subset raw.toList

theorem newline_not_mem_intercalate
    {parts : List (List Char)}
    (absent : ∀ part ∈ parts, '\n' ∉ part) :
    '\n' ∉ [' '].intercalate parts := by
  induction parts with
  | nil => exact List.not_mem_nil
  | cons part others inductionHypothesis =>
      obtain ⟨partAbsent, othersAbsent⟩ := List.forall_mem_cons.mp absent
      cases others with
      | nil => rwa [List.intercalate_singleton]
      | cons next later =>
          rw [List.intercalate_cons_cons, List.mem_append, List.mem_append, not_or, not_or]
          exact ⟨⟨partAbsent, by decide⟩, inductionHypothesis othersAbsent⟩

theorem newline_not_mem_joined
    {group : List String}
    (absent : ∀ raw ∈ group, '\n' ∉ raw.toList) :
    '\n' ∉ (String.intercalate " " (fragments group)).toList := by
  rw [String.toList_intercalate]
  apply newline_not_mem_intercalate
  intro part member
  obtain ⟨fragment, fragmentMember, rfl⟩ := List.mem_map.mp member
  obtain ⟨raw, rawMember, rfl⟩ := List.mem_map.mp (List.mem_filter.mp fragmentMember).1
  intro newline
  exact absent raw rawMember (contribution_subset raw newline)

theorem newline_not_mem_groupText
    {group : List String}
    (absent : ∀ raw ∈ group, '\n' ∉ raw.toList) :
    '\n' ∉ (groupText group).toList := by
  unfold groupText
  split
  case h_1 raw =>
    split
    · exact newline_not_mem_joined absent
    · rw [String.toList_ofList]
      intro newline
      exact absent raw (List.mem_singleton_self raw)
        ((List.rdropWhile_prefix _ raw.toList).subset newline)
  case h_2 => exact newline_not_mem_joined absent

theorem text_of_mem_numbered
    {line : LogicalLine} {count : Nat} {lineGroups : List (List String)}
    (member : line ∈ numbered count lineGroups) :
    ∃ group ∈ lineGroups, line.text = groupText group := by
  induction lineGroups generalizing count with
  | nil => exact nomatch member
  | cons group others inductionHypothesis =>
      rw [numbered, List.mem_cons] at member
      rcases member with rfl | later
      · exact ⟨group, List.mem_cons_self, rfl⟩
      · obtain ⟨own, ownMember, text_eq⟩ := inductionHypothesis later
        exact ⟨own, List.mem_cons_of_mem group ownMember, text_eq⟩

theorem newline_not_mem_statements
    {lines : List String}
    (absent : ∀ raw ∈ lines, '\n' ∉ raw.toList) :
    ∀ line ∈ statements lines, '\n' ∉ line.text.toList := by
  intro line member
  obtain ⟨group, groupMember, text_eq⟩ := text_of_mem_numbered member
  rw [text_eq]
  apply newline_not_mem_groupText
  intro raw rawMember
  apply absent raw
  rw [← (groups_grouped lines).flatten_eq]
  exact List.mem_flatten_of_mem groupMember rawMember

end Folding

/-! ## Statements that are shown -/

/-- Whether a text holds a character that no closing fence holds. -/
def IsMarked (text : List Char) : Prop :=
  ∃ c ∈ text, Text.isBlank c = false ∧ c ≠ backtick

theorem IsMarked.mono
    {part text : List Char}
    (marked : IsMarked part)
    (included : part ⊆ text) :
    IsMarked text := by
  obtain ⟨c, member, visible⟩ := marked
  exact ⟨c, included member, visible⟩

theorem IsMarked.trim
    {text : List Char}
    (marked : IsMarked text) :
    IsMarked (Text.trim text) := by
  obtain ⟨c, member, visible, different⟩ := marked
  exact ⟨c, Text.mem_trim_of_mem member visible, visible, different⟩

theorem IsMarked.closesBlock_eq_false
    {line : List Char}
    (marked : IsMarked line) :
    closesBlock line = false := by
  obtain ⟨c, member, visible, different⟩ := marked
  have remains : c ∈ line.dropWhile fun d => d = backtick :=
    Text.mem_dropWhile_of_mem member (decide_eq_false different)
  rw [closesBlock, Bool.and_eq_false_iff]
  right
  rw [List.all_eq_false]
  exact ⟨c, remains, by simp [visible]⟩

/-- A statement with such a character can be shown in a block. -/
theorem IsMarked.trimmed_contained
    {text : String}
    (marked : IsMarked text.toList)
    (absent : '\n' ∉ text.toList) :
    '\n' ∉ (Text.trimmed text).toList ∧ closesBlock (Text.trimmed text).toList = false := by
  rw [Text.trimmed, String.toList_ofList]
  constructor
  · intro newline
    exact absent (Text.trim_subset _ newline)
  · exact marked.trim.closesBlock_eq_false

namespace Classifier

theorem StandsAt.subset
    {κ : Type} {keywords : List (κ × List Char)} {listed : List String}
    {text word : String} {place : Nat} {tag : κ}
    (stands : StandsAt keywords listed text place tag word) :
    word.toList ⊆ text.toList ∧
      ∃ keyword, (tag, keyword) ∈ keywords ∧ keyword ⊆ text.toList := by
  obtain ⟨keyword, rest, member, begins, _⟩ := stands.occurs
  have behind : keyword ++ (word.toList ++ rest) ⊆ text.toList := by
    rw [← begins]
    exact List.drop_subset place text.toList
  obtain ⟨keywordIncluded, others⟩ := List.append_subset.mp behind
  exact ⟨(List.append_subset.mp others).1, keyword, member, keywordIncluded⟩

theorem isMarked_lookupCommands :
    ∀ keyword ∈ lookupCommands, IsMarked keyword.2 := by
  intro keyword member
  simp only [lookupCommands, List.mem_cons, List.not_mem_nil, or_false] at member
  rcases member with rfl | rfl
  · exact ⟨'f', by simp, by decide, by decide⟩
  · exact ⟨'f', by simp, by decide, by decide⟩

theorem isMarked_optionMark :
    ∀ keyword ∈ optionMark, IsMarked keyword.2 := by
  intro keyword member
  rw [List.mem_singleton.mp member]
  exact ⟨'m', by simp, by decide, by decide⟩

theorem isMarked_tuningLeads :
    ∀ keyword ∈ tuningLeads, IsMarked keyword.2 := by
  intro keyword member
  simp only [tuningLeads, List.mem_cons, List.not_mem_nil, or_false] at member
  rcases member with rfl | rfl
  · exact ⟨'m', by simp [TuningFlag.lead], by decide, by decide⟩
  · exact ⟨'m', by simp [TuningFlag.lead], by decide, by decide⟩

theorem isMarked_of_branchesOn
    {listed : List String} {text : String}
    (branches : BranchesOn listed text) :
    IsMarked text.toList := by
  obtain ⟨_, _, _, front, between, rest, text_eq, _⟩ := branches
  refine ⟨'C', ?_, by decide, by decide⟩
  rw [text_eq]
  simp

end Classifier

namespace Vocabulary

open Classifier

/-- What a row captures is a part of the text, and so is a keyword of the row. -/
theorem shown_of_capture?
    {κ : Type} {keywords : List (κ × List Char)}
    (exclusive : Exclusive keywords)
    (marked : ∀ keyword ∈ keywords, IsMarked keyword.2)
    {vocabulary : Vocabulary} {row : Row} {text : String} {hit : κ × String}
    (absent : '\n' ∉ text.toList)
    (captured : vocabulary.capture? row keywords text = some hit) :
    '\n' ∉ hit.2.toList ∧ IsMarked text.toList := by
  obtain ⟨place, foremost⟩ :=
    (capture?_eq_some_iff exclusive vocabulary row text hit.1 hit.2).mp captured
  obtain ⟨wordIncluded, keyword, member, keywordIncluded⟩ := foremost.stands.subset
  constructor
  · intro newline
    exact absent (wordIncluded newline)
  · exact (marked _ member).mono keywordIncluded

end Vocabulary

namespace Issue

/-- The words of a build script that an issue quotes. -/
def quoted : Issue → List String
  | archSpecificLibrary library => [library]
  | archSpecificBuildOption option => [option]
  | vendorTuningFlag _ flag value => [flag, value]
  | counterpartTuningMissing _ _ => []
  | otherArchCondition condition => [condition]

def IsOneLine (issue : Issue) : Prop :=
  ∀ word ∈ issue.quoted, '\n' ∉ word.toList

theorem isPlainLine_vendorName (vendor : Vendor) :
    IsPlainLine vendor.name := by
  cases vendor with
  | neoverse => exact isPlainLine_ofList (by decide)
  | ampereOne => exact isPlainLine_ofList (by decide)

theorem IsOneLine.isPlainLine_title
    {issue : Issue}
    (oneLine : issue.IsOneLine) :
    IsPlainLine issue.title := by
  unfold title
  cases issue with
  | archSpecificLibrary library =>
      have absent : '\n' ∉ library.toList := oneLine library (by simp [quoted])
      exact IsPlainLine.append (isPlainLine_ofList (by decide)) absent
  | archSpecificBuildOption option =>
      have absent : '\n' ∉ option.toList := oneLine option (by simp [quoted])
      exact IsPlainLine.append (isPlainLine_ofList (by decide)) absent
  | vendorTuningFlag vendor flag value =>
      have flagAbsent : '\n' ∉ flag.toList := oneLine flag (by simp [quoted])
      have valueAbsent : '\n' ∉ value.toList := oneLine value (by simp [quoted])
      have lead : IsPlainLine (vendor.name ++ " tuning flag: -m") :=
        (isPlainLine_vendorName vendor).append (newline_not_mem_ofList (by decide))
      exact ((lead.append flagAbsent).append (newline_not_mem_ofList (by decide))).append
        valueAbsent
  | counterpartTuningMissing present missing =>
      have lead : IsPlainLine (present.name ++ " tuning without ") :=
        (isPlainLine_vendorName present).append (newline_not_mem_ofList (by decide))
      exact (lead.append (isPlainLine_vendorName missing).1).append
        (newline_not_mem_ofList (by decide))
  | otherArchCondition condition => exact isPlainLine_ofList (by decide)

theorem toList_ofList_of_eq_concat
    {ended line : List Char}
    (same : ended = line ++ ['\n']) :
    (String.ofList ended).toList = (String.ofList line).toList ++ ['\n'] := by
  rw [String.toList_ofList, String.toList_ofList, same]

/-- A description has one line, or two if it shows a condition. -/
theorem IsOneLine.isPlain_description
    {issue : Issue}
    (oneLine : issue.IsOneLine) :
    IsPlain issue.description := by
  unfold description
  cases issue with
  | archSpecificLibrary library =>
      have absent : '\n' ∉ library.toList := oneLine library (by simp [quoted])
      have lead : IsPlainLine ("The build looks up '" ++ library) :=
        IsPlainLine.append (isPlainLine_ofList (by decide)) absent
      exact ((lead.append (newline_not_mem_ofList (by decide))).append
        (newline_not_mem_ofList (by decide))).isPlain
  | archSpecificBuildOption option =>
      have absent : '\n' ∉ option.toList := oneLine option (by simp [quoted])
      have lead : IsPlainLine ("'-m" ++ option) :=
        IsPlainLine.append (isPlainLine_ofList (by decide)) absent
      exact ((lead.append (newline_not_mem_ofList (by decide))).append
        (newline_not_mem_ofList (by decide))).isPlain
  | vendorTuningFlag vendor flag value =>
      have flagAbsent : '\n' ∉ flag.toList := oneLine flag (by simp [quoted])
      have valueAbsent : '\n' ∉ value.toList := oneLine value (by simp [quoted])
      have lead : IsPlainLine ("'-m" ++ flag ++ "=" ++ value) :=
        ((IsPlainLine.append (isPlainLine_ofList (by decide)) flagAbsent).append
          (newline_not_mem_ofList (by decide))).append valueAbsent
      have named : IsPlainLine
          ("'-m" ++ flag ++ "=" ++ value ++ "' tunes code generation for " ++ vendor.name) :=
        (lead.append (newline_not_mem_ofList (by decide))).append (isPlainLine_vendorName vendor).1
      exact ((named.append (newline_not_mem_ofList (by decide))).append
        (newline_not_mem_ofList (by decide))).isPlain
  | counterpartTuningMissing present missing =>
      have lead : IsPlainLine ("This file tunes for " ++ present.name) :=
        IsPlainLine.append (isPlainLine_ofList (by decide)) (isPlainLine_vendorName present).1
      exact (((lead.append (newline_not_mem_ofList (by decide))).append
        (isPlainLine_vendorName missing).1).append (newline_not_mem_ofList (by decide))).isPlain
  | otherArchCondition condition =>
      have absent : '\n' ∉ (Text.trimmed condition).toList := by
        rw [Text.trimmed, String.toList_ofList]
        intro newline
        exact oneLine condition (by simp [quoted]) (Text.trim_subset _ newline)
      have reason : IsPlainLine
          ("The file branches on CMAKE_SYSTEM_PROCESSOR for another architecture "
            ++ "but never for AArch64, so ARM builds take the default path.") :=
        IsPlainLine.append (isPlainLine_ofList (by decide)) (newline_not_mem_ofList (by decide))
      have shown : IsPlainLine ("Last condition seen: " ++ Text.trimmed condition) :=
        IsPlainLine.append (isPlainLine_ofList (by decide)) absent
      have ending :
          "but never for AArch64, so ARM builds take the default path.\n".toList =
            "but never for AArch64, so ARM builds take the default path.".toList ++ ['\n'] :=
        toList_ofList_of_eq_concat (by decide)
      apply reason.isPlain.append_newline shown.isPlain
      simp only [String.toList_append, ending, List.append_assoc, List.cons_append,
        List.nil_append]

end Issue

/-! ## Findings of a scan -/

theorem Rule.newline_not_mem_id (rule : Rule) :
    '\n' ∉ rule.id.toList := by
  cases rule <;> exact newline_not_mem_ofList (by decide)

theorem Rule.newline_not_mem_remediation (rule : Rule) :
    '\n' ∉ rule.remediation.toList := by
  cases rule <;>
    exact newline_not_mem_append (newline_not_mem_ofList (by decide))
      (newline_not_mem_ofList (by decide))

theorem LogicalLine.newline_not_mem_span (line : LogicalLine) :
    '\n' ∉ line.span.toList := by
  have starts : '\n' ∉ (toString line.startLine).toList := newline_not_mem_toString _
  have ends : '\n' ∉ (toString line.endLine).toList := newline_not_mem_toString _
  unfold span
  split
  · have lead : '\n' ∉ ("lines " ++ toString line.startLine ++ "-").toList :=
      newline_not_mem_append
        (newline_not_mem_append (newline_not_mem_ofList (by decide)) starts)
        (newline_not_mem_ofList (by decide))
    exact newline_not_mem_append lead ends
  · exact newline_not_mem_append (newline_not_mem_ofList (by decide)) starts

theorem Finding.isContained_ofIssue
    {issue : Issue} {filePath location : String} {codeSnippet : Option String}
    (oneLine : issue.IsOneLine)
    (plainPath : '\n' ∉ filePath.toList)
    (plainLocation : '\n' ∉ location.toList)
    (snippetContained : ∀ snippet, codeSnippet = some snippet →
      '\n' ∉ snippet.toList ∧ closesBlock snippet.toList = false)
    (line : Nat) :
    (ofIssue issue filePath line location codeSnippet).IsContained where
  ruleId := issue.rule.newline_not_mem_id
  title := oneLine.isPlainLine_title.1
  filePath := plainPath
  location := plainLocation
  description := oneLine.isPlain_description
  snippet := snippetContained
  remediation := issue.rule.newline_not_mem_remediation

namespace Vocabulary

open Classifier

theorem shown_of_mem_reportedIssues
    {vocabulary : Vocabulary} {text : String} {issue : Issue}
    (absent : '\n' ∉ text.toList)
    (member : issue ∈ vocabulary.reportedIssues text) :
    issue.IsOneLine ∧ IsMarked text.toList := by
  simp only [reportedIssues, rowIssues, List.mem_append, List.mem_map,
    Option.mem_toList] at member
  rcases member with (⟨hit, captured, rfl⟩ | ⟨hit, captured, rfl⟩) | ⟨hit, captured, rfl⟩
  · obtain ⟨wordAbsent, marked⟩ :=
      shown_of_capture? exclusive_lookupCommands isMarked_lookupCommands absent captured
    exact ⟨List.forall_mem_singleton.mpr wordAbsent, marked⟩
  · obtain ⟨wordAbsent, marked⟩ :=
      shown_of_capture? exclusive_optionMark isMarked_optionMark absent captured
    exact ⟨List.forall_mem_singleton.mpr wordAbsent, marked⟩
  · obtain ⟨wordAbsent, marked⟩ :=
      shown_of_capture? exclusive_tuningLeads isMarked_tuningLeads absent captured
    have flagAbsent : '\n' ∉ hit.1.name.toList := by
      cases hit.1 <;> exact newline_not_mem_ofList (by decide)
    exact ⟨List.forall_mem_cons.mpr ⟨flagAbsent, List.forall_mem_singleton.mpr wordAbsent⟩, marked⟩

end Vocabulary

namespace Scan

open Folding

theorem isContained_of_mem_statementFindings
    {vocabulary : Vocabulary} {filePath : String} {line : LogicalLine} {finding : Finding}
    (plainPath : '\n' ∉ filePath.toList)
    (absent : '\n' ∉ line.text.toList)
    (member : finding ∈ statementFindings vocabulary filePath line) :
    finding.IsContained := by
  obtain ⟨issue, issueMember, rfl⟩ := List.mem_map.mp member
  obtain ⟨oneLine, marked⟩ := Vocabulary.shown_of_mem_reportedIssues absent issueMember
  apply Finding.isContained_ofIssue oneLine plainPath line.newline_not_mem_span
  intro snippet isSnippet
  cases isSnippet
  exact marked.trimmed_contained absent

theorem exists_of_mem_conditionVerdict
    {vocabulary : Vocabulary} {lines : List LogicalLine} {issue : Issue}
    (member : issue ∈ (evidenceOf vocabulary lines).conditionVerdict) :
    ∃ line ∈ lines, vocabulary.fires .otherCondition line.text = true ∧
      issue = .otherArchCondition line.text := by
  rw [conditionVerdict_evidenceOf] at member
  split at member
  · exact nomatch member
  · obtain ⟨line, isLast, rfl⟩ := List.mem_map.mp member
    have branch := List.mem_of_getLast? (Option.mem_toList.mp isLast)
    obtain ⟨lineMember, fires⟩ := List.mem_filter.mp branch
    exact ⟨line, lineMember, fires, rfl⟩

theorem isContained_of_mem_fileFindings
    {vocabulary : Vocabulary} {filePath : String} {lastLine : Nat}
    {lines : List LogicalLine} {finding : Finding}
    (plainPath : '\n' ∉ filePath.toList)
    (absent : ∀ line ∈ lines, '\n' ∉ line.text.toList)
    (member : finding ∈ fileFindings vocabulary filePath lastLine lines) :
    finding.IsContained := by
  have atEnd : '\n' ∉ "end of file".toList := newline_not_mem_ofList (by decide)
  rw [fileFindings, Evidence.verdict, List.map_append, List.mem_append, List.mem_map,
    List.mem_map] at member
  rcases member with ⟨issue, issueMember, rfl⟩ | ⟨issue, issueMember, rfl⟩
  · obtain ⟨line, lineMember, fires, rfl⟩ := exists_of_mem_conditionVerdict issueMember
    have branches := (Vocabulary.fires_iff_branchesOn rfl vocabulary line.text).mp fires
    have oneLine : (Issue.otherArchCondition line.text).IsOneLine := by
      rw [Issue.IsOneLine, Issue.quoted, List.forall_mem_singleton]
      exact absent line lineMember
    apply Finding.isContained_ofIssue oneLine plainPath atEnd
    intro snippet isSnippet
    cases isSnippet
    exact (Classifier.isMarked_of_branchesOn branches).trimmed_contained (absent line lineMember)
  · have issue_eq : issue = .counterpartTuningMissing .neoverse .ampereOne := by
      unfold Evidence.tuningVerdict at issueMember
      split at issueMember
      · exact List.mem_singleton.mp issueMember
      · exact (List.not_mem_nil issueMember).elim
    subst issue_eq
    have oneLine : (Issue.counterpartTuningMissing .neoverse .ampereOne).IsOneLine :=
      List.forall_mem_nil _
    apply Finding.isContained_ofIssue oneLine plainPath atEnd
    intro snippet isSnippet
    cases isSnippet

theorem isContained_of_mem_ofSource
    {vocabulary : Vocabulary} {table : Table}
    (compiled : Table.compile vocabulary = .ok table)
    {filePath : String} {source : Source} {finding : Finding}
    (plainPath : '\n' ∉ filePath.toList)
    (member : finding ∈ (ofSource table filePath source).1) :
    finding.IsContained := by
  have absent :
      ∀ line ∈ visible (statements (source.lines.map PhysicalLine.text)),
        '\n' ∉ line.text.toList := by
    intro line lineMember
    exact newline_not_mem_statements source.newline_not_mem_lines line
      (List.mem_filter.mp lineMember).1
  have found := (ofSource_findings_begin_ofLines compiled filePath source).subset member
  rw [ofLines_of_compile compiled, List.mem_append] at found
  rcases found with early | late
  · obtain ⟨line, lineMember, statementMember⟩ := List.mem_flatMap.mp early
    exact isContained_of_mem_statementFindings plainPath (absent line lineMember) statementMember
  · exact isContained_of_mem_fileFindings plainPath absent late

/-- Whatever the scanned files hold, a reader of the report finds the snippets of the findings as
code blocks, one line in each, and no other block, and ends outside of all blocks. -/
theorem code_blocks_exact
    {vocabulary : Vocabulary} {table : Table}
    (compiled : Table.compile vocabulary = .ok table)
    {files : List (String × Source)}
    (plainPaths : ∀ file ∈ files, '\n' ∉ file.1.toList)
    {scannedPath : String}
    (plainScannedPath : '\n' ∉ scannedPath.toList)
    (timestamp : String) (filesScanned : Nat) :
    Markdown.read
        (Report.ofFindings timestamp (scanInto table [] files) scannedPath
          filesScanned).renderMarkdown =
      ⟨((scanInto table [] files).filterMap Finding.codeSnippet).map fun snippet =>
          ⟨"```cmake".toList, [snippet.toList]⟩,
        none⟩ := by
  have version : '\n' ∉ ArchAudit.version.toList := newline_not_mem_ofList (by decide)
  have contained : ∀ finding ∈ scanInto table [] files, finding.IsContained := by
    intro finding member
    rw [scanInto_eq_append, List.nil_append, List.mem_flatMap] at member
    obtain ⟨file, fileMember, found⟩ := member
    exact isContained_of_mem_ofSource compiled (plainPaths file fileMember) found
  exact Report.read_renderMarkdown (.ofFindings timestamp _ scannedPath filesScanned)
    plainScannedPath version contained

def fencedFiles : List (String × Source) :=
  [("a", .ofText "```\n``` find_package(MKL) ```\nif(CMAKE_SYSTEM_PROCESSOR x86_64)```\n```"),
    ("b`", ⟨Text.Utf8.encode "``` \\\n```\\\n -mavx```\n```", some .notFound⟩)]

/-- Fences in the files, also as the parts of a continued line, stay inside the blocks. -/
theorem code_blocks_exact_fenced :
    Table.compile sampleVocabulary = .ok sampleTable ∧
      (∀ file ∈ fencedFiles, '\n' ∉ file.1.toList) ∧
      Markdown.read
          (Report.ofFindings "0" (scanInto sampleTable [] fencedFiles) "." 2).renderMarkdown =
        ⟨[⟨"```cmake".toList, ["``` find_package(MKL) ```".toList]⟩,
            ⟨"```cmake".toList, ["if(CMAKE_SYSTEM_PROCESSOR x86_64)```".toList]⟩,
            ⟨"```cmake".toList, ["``` ``` -mavx```".toList]⟩],
          none⟩ := by
  have plainPaths : ∀ file ∈ fencedFiles, '\n' ∉ file.1.toList := by
    decide
  have snippets :
      (scanInto sampleTable [] fencedFiles).filterMap Finding.codeSnippet =
        ["``` find_package(MKL) ```", "if(CMAKE_SYSTEM_PROCESSOR x86_64)```",
          "``` ``` -mavx```"] := by
    decide +kernel
  have plainScannedPath : '\n' ∉ ".".toList := by
    decide
  have blocks := code_blocks_exact compile_sampleVocabulary plainPaths plainScannedPath "0" 2
  rw [snippets] at blocks
  exact ⟨compile_sampleVocabulary, plainPaths, blocks⟩

end Scan

end ArchAudit
