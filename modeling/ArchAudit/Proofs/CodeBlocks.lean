import ArchAudit.Report.Markdown
import ArchAudit.Proofs.Splitting
import ArchAudit.Text.Blank
import ArchAudit.Text.Digit

/-!
# Code blocks of a Markdown report

A reader of Markdown goes through a document line by line and knows only whether it is inside a
fenced block.  A report consists of paragraphs that open no block and of snippets between fences.
If the texts of its findings keep to their lines and no snippet looks like a closing fence, the
reader finds the snippets, each in a block of its own, and nothing else.
-/

namespace ArchAudit

namespace Markdown

/-! ## Reading code blocks -/

def backtick : Char :=
  '\x60'

def fence : List Char :=
  [backtick, backtick, backtick]

/-- Whether a line begins with three backticks. -/
def opensBlock (line : List Char) : Bool :=
  fence.isPrefixOf line

/-- Whether a line holds three or more backticks, behind them blanks, and nothing else. -/
def closesBlock (line : List Char) : Bool :=
  fence.isPrefixOf line && (line.dropWhile fun c => c = backtick).all Text.isBlank

/-- A code block: the line that opens it and the lines up to the one that closes it. -/
structure CodeBlock where
  opening : List Char
  content : List (List Char)
deriving DecidableEq, Repr

/-- What has been read of a document: the complete blocks, first one first, and the block that is
still open. -/
structure Reading where
  blocks : List CodeBlock
  current : Option CodeBlock
deriving DecidableEq, Repr

namespace Reading

/-- Takes in one line. -/
def feed (reading : Reading) (line : List Char) : Reading :=
  match reading.current with
  | none =>
      if opensBlock line then { reading with current := some ⟨line, []⟩ } else reading
  | some block =>
      if closesBlock line then ⟨reading.blocks ++ [block], none⟩
      else { reading with current := some { block with content := block.content ++ [line] } }

section Steps

variable {line : List Char} (blocks : List CodeBlock) (block : CodeBlock)

theorem feed_plain
    (plain : opensBlock line = false) :
    feed ⟨blocks, none⟩ line = ⟨blocks, none⟩ := by
  simp [feed, plain]

theorem feed_opening
    (opens : opensBlock line = true) :
    feed ⟨blocks, none⟩ line = ⟨blocks, some ⟨line, []⟩⟩ := by
  simp [feed, opens]

theorem feed_inside
    (inside : closesBlock line = false) :
    feed ⟨blocks, some block⟩ line =
      ⟨blocks, some ⟨block.opening, block.content ++ [line]⟩⟩ := by
  simp [feed, inside]

theorem feed_closing
    (closes : closesBlock line = true) :
    feed ⟨blocks, some block⟩ line = ⟨blocks ++ [block], none⟩ := by
  simp [feed, closes]

end Steps

/-- Takes in the lines of a text. -/
def feedText (reading : Reading) (text : String) : Reading :=
  (Text.splitList '\n' text.toList).foldl feed reading

end Reading

/-- Reads a whole document. -/
def read (document : String) : Reading :=
  Reading.feedText ⟨[], none⟩ document

/-! ## Paragraphs -/

/-- Some texts with a newline behind each of them. -/
def unlines : List String → List Char
  | [] => []
  | text :: others => text.toList ++ '\n' :: unlines others

theorem unlines_append (first second : List String) :
    unlines (first ++ second) = unlines first ++ unlines second := by
  induction first with
  | nil => rfl
  | cons text others inductionHypothesis =>
      rw [List.cons_append, unlines, unlines, inductionHypothesis, List.append_assoc,
        List.cons_append]

/-- Whether no line of a text opens a block. -/
def IsPlain (text : String) : Prop :=
  ∀ line ∈ Text.splitList '\n' text.toList, opensBlock line = false

/-- Whether a text keeps to one line and begins with something else than a backtick. -/
def IsPlainLine (text : String) : Prop :=
  '\n' ∉ text.toList ∧ (text.toList.head?.any fun c => c ≠ backtick) = true

-- A literal is a list of characters made into a text.  To look at the list takes far less time
-- than to decode the text, so the next two lemmas serve for literals.

theorem newline_not_mem_ofList
    {chars : List Char}
    (absent : '\n' ∉ chars) :
    '\n' ∉ (String.ofList chars).toList := by
  rwa [String.toList_ofList]

theorem isPlainLine_ofList
    {chars : List Char}
    (plainLine : '\n' ∉ chars ∧ (chars.head?.any fun c => c ≠ backtick) = true) :
    IsPlainLine (String.ofList chars) := by
  rwa [IsPlainLine, String.toList_ofList]

theorem newline_not_mem_append
    {first second : String}
    (firstAbsent : '\n' ∉ first.toList)
    (secondAbsent : '\n' ∉ second.toList) :
    '\n' ∉ (first ++ second).toList := by
  rw [String.toList_append, List.mem_append, not_or]
  exact ⟨firstAbsent, secondAbsent⟩

theorem IsPlainLine.append
    {first second : String}
    (plainLine : IsPlainLine first)
    (absent : '\n' ∉ second.toList) :
    IsPlainLine (first ++ second) := by
  obtain ⟨firstAbsent, begins⟩ := plainLine
  constructor
  · exact newline_not_mem_append firstAbsent absent
  · rw [String.toList_append, List.head?_append]
    cases shape : first.toList.head? with
    | none => simp [shape] at begins
    | some c => rwa [Option.some_or, ← shape]

theorem newline_not_mem_toString (number : Nat) :
    '\n' ∉ (toString number).toList :=
  Text.not_mem_toString rfl number

theorem isPlainLine_number
    {lead close : String}
    (plainLine : IsPlainLine lead)
    (absent : '\n' ∉ close.toList)
    (number : Nat) :
    IsPlainLine (lead ++ toString number ++ close) :=
  (plainLine.append (newline_not_mem_toString number)).append absent

theorem IsPlainLine.isPlain
    {text : String}
    (plainLine : IsPlainLine text) :
    IsPlain text := by
  obtain ⟨absent, begins⟩ := plainLine
  intro line member
  rw [Text.splitList_of_not_mem absent, List.mem_singleton] at member
  subst member
  cases shape : text.toList with
  | nil => rfl
  | cons c rest =>
      have different : c ≠ backtick := by simpa [shape] using begins
      simp [opensBlock, fence, List.isPrefixOf, different.symm]

theorem isPlain_empty :
    IsPlain "" := by
  intro line member
  rw [List.mem_singleton.mp member]
  rfl

theorem IsPlain.append_newline
    {first second text : String}
    (firstPlain : IsPlain first)
    (secondPlain : IsPlain second)
    (text_eq : text.toList = first.toList ++ '\n' :: second.toList) :
    IsPlain text := by
  intro line member
  rw [text_eq, Text.splitList_append_cons, List.mem_append] at member
  rcases member with inFirst | inSecond
  · exact firstPlain line inFirst
  · exact secondPlain line inSecond

namespace Reading

theorem foldl_feed_plain
    {lines : List (List Char)}
    (plain : ∀ line ∈ lines, opensBlock line = false)
    (blocks : List CodeBlock) :
    lines.foldl feed ⟨blocks, none⟩ = ⟨blocks, none⟩ := by
  induction lines with
  | nil => rfl
  | cons line others inductionHypothesis =>
      obtain ⟨linePlain, othersPlain⟩ := List.forall_mem_cons.mp plain
      rw [List.foldl_cons, feed_plain blocks linePlain, inductionHypothesis othersPlain]

theorem feedText_plain
    {text : String}
    (plain : IsPlain text)
    (blocks : List CodeBlock) :
    feedText ⟨blocks, none⟩ text = ⟨blocks, none⟩ :=
  foldl_feed_plain plain blocks

theorem foldl_feedText_plain
    {texts : List String}
    (plain : ∀ text ∈ texts, IsPlain text)
    (blocks : List CodeBlock) :
    texts.foldl feedText ⟨blocks, none⟩ = ⟨blocks, none⟩ := by
  induction texts with
  | nil => rfl
  | cons text others inductionHypothesis =>
      obtain ⟨textPlain, othersPlain⟩ := List.forall_mem_cons.mp plain
      rw [List.foldl_cons, feedText_plain textPlain, inductionHypothesis othersPlain]

theorem feedText_line
    {text : String}
    (absent : '\n' ∉ text.toList)
    (reading : Reading) :
    reading.feedText text = reading.feed text.toList := by
  rw [feedText, Text.splitList_of_not_mem absent]
  rfl

end Reading

theorem foldl_feed_unlines (texts : List String) (reading : Reading) :
    (Text.splitList '\n' (unlines texts)).foldl Reading.feed reading =
      (texts.foldl Reading.feedText reading).feed [] := by
  induction texts generalizing reading with
  | nil => rfl
  | cons text others inductionHypothesis =>
      rw [unlines, Text.splitList_append_cons, List.foldl_append, inductionHypothesis,
        List.foldl_cons, Reading.feedText]

/-- Behind the last newline of a document there is an empty line, which does nothing. -/
theorem read_eq_of_unlines
    {document : String} {texts : List String} {blocks : List CodeBlock}
    (document_eq : document.toList = unlines texts)
    (closed : texts.foldl Reading.feedText ⟨[], none⟩ = ⟨blocks, none⟩) :
    read document = ⟨blocks, none⟩ := by
  rw [read, Reading.feedText, document_eq, foldl_feed_unlines, closed]
  rfl

end Markdown

/-! ## Findings that keep to their place -/

open Markdown

/-- Whether the texts of a finding keep to their lines, its description opens no block, and its
snippet closes none. -/
structure Finding.IsContained (finding : Finding) : Prop where
  ruleId : '\n' ∉ finding.ruleId.toList
  title : '\n' ∉ finding.title.toList
  filePath : '\n' ∉ finding.filePath.toList
  location : '\n' ∉ finding.location.toList
  description : IsPlain finding.description
  snippet : ∀ snippet, finding.codeSnippet = some snippet →
    '\n' ∉ snippet.toList ∧ closesBlock snippet.toList = false
  remediation : '\n' ∉ finding.remediation.toList

namespace Report

/-- The block that a report puts around a snippet. -/
def snippetBlock (snippet : String) : CodeBlock :=
  ⟨"```cmake".toList, [snippet.toList]⟩

/-- The blocks of the findings that have a snippet. -/
def snippetBlocks (findings : List Finding) : List CodeBlock :=
  (findings.filterMap Finding.codeSnippet).map snippetBlock

/-! ## Reports as paragraphs -/

def headTexts (report : Report) : List String :=
  ["# AArch64 Portability Report", "",
    "- **Scanned path:** `" ++ report.metadata.scannedPath ++ "`",
    "- **Files scanned:** " ++ toString report.metadata.filesScanned,
    "- **Tool version:** " ++ report.metadata.version, "",
    "## Summary", "", "| Severity | Count |", "|----------|-------|",
    "| High | " ++ toString report.summary.high ++ " |",
    "| Medium | " ++ toString report.summary.medium ++ " |",
    "| Low | " ++ toString report.summary.low ++ " |",
    "| Info | " ++ toString report.summary.info ++ " |",
    "| **Total** | **" ++ toString report.summary.total ++ "** |", ""]

/-- The paragraphs of a section in front of its snippet. -/
def introTexts (number : Nat) (finding : Finding) : List String :=
  ["### " ++ toString number ++ ". [" ++ finding.ruleId ++ "] " ++ finding.title, "",
    finding.severity.badge, "",
    "**Location:** `" ++ finding.filePath ++ ":" ++ toString finding.line ++ "` ("
      ++ finding.location ++ ")", "",
    finding.description, ""]

def snippetTexts : Option String → List String
  | some snippet => ["```cmake", snippet, "```", ""]
  | none => []

def sectionTexts (number : Nat) (finding : Finding) : List String :=
  introTexts number finding ++ snippetTexts finding.codeSnippet
    ++ ["**Remediation:** " ++ finding.remediation, ""]

def sectionsTexts (number : Nat) : List Finding → List String
  | [] => []
  | finding :: findings => sectionTexts number finding ++ sectionsTexts (number + 1) findings

def texts (report : Report) : List String :=
  report.headTexts
    ++ if report.findings.isEmpty then ["No portability issues found."]
      else ["## Findings", ""] ++ sectionsTexts 1 report.findings

theorem toList_markdownHead (report : Report) :
    report.markdownHead.toList = unlines report.headTexts := by
  unfold markdownHead headTexts
  simp only [unlines, String.toList_append, List.append_assoc]
  simp only [String.reduceToList, List.cons_append, List.nil_append]

theorem toList_markdownSnippet (snippet : Option String) :
    (markdownSnippet snippet).toList = unlines (snippetTexts snippet) := by
  cases snippet with
  | none => rfl
  | some snippet =>
      unfold markdownSnippet snippetTexts
      simp only [unlines, String.toList_append, String.reduceToList, List.cons_append,
        List.nil_append]

theorem toList_markdownSection (number : Nat) (finding : Finding) :
    (markdownSection number finding).toList = unlines (sectionTexts number finding) := by
  rw [sectionTexts, unlines_append, unlines_append, ← toList_markdownSnippet]
  unfold markdownSection introTexts
  simp only [unlines, String.toList_append, String.reduceToList, List.append_assoc,
    List.cons_append, List.nil_append]

theorem toList_markdownSections (number : Nat) (findings : List Finding) :
    (markdownSections number findings).toList = unlines (sectionsTexts number findings) := by
  induction findings generalizing number with
  | nil => rfl
  | cons finding others inductionHypothesis =>
      rw [markdownSections, sectionsTexts, String.toList_append, unlines_append,
        toList_markdownSection, inductionHypothesis]

theorem toList_renderMarkdown (report : Report) :
    report.renderMarkdown.toList = unlines report.texts := by
  rw [renderMarkdown, texts, String.toList_append, unlines_append, toList_markdownHead]
  congr 1
  split
  · rfl
  · rw [String.toList_append, unlines_append, toList_markdownSections]
    rfl

/-! ## Reading a report -/

theorem isPlainLine_badge (severity : Severity) :
    IsPlainLine severity.badge := by
  cases severity with
  | info => exact isPlainLine_ofList (by decide)
  | low => exact isPlainLine_ofList (by decide)
  | medium => exact isPlainLine_ofList (by decide)
  | high => exact isPlainLine_ofList (by decide)

theorem headTexts_plain
    {report : Report}
    (scannedPath : '\n' ∉ report.metadata.scannedPath.toList)
    (version : '\n' ∉ report.metadata.version.toList) :
    ∀ text ∈ report.headTexts, IsPlain text := by
  have title : IsPlainLine "# AArch64 Portability Report" :=
    isPlainLine_ofList (by decide)
  have path : IsPlainLine ("- **Scanned path:** `" ++ report.metadata.scannedPath ++ "`") :=
    (IsPlainLine.append (isPlainLine_ofList (by decide)) scannedPath).append
      (newline_not_mem_ofList (by decide))
  have files : IsPlainLine ("- **Files scanned:** " ++ toString report.metadata.filesScanned) :=
    IsPlainLine.append (isPlainLine_ofList (by decide)) (newline_not_mem_toString _)
  have tool : IsPlainLine ("- **Tool version:** " ++ report.metadata.version) :=
    IsPlainLine.append (isPlainLine_ofList (by decide)) version
  have summary : IsPlainLine "## Summary" :=
    isPlainLine_ofList (by decide)
  have columns : IsPlainLine "| Severity | Count |" :=
    isPlainLine_ofList (by decide)
  have rule : IsPlainLine "|----------|-------|" :=
    isPlainLine_ofList (by decide)
  have count :
      ∀ {lead : String}, IsPlainLine lead → ∀ number : Nat,
        IsPlain (lead ++ toString number ++ " |") := by
    intro lead plainLine number
    exact (isPlainLine_number plainLine (newline_not_mem_ofList (by decide)) number).isPlain
  have total : IsPlainLine ("| **Total** | **" ++ toString report.summary.total ++ "** |") :=
    isPlainLine_number (isPlainLine_ofList (by decide))
      (newline_not_mem_ofList (by decide)) report.summary.total
  simp only [headTexts, List.forall_mem_cons]
  exact ⟨title.isPlain, isPlain_empty, path.isPlain, files.isPlain, tool.isPlain, isPlain_empty,
    summary.isPlain, isPlain_empty, columns.isPlain, rule.isPlain,
    count (isPlainLine_ofList (by decide)) report.summary.high,
    count (isPlainLine_ofList (by decide)) report.summary.medium,
    count (isPlainLine_ofList (by decide)) report.summary.low,
    count (isPlainLine_ofList (by decide)) report.summary.info,
    total.isPlain, isPlain_empty, List.forall_mem_nil _⟩

theorem introTexts_plain
    {finding : Finding}
    (contained : finding.IsContained)
    (number : Nat) :
    ∀ text ∈ introTexts number finding, IsPlain text := by
  have numbered : IsPlainLine ("### " ++ toString number ++ ". [") :=
    isPlainLine_number (isPlainLine_ofList (by decide))
      (newline_not_mem_ofList (by decide)) number
  have heading :
      IsPlainLine
        ("### " ++ toString number ++ ". [" ++ finding.ruleId ++ "] " ++ finding.title) :=
    ((numbered.append contained.ruleId).append (newline_not_mem_ofList (by decide))).append
      contained.title
  have path : IsPlainLine ("**Location:** `" ++ finding.filePath ++ ":") :=
    (IsPlainLine.append (isPlainLine_ofList (by decide)) contained.filePath).append
      (newline_not_mem_ofList (by decide))
  have location :
      IsPlainLine
        ("**Location:** `" ++ finding.filePath ++ ":" ++ toString finding.line ++ "` ("
          ++ finding.location ++ ")") :=
    ((isPlainLine_number path (newline_not_mem_ofList (by decide)) finding.line).append
      contained.location).append (newline_not_mem_ofList (by decide))
  simp only [introTexts, List.forall_mem_cons]
  exact ⟨heading.isPlain, isPlain_empty, (isPlainLine_badge finding.severity).isPlain,
    isPlain_empty, location.isPlain, isPlain_empty, contained.description, isPlain_empty,
    List.forall_mem_nil _⟩

theorem foldl_feedText_snippetTexts
    {finding : Finding}
    (contained : finding.IsContained)
    (blocks : List CodeBlock) :
    (snippetTexts finding.codeSnippet).foldl Reading.feedText ⟨blocks, none⟩ =
      ⟨blocks ++ snippetBlocks [finding], none⟩ := by
  cases shape : finding.codeSnippet with
  | none => simp [snippetTexts, snippetBlocks, shape]
  | some snippet =>
      obtain ⟨absent, notClosing⟩ := contained.snippet snippet shape
      have opens : opensBlock "```cmake".toList = true := by decide
      have closes : closesBlock "```".toList = true := by decide
      rw [snippetTexts, List.foldl_cons, Reading.feedText_line (by decide),
        Reading.feed_opening blocks opens, List.foldl_cons, Reading.feedText_line absent,
        Reading.feed_inside blocks _ notClosing, List.foldl_cons,
        Reading.feedText_line (by decide), Reading.feed_closing blocks _ closes, List.foldl_cons,
        Reading.feedText_plain isPlain_empty, List.foldl_nil, snippetBlocks,
        List.filterMap_cons_some shape]
      rfl

theorem foldl_feedText_sectionTexts
    {finding : Finding}
    (contained : finding.IsContained)
    (number : Nat) (blocks : List CodeBlock) :
    (sectionTexts number finding).foldl Reading.feedText ⟨blocks, none⟩ =
      ⟨blocks ++ snippetBlocks [finding], none⟩ := by
  have remediation :
      ∀ text ∈ ["**Remediation:** " ++ finding.remediation, ""], IsPlain text := by
    have advice : IsPlainLine ("**Remediation:** " ++ finding.remediation) :=
      IsPlainLine.append (isPlainLine_ofList (by decide)) contained.remediation
    simp only [List.forall_mem_cons]
    exact ⟨advice.isPlain, isPlain_empty, List.forall_mem_nil _⟩
  rw [sectionTexts, List.foldl_append, List.foldl_append,
    Reading.foldl_feedText_plain (introTexts_plain contained number),
    foldl_feedText_snippetTexts contained, Reading.foldl_feedText_plain remediation]

theorem foldl_feedText_sectionsTexts
    {findings : List Finding}
    (contained : ∀ finding ∈ findings, finding.IsContained)
    (number : Nat) (blocks : List CodeBlock) :
    (sectionsTexts number findings).foldl Reading.feedText ⟨blocks, none⟩ =
      ⟨blocks ++ snippetBlocks findings, none⟩ := by
  induction findings generalizing number blocks with
  | nil => simp [sectionsTexts, snippetBlocks]
  | cons finding others inductionHypothesis =>
      obtain ⟨findingContained, othersContained⟩ := List.forall_mem_cons.mp contained
      have blocks_eq :
          snippetBlocks (finding :: others) = snippetBlocks [finding] ++ snippetBlocks others := by
        rw [snippetBlocks, snippetBlocks, snippetBlocks, ← List.map_append,
          ← List.filterMap_append, List.singleton_append]
      rw [sectionsTexts, List.foldl_append, foldl_feedText_sectionTexts findingContained,
        inductionHypothesis othersContained, blocks_eq, List.append_assoc]

/-- In a report whose texts keep to their lines and whose snippets close no block, the code blocks
are the snippets, and the document ends outside of them. -/
theorem read_renderMarkdown
    (report : Report)
    (scannedPath : '\n' ∉ report.metadata.scannedPath.toList)
    (version : '\n' ∉ report.metadata.version.toList)
    (contained : ∀ finding ∈ report.findings, finding.IsContained) :
    read report.renderMarkdown = ⟨snippetBlocks report.findings, none⟩ := by
  apply read_eq_of_unlines (toList_renderMarkdown report)
  rw [texts, List.foldl_append,
    Reading.foldl_feedText_plain (headTexts_plain scannedPath version)]
  split
  case isTrue empty =>
    have nothing : IsPlainLine "No portability issues found." :=
      isPlainLine_ofList (by decide)
    rw [List.foldl_cons, Reading.feedText_plain nothing.isPlain, List.isEmpty_iff.mp empty]
    rfl
  case isFalse _ =>
    have heading : IsPlainLine "## Findings" :=
      isPlainLine_ofList (by decide)
    rw [List.foldl_append, List.foldl_cons, List.foldl_cons,
      Reading.feedText_plain heading.isPlain, Reading.feedText_plain isPlain_empty,
      List.foldl_nil, foldl_feedText_sectionsTexts contained, List.nil_append]

end Report

end ArchAudit
