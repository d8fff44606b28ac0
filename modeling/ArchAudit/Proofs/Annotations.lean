import ArchAudit.Classifier.Search
import ArchAudit.Proofs.EscapeCodes
import ArchAudit.Proofs.Lines
import ArchAudit.Proofs.Splitting
import ArchAudit.Text.Digit
import Mathlib

/-!
# Reading annotations back

A workflow command is a line `::level key=value,key=value::message`.  The properties end at the
first `::` behind the level and are divided by commas; values and the message hold escape codes.
The annotations of a report are read back by this grammar.  Titles and messages are escaped, and
paths are not: an annotation can be read back exactly if its path holds nothing that the grammar
gives a meaning to.
-/

namespace ArchAudit.Report

open Classifier (after? after?_eq_some_iff)

/-! ## The grammar -/

/-- Cuts a text at the first place where a mark stands. -/
def cutAt (mark : List Char) : List Char → Option (List Char × List Char)
  | [] => none
  | c :: rest =>
      match after? mark (c :: rest) with
      | some behind => some ([], behind)
      | none => (cutAt mark rest).map fun parts => (c :: parts.1, parts.2)

/-- The mark in front of a command and behind its properties. -/
def commandMark : List Char :=
  [':', ':']

/-- A command to the workflow. -/
structure WorkflowCommand where
  level : String
  /-- The properties, each a key and its value, in the order in which they stand. -/
  properties : List (String × String)
  message : String
deriving DecidableEq, Repr

/-- Reads one property. -/
def property? (field : List Char) : Option (String × String) :=
  (cutAt ['='] field).map fun parts =>
    (String.ofList parts.1, String.ofList (decode propertyCodes parts.2))

/-- Reads the properties and the message of a command. -/
def commandBody? (level : String) (text : List Char) : Option WorkflowCommand :=
  (cutAt commandMark text).bind fun parts =>
    ((Text.splitList ',' parts.1).mapM property?).map fun properties =>
      ⟨level, properties, String.ofList (decode messageCodes parts.2)⟩

/-- Reads a line as a command. -/
def command? (line : List Char) : Option WorkflowCommand :=
  (after? commandMark line).bind fun text =>
    (cutAt [' '] text).bind fun parts => commandBody? (String.ofList parts.1) parts.2

/-- What an annotation remarks on. -/
structure Remark where
  level : String
  file : String
  line : Nat
  title : String
  message : String
deriving DecidableEq, Repr

/-- The annotation that a command makes. -/
def Remark.ofCommand? (command : WorkflowCommand) : Option Remark :=
  (command.properties.lookup "file").bind fun file =>
    ((command.properties.lookup "line").bind String.toNat?).bind fun line =>
      (command.properties.lookup "title").map fun title =>
        ⟨command.level, file, line, title, command.message⟩

/-- The annotation that a finding calls for. -/
def Remark.ofFinding (finding : Finding) : Remark :=
  ⟨finding.severity.annotationLevel, finding.filePath, finding.line, finding.title,
    finding.description⟩

/-- Reads one line as an annotation. -/
def remark? (line : List Char) : Option Remark :=
  (command? line).bind Remark.ofCommand?

/-- Reads a text line by line.  A line without its newline is not read. -/
def readAnnotations (text : List Char) : List (Option Remark) :=
  (Text.pieces '\n' text).map fun piece =>
    if piece.ended then remark? piece.content else none

/-! ## Cutting at a mark -/

theorem cutAt_front (c : Char) (mark behind : List Char) :
    cutAt (c :: mark) (c :: mark ++ behind) = some ([], behind) := by
  have found : after? (c :: mark) (c :: mark ++ behind) = some behind :=
    (after?_eq_some_iff _ _ _).mpr rfl
  rw [List.cons_append] at found ⊢
  rw [cutAt, found]

theorem cutAt_append_of_not_mem
    {c : Char} {before : List Char}
    (absent : c ∉ before)
    (mark text : List Char) :
    cutAt (c :: mark) (before ++ text) =
      (cutAt (c :: mark) text).map fun parts => (before ++ parts.1, parts.2) := by
  induction before with
  | nil => simp
  | cons d rest inductionHypothesis =>
      obtain ⟨headDifferent, tailAbsent⟩ := List.ne_and_not_mem_of_not_mem_cons absent
      rw [List.cons_append, cutAt, after?, if_neg headDifferent, inductionHypothesis tailAbsent,
        Option.map_map]
      rfl

theorem cutAt_of_not_mem
    {c : Char} {before : List Char}
    (absent : c ∉ before)
    (mark behind : List Char) :
    cutAt (c :: mark) (before ++ (c :: mark ++ behind)) = some (before, behind) := by
  rw [cutAt_append_of_not_mem absent, cutAt_front, Option.map_some, List.append_nil]

/-- A mark of two colons is not begun by the last colon of a text and the character behind it. -/
theorem cutAt_commandMark_append
    {before : List Char} {c : Char}
    (absent : ¬ commandMark <:+: before)
    (different : c ≠ ':')
    (rest : List Char) :
    cutAt commandMark (before ++ c :: rest) =
      (cutAt commandMark (c :: rest)).map fun parts => (before ++ parts.1, parts.2) := by
  induction before with
  | nil => simp
  | cons d others inductionHypothesis =>
      rw [List.infix_cons_iff, not_or] at absent
      have notHere : after? commandMark (d :: (others ++ c :: rest)) = none := by
        rw [Option.eq_none_iff_forall_ne_some]
        intro behind found
        have same := (after?_eq_some_iff _ _ _).mp found
        cases others with
        | nil => simp_all [commandMark]
        | cons e more =>
            apply absent.1
            simp_all [commandMark]
      rw [List.cons_append, cutAt, notHere, inductionHypothesis absent.2, Option.map_map]
      rfl

/-- Only the first mark is cut at. -/
theorem cutAt_sound
    {mark text before behind : List Char}
    (nonempty : mark ≠ [])
    (found : cutAt mark text = some (before, behind)) :
    before <+: text ∧ ¬ mark <:+: before := by
  induction text generalizing before with
  | nil => exact nomatch found
  | cons c rest inductionHypothesis =>
      rw [cutAt] at found
      split at found
      · cases found
        refine ⟨List.nil_prefix, ?_⟩
        rw [List.infix_nil]
        exact nonempty
      · next notHere =>
          obtain ⟨parts, restFound, partsEq⟩ := Option.map_eq_some_iff.mp found
          cases partsEq
          obtain ⟨begins, absent⟩ := inductionHypothesis restFound
          refine ⟨List.cons_prefix_cons.mpr ⟨rfl, begins⟩, ?_⟩
          rw [List.infix_cons_iff, not_or]
          refine ⟨?_, absent⟩
          intro markBegins
          obtain ⟨tail, same⟩ := markBegins.trans (List.cons_prefix_cons.mpr ⟨rfl, begins⟩)
          exact nomatch notHere.symm.trans ((after?_eq_some_iff _ _ _).mpr same.symm)

/-! ## Lines with a file property in front -/

/-- A key and the sign behind it. -/
def keyPart (key : String) : List Char :=
  key.toList ++ ['=']

/-- A line with a given level and a file property in front. -/
def fileLine (level : String) (fields : List Char) : List Char :=
  commandMark ++ (level.toList ++ ([' '] ++ (keyPart "file" ++ fields)))

theorem command?_fileLine
    {level : String}
    (oneWord : ' ' ∉ level.toList)
    (fields : List Char) :
    command? (fileLine level fields) = commandBody? level (keyPart "file" ++ fields) := by
  have begins :
      after? commandMark (fileLine level fields) =
        some (level.toList ++ ([' '] ++ (keyPart "file" ++ fields))) :=
    (after?_eq_some_iff _ _ _).mpr rfl
  rw [command?, begins, Option.bind_some, cutAt_of_not_mem oneWord [] _, Option.bind_some,
    String.ofList_toList]

theorem property?_append
    (key : String)
    (absent : '=' ∉ key.toList)
    (value : List Char) :
    property? (keyPart key ++ value) =
      some (key, String.ofList (decode propertyCodes value)) := by
  have cut := cutAt_of_not_mem absent [] value
  rw [property?, keyPart, List.append_assoc, cut, Option.map_some, String.ofList_toList]

theorem commandBody?_eq_some
    {level : String} {text : List Char} {command : WorkflowCommand}
    (read : commandBody? level text = some command) :
    ∃ fields message, cutAt commandMark text = some (fields, message) ∧
      (Text.splitList ',' fields).mapM property? = some command.properties := by
  obtain ⟨⟨fields, message⟩, cut, rest⟩ := Option.bind_eq_some_iff.mp read
  obtain ⟨properties, propertiesRead, rfl⟩ := Option.map_eq_some_iff.mp rest
  exact ⟨fields, message, cut, propertiesRead⟩

theorem lookup_file_of_ofCommand?
    {command : WorkflowCommand} {remark : Remark}
    (read : Remark.ofCommand? command = some remark) :
    command.properties.lookup "file" = some remark.file := by
  obtain ⟨file, found, rest⟩ := Option.bind_eq_some_iff.mp read
  obtain ⟨line, _, last⟩ := Option.bind_eq_some_iff.mp rest
  obtain ⟨title, _, rfl⟩ := Option.map_eq_some_iff.mp last
  exact found

/-- The file of an annotation is decoded from the front of what stands behind `file=`, up to a comma
or the mark behind the properties. -/
theorem file_of_remark?
    {level : String} {fields : List Char} {remark : Remark}
    (oneWord : ' ' ∉ level.toList)
    (read : remark? (fileLine level fields) = some remark) :
    ∃ raw, raw <+: fields ∧ ',' ∉ raw ∧ ¬ commandMark <:+: raw ∧
      remark.file = String.ofList (decode propertyCodes raw) := by
  obtain ⟨command, commandRead, remarkRead⟩ := Option.bind_eq_some_iff.mp read
  rw [command?_fileLine oneWord] at commandRead
  obtain ⟨allFields, message, cut, propertiesRead⟩ := commandBody?_eq_some commandRead
  rw [commandMark, cutAt_append_of_not_mem (by simp [keyPart]), ← commandMark] at cut
  obtain ⟨⟨inner, _⟩, innerCut, cutEq⟩ := Option.map_eq_some_iff.mp cut
  cases cutEq
  obtain ⟨begins, noMark⟩ := cutAt_sound (List.cons_ne_nil _ _) innerCut
  obtain ⟨raw, others, shape, rawBegins, noComma⟩ := Text.splitList_head ',' inner
  have split :
      Text.splitList ',' (keyPart "file" ++ inner) = (keyPart "file" ++ raw) :: others :=
    Text.splitList_append_of_not_mem (by simp [keyPart]) shape
  have file := lookup_file_of_ofCommand? remarkRead
  rw [split, List.mapM_cons, property?_append "file" (by simp)] at propertiesRead
  simp only [Option.bind_eq_bind, Option.bind_some, Option.bind_eq_some_iff, Option.pure_def,
    Option.some.injEq] at propertiesRead
  obtain ⟨properties, _, propertiesEq⟩ := propertiesRead
  rw [← propertiesEq, List.lookup_cons_self] at file
  refine ⟨raw, rawBegins.trans begins, noComma, ?_, (Option.some.inj file).symm⟩
  intro occurs
  exact noMark (occurs.trans rawBegins.isInfix)

/-! ## Lines of findings -/

theorem space_not_mem_annotationLevel (severity : Severity) :
    ' ' ∉ severity.annotationLevel.toList := by
  cases severity <;> decide

/-- What stands behind the path and the comma in the annotation of a finding, up to the mark. -/
def laterFields (finding : Finding) : List Char :=
  keyPart "line" ++ ((toString finding.line).toList ++
    ',' :: (keyPart "title" ++ (escapeProperty finding.title).toList))

/-- What stands behind the path in the annotation of a finding. -/
def behindPath (finding : Finding) : List Char :=
  ',' :: laterFields finding ++ (commandMark ++ (escapeMessage finding.description).toList)

theorem toList_annotationLine (finding : Finding) :
    (annotationLine finding).toList =
      fileLine finding.severity.annotationLevel
        (finding.filePath.toList ++ behindPath finding) ++ ['\n'] := by
  unfold annotationLine fileLine behindPath laterFields commandMark keyPart
  simp only [String.toList_append, String.reduceToList, List.append_assoc, List.cons_append,
    List.nil_append]

/-- Whether a path holds nothing that has a meaning in the value of a property. -/
structure PlainPath (path : List Char) : Prop where
  noNewline : '\n' ∉ path
  noComma : ',' ∉ path
  noMark : ¬ commandMark <:+: path
  noCode : ¬ HoldsCode propertyCodes path

theorem colon_not_mem_laterFields (finding : Finding) :
    ':' ∉ ',' :: laterFields finding := by
  have number : ':' ∉ (toString finding.line).toList := Text.not_mem_toString rfl finding.line
  have title : ':' ∉ (escapeProperty finding.title).toList :=
    not_mem_escapeProperty (by decide) finding.title
  simp_all [laterFields, keyPart]

theorem newline_not_mem_behindPath (finding : Finding) :
    '\n' ∉ behindPath finding := by
  have number : '\n' ∉ (toString finding.line).toList := Text.not_mem_toString rfl finding.line
  have title : '\n' ∉ (escapeProperty finding.title).toList :=
    not_mem_escapeProperty (by decide) finding.title
  have message := newline_not_mem_escapeMessage finding.description
  simp_all [behindPath, laterFields, commandMark, keyPart]

theorem newline_not_mem_fileLine
    {fields : List Char}
    (absent : '\n' ∉ fields)
    (severity : Severity) :
    '\n' ∉ fileLine severity.annotationLevel fields := by
  have levelAbsent : '\n' ∉ severity.annotationLevel.toList := by
    cases severity <;> decide
  simp_all [fileLine, commandMark, keyPart]

/-! ## Annotations of findings with plain paths -/

theorem splitList_laterFields (finding : Finding) :
    Text.splitList ',' (laterFields finding) =
      [keyPart "line" ++ (toString finding.line).toList,
        keyPart "title" ++ (escapeProperty finding.title).toList] := by
  have number : ',' ∉ keyPart "line" ++ (toString finding.line).toList := by
    simpa [keyPart] using Text.not_mem_toString rfl finding.line
  have title : ',' ∉ keyPart "title" ++ (escapeProperty finding.title).toList := by
    simpa [keyPart] using not_mem_escapeProperty (by decide) finding.title
  rw [laterFields, ← List.append_assoc, Text.splitList_append number,
    Text.splitList_of_not_mem title]

theorem property?_line (finding : Finding) :
    property? (keyPart "line" ++ (toString finding.line).toList) =
      some ("line", toString finding.line) := by
  have read := property?_append "line" (by simp) (toString finding.line).toList
  rw [decode_of_not_mem (Text.not_mem_toString rfl finding.line), String.ofList_toList] at read
  exact read

theorem property?_title (finding : Finding) :
    property? (keyPart "title" ++ (escapeProperty finding.title).toList) =
      some ("title", finding.title) := by
  have read := property?_append "title" (by simp) (escapeProperty finding.title).toList
  rw [decode_escapeProperty, String.ofList_toList] at read
  exact read

theorem cutAt_fields
    {finding : Finding}
    (plain : PlainPath finding.filePath.toList) :
    cutAt commandMark
        (keyPart "file" ++ (finding.filePath.toList ++ behindPath finding)) =
      some (keyPart "file" ++ (finding.filePath.toList ++ ',' :: laterFields finding),
        (escapeMessage finding.description).toList) := by
  have later :
      cutAt commandMark (behindPath finding) =
        some (',' :: laterFields finding, (escapeMessage finding.description).toList) :=
    cutAt_of_not_mem (colon_not_mem_laterFields finding) [':'] _
  have behind :
      cutAt commandMark (finding.filePath.toList ++ behindPath finding) =
        some (finding.filePath.toList ++ ',' :: laterFields finding,
          (escapeMessage finding.description).toList) := by
    rw [behindPath, List.cons_append, cutAt_commandMark_append plain.noMark (by decide),
      ← List.cons_append, ← behindPath, later, Option.map_some]
  have noColon : ':' ∉ keyPart "file" := by simp [keyPart]
  rw [commandMark, cutAt_append_of_not_mem noColon, ← commandMark, behind, Option.map_some]

theorem remark?_of_plain
    {finding : Finding}
    (plain : PlainPath finding.filePath.toList) :
    remark? (fileLine finding.severity.annotationLevel
      (finding.filePath.toList ++ behindPath finding)) = some (.ofFinding finding) := by
  have fileComma : ',' ∉ keyPart "file" ++ finding.filePath.toList := by
    simpa [keyPart] using plain.noComma
  have fileRead := property?_append "file" (by simp) finding.filePath.toList
  rw [(decode_eq_self_iff _ _).mpr plain.noCode, String.ofList_toList] at fileRead
  have properties :
      (Text.splitList ','
          (keyPart "file" ++ (finding.filePath.toList ++ ',' :: laterFields finding))).mapM
            property? =
        some [("file", finding.filePath), ("line", toString finding.line),
          ("title", finding.title)] := by
    rw [← List.append_assoc, Text.splitList_append fileComma, splitList_laterFields]
    simp only [List.mapM_cons, List.mapM_nil, fileRead, property?_line, property?_title]
    rfl
  rw [remark?, command?_fileLine (space_not_mem_annotationLevel _), commandBody?,
    cutAt_fields plain]
  simp only [Option.bind_some, properties, Option.map_some, decode_escapeMessage,
    String.ofList_toList]
  simp [Remark.ofCommand?, Remark.ofFinding, Nat.toNat?_repr, List.lookup]

/-! ## Annotations that can be read back -/

theorem readAnnotations_line
    {line : List Char}
    (absent : '\n' ∉ line)
    (rest : List Char) :
    readAnnotations (line ++ '\n' :: rest) = remark? line :: readAnnotations rest := by
  rw [readAnnotations, Text.pieces_of_complete absent, List.map_cons, if_pos rfl, ← readAnnotations]

/-- A path that is longer than what was read of it does not come back. -/
theorem length_le_of_file_eq
    {path : String} {raw : List Char}
    (file : path = String.ofList (decode propertyCodes raw)) :
    path.toList.length ≤ raw.length := by
  rw [file, String.toList_ofList]
  exact length_decode_le propertyCodes raw

theorem newline_not_mem_of_read
    {finding : Finding} {rest : List Char} {later : List (Option Remark)}
    (read :
      readAnnotations ((annotationLine finding).toList ++ rest) =
        some (.ofFinding finding) :: later) :
    '\n' ∉ finding.filePath.toList := by
  intro member
  obtain ⟨front, back, pathEq, absent⟩ := List.eq_append_cons_of_mem member
  -- the first newline of the path ends the line that is read
  have broken :
      (annotationLine finding).toList ++ rest =
        fileLine finding.severity.annotationLevel front ++
          '\n' :: (back ++ behindPath finding ++ ['\n'] ++ rest) := by
    rw [toList_annotationLine, pathEq]
    simp [fileLine]
  rw [broken, readAnnotations_line (newline_not_mem_fileLine absent finding.severity)] at read
  obtain ⟨raw, begins, _, _, file⟩ :=
    file_of_remark? (space_not_mem_annotationLevel _) (List.cons.inj read).1
  have longer : finding.filePath.toList.length ≤ raw.length := length_le_of_file_eq file
  have shorter := begins.length_le
  have pathLength := congrArg List.length pathEq
  simp only [List.length_append, List.length_cons] at pathLength
  omega

theorem plain_of_remark?
    {finding : Finding}
    (noNewline : '\n' ∉ finding.filePath.toList)
    (read :
      remark? (fileLine finding.severity.annotationLevel
        (finding.filePath.toList ++ behindPath finding)) = some (.ofFinding finding)) :
    PlainPath finding.filePath.toList := by
  obtain ⟨raw, begins, noComma, noMark, file⟩ :=
    file_of_remark? (space_not_mem_annotationLevel _) read
  have longer : finding.filePath.toList.length ≤ raw.length := length_le_of_file_eq file
  -- what was read ends in front of the comma behind the path, and it is no shorter than the path
  have raw_eq : raw = finding.filePath.toList := by
    rcases List.prefix_or_prefix_of_prefix begins (List.prefix_append _ _) with
      rawBegins | pathBegins
    · exact rawBegins.eq_of_length_le longer
    · obtain ⟨beyond, rfl⟩ := pathBegins
      cases beyond with
      | nil => rw [List.append_nil]
      | cons c others =>
          have isComma : c = ',' := by
            have tails := (List.prefix_append_right_inj _).mp begins
            exact (List.cons_prefix_cons.mp tails).1
          exact absurd (by simp [isComma]) noComma
  subst raw_eq
  refine ⟨noNewline, noComma, noMark, (decode_eq_self_iff _ _).mp ?_⟩
  have same := congrArg String.toList file
  rw [String.toList_ofList] at same
  exact same.symm

theorem readAnnotations_annotationLine_iff
    (finding : Finding) (rest : List Char) (later : List (Option Remark)) :
    readAnnotations ((annotationLine finding).toList ++ rest) =
        some (.ofFinding finding) :: later ↔
      PlainPath finding.filePath.toList ∧ readAnnotations rest = later := by
  have split (noNewline : '\n' ∉ finding.filePath.toList) :
      readAnnotations ((annotationLine finding).toList ++ rest) =
        remark? (fileLine finding.severity.annotationLevel
          (finding.filePath.toList ++ behindPath finding)) :: readAnnotations rest := by
    have absent : '\n' ∉ finding.filePath.toList ++ behindPath finding := by
      rw [List.mem_append, not_or]
      exact ⟨noNewline, newline_not_mem_behindPath finding⟩
    rw [toList_annotationLine, List.append_assoc, List.singleton_append,
      readAnnotations_line (newline_not_mem_fileLine absent finding.severity)]
  constructor
  · intro read
    have noNewline := newline_not_mem_of_read read
    rw [split noNewline] at read
    obtain ⟨lineRead, restRead⟩ := List.cons.inj read
    exact ⟨plain_of_remark? noNewline lineRead, restRead⟩
  · rintro ⟨plain, restRead⟩
    rw [split plain.noNewline, remark?_of_plain plain, restRead]

/-- Every finding has one line of its own, and all of them are read back, exactly if the paths of
the findings hold no newline, no comma, no pair of colons and no escape code. -/
theorem annotations_read_back_iff (report : Report) :
    readAnnotations report.renderAnnotations.toList =
        report.findings.map (fun finding => some (Remark.ofFinding finding)) ↔
      ∀ finding ∈ report.findings, PlainPath finding.filePath.toList := by
  rw [renderAnnotations, String.toList_join]
  induction report.findings with
  | nil => simp [readAnnotations]
  | cons finding others inductionHypothesis =>
      simp only [List.map_cons, List.flatMap_cons, List.forall_mem_cons] at inductionHypothesis ⊢
      rw [readAnnotations_annotationLine_iff, inductionHypothesis]

def commaFinding : Finding :=
  .ofIssue (.archSpecificLibrary "MKL") "a,b/CMakeLists.txt" 3 "line 2" none

def commaReport : Report :=
  .ofFindings "0" [commaFinding] "." 1

/-- A comma in a path divides the property of the file in two. -/
theorem comma_path_not_read_back :
    readAnnotations commaReport.renderAnnotations.toList ≠
      commaReport.findings.map fun finding => some (Remark.ofFinding finding) := by
  intro read
  have findings_eq : commaReport.findings = [commaFinding] := rfl
  rw [renderAnnotations, String.toList_join, findings_eq] at read
  have plain := ((readAnnotations_annotationLine_iff commaFinding [] []).mp read).1
  have comma : ',' ∈ commaFinding.filePath.toList := by
    simp [commaFinding, Finding.ofIssue]
  exact plain.noComma comma

end ArchAudit.Report
