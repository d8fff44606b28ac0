import ArchAudit.Proofs.FileFindings
import ArchAudit.Proofs.Lines
import ArchAudit.Proofs.RowMatches

/-!
# Words in front of a closing parenthesis

Whether a listed word is found where it is used in the plainest way: right behind its keyword, with
a closing parenthesis behind it, in a script of one line.  A word that ends in a word character is
always found and reported.  Any other word does not end at a word boundary there, so that it is not
found itself, and a finding can come from other words only.
-/

namespace ArchAudit

namespace Classifier

/-! ## Matches in front of a closing parenthesis -/

def EndsInWordChar (word : List Char) : Prop :=
  ∃ last, word.getLast? = some last ∧ Text.isWordChar last = true

theorem not_isWordChar_parenthesis : ¬ Text.isWordChar ')' = true := by
  decide +kernel

theorem endsThere_parenthesis_iff (word : List Char) :
    EndsThere word [')'] ↔ EndsInWordChar word := by
  have plain : ¬ ∃ next, [')'].head? = some next ∧ Text.isWordChar next = true := by
    rintro ⟨next, isNext, isWord⟩
    cases isNext
    exact not_isWordChar_parenthesis isWord
  constructor
  · rintro (⟨ends, _⟩ | ⟨follows, _⟩)
    · exact ends
    · exact (plain follows).elim
  · intro ends
    exact .inl ⟨ends, plain⟩

theorem endsThere_nil_iff (word : List Char) :
    EndsThere word [] ↔ EndsInWordChar word := by
  simp [EndsThere, EndsInWordChar, Xor]

/-- A front, behind it one of some keywords, and room for a word.  All keywords have one length, and
none of them begins inside the front. -/
structure IsProbe
    {κ : Type}
    (keywords : List (κ × List Char))
    (front : List Char)
    (tag : κ)
    (keyword : List Char) :
    Prop where
  exclusive : Exclusive keywords
  member : (tag, keyword) ∈ keywords
  sameLength : ∀ other ∈ keywords, other.2.length = keyword.length
  fresh : ∀ other ∈ keywords, ∃ c rest, other.2 = c :: rest ∧ c ∉ front

section Probe

variable {κ : Type} {keywords : List (κ × List Char)}
variable {front keyword : List Char} {tag : κ} {listed : List String} {text word : String}

theorem IsProbe.front_length_le
    (probe : IsProbe keywords front tag keyword)
    {behind : List Char}
    (text_eq : text.toList = front ++ behind)
    {place : Nat} {otherTag : κ} {other : String}
    (stands : StandsAt keywords listed text place otherTag other) :
    front.length ≤ place := by
  by_contra inside
  have isInside : place < front.length := Nat.lt_of_not_le inside
  obtain ⟨otherKeyword, rest, member, begins, _⟩ := stands.occurs
  obtain ⟨c, more, keyword_eq, absent⟩ := probe.fresh _ member
  change otherKeyword = c :: more at keyword_eq
  rw [text_eq, List.drop_append_of_le_length isInside.le,
    List.drop_eq_getElem_cons isInside, keyword_eq] at begins
  have first_eq : front[place] = c := (List.cons.inj begins).1
  exact absent (first_eq ▸ List.getElem_mem isInside)

theorem drop_probe
    (text_eq : text.toList = front ++ (keyword ++ (word.toList ++ [')']))) :
    text.toList.drop front.length = keyword ++ (word.toList ++ [')']) := by
  rw [text_eq, List.drop_left]

/-- A word that ends in a word character is the foremost match, since the only longer word that
could stand at its place would end in the parenthesis. -/
theorem IsProbe.isForemost
    (probe : IsProbe keywords front tag keyword)
    (text_eq : text.toList = front ++ (keyword ++ (word.toList ++ [')'])))
    (isListed : word ∈ listed)
    (nonempty : word ≠ "")
    (ends : EndsInWordChar word.toList) :
    IsForemost keywords listed text front.length tag word := by
  refine ⟨⟨isListed, nonempty, keyword, [')'], probe.member, drop_probe text_eq, ?_⟩, ?_, ?_⟩
  · exact (endsThere_parenthesis_iff word.toList).mpr ends
  · intro otherPlace otherTag other stands
    exact probe.front_length_le text_eq stands
  · intro otherTag other stands
    obtain ⟨otherKeyword, rest, member, begins, otherEnds⟩ := stands.occurs
    have behind_eq : word.toList ++ [')'] = other.toList ++ rest :=
      (probe.exclusive.eq_of_append_eq probe.member member
        ((drop_probe text_eq).symm.trans begins)).2
    by_contra longer
    have restEmpty : rest = [] := by
      have lengths := congrArg List.length behind_eq
      simp only [List.length_append, List.length_singleton, String.length_toList] at lengths
      exact List.length_eq_zero_iff.mp (by omega)
    subst restEmpty
    rw [List.append_nil] at behind_eq
    obtain ⟨last, isLast, isWord⟩ := (endsThere_nil_iff other.toList).mp otherEnds
    rw [← behind_eq, List.getLast?_concat] at isLast
    cases isLast
    exact not_isWordChar_parenthesis isWord

/-- A word that does not end in a word character needs one behind it, and there is none. -/
theorem IsProbe.not_standsAt
    (probe : IsProbe keywords front tag keyword)
    (text_eq : text.toList = front ++ (keyword ++ (word.toList ++ [')'])))
    (openEnded : ¬ EndsInWordChar word.toList)
    (place : Nat) (otherTag : κ) :
    ¬ StandsAt keywords listed text place otherTag word := by
  intro stands
  have behindFront := probe.front_length_le text_eq stands
  obtain ⟨otherKeyword, rest, member, begins, ends⟩ := stands.occurs
  have restNonempty : rest ≠ [] := by
    rintro rfl
    exact openEnded ((endsThere_nil_iff word.toList).mp ends)
  have place_eq : place = front.length := by
    have positive := List.length_pos_of_ne_nil restNonempty
    have sameLength : otherKeyword.length = keyword.length := probe.sameLength _ member
    have lengths := congrArg List.length begins
    rw [text_eq] at lengths
    simp only [List.length_drop, List.length_append, List.length_singleton] at lengths
    omega
  rw [place_eq, drop_probe text_eq] at begins
  have behind_eq := (probe.exclusive.eq_of_append_eq probe.member member begins).2
  rw [← List.append_cancel_left behind_eq] at ends
  exact openEnded ((endsThere_parenthesis_iff word.toList).mp ends)

end Probe

theorem isProbe_lookup : IsProbe lookupCommands [] () "find_package(".toList where
  exclusive := exclusive_lookupCommands
  member := by simp [lookupCommands]
  sameLength := by simp [lookupCommands]
  fresh := by simp [lookupCommands]

theorem isProbe_option :
    IsProbe optionMark "add_compile_options(".toList () "-m".toList where
  exclusive := exclusive_optionMark
  member := by simp [optionMark]
  sameLength := by simp [optionMark]
  fresh := by simp [optionMark]

end Classifier

namespace Scan

open Classifier Folding

/-! ## Scripts of one line -/

theorem isBlank_parenthesis : Text.isBlank ')' = false := by
  decide

theorem dropEndWhile_parenthesis
    {drops : Char → Bool}
    (kept : drops ')' = false)
    (body : List Char) :
    Text.dropEndWhile drops (body ++ [')']) = body ++ [')'] := by
  rw [Text.dropEndWhile_concat, kept]
  rfl

theorem statementsOf_parenthesis
    {text : String}
    (body : List Char)
    (text_eq : text.toList = body ++ [')'])
    (absent : '\n' ∉ body) :
    statementsOf text = [⟨text, 1, 1⟩] := by
  have lines_eq : Text.lines text = [text] := by
    have nonempty : text.toList ≠ [] := by simp [text_eq]
    have noNewline : '\n' ∉ text.toList := by simp [text_eq, absent]
    rw [Text.lines, Text.pieces_of_unfinished nonempty noNewline]
    simp [Text.Piece.line]
  have ending : Continuation.dropLineEnding text.toList = text.toList := by
    rw [text_eq]
    exact dropEndWhile_parenthesis (by decide) body
  have plain : ¬ IsContinued text := by
    rw [IsContinued, ending, text_eq, Text.trimEnd, dropEndWhile_parenthesis isBlank_parenthesis]
    simp
  have statements_eq : statements [text] = [⟨text, 1, 1⟩] := by
    simp [statements, groups, plain, numbered, statement, groupText, ending]
  have visibleText : Text.isBlankText text = false := by
    simp [Text.isBlankText, text_eq, isBlank_parenthesis]
  rw [statementsOf, lines_eq, statements_eq]
  simp [visible, LogicalLine.isBlank, visibleText]

/-! ## Issues of one rule -/

/-- The issues of one rule that a scan of a text finds. -/
def issuesOf (table : Table) (filePath id text : String) : List Issue :=
  (withRule id (ofText table filePath text)).map Finding.issue

theorem issuesOf_statement
    {vocabulary : Vocabulary} {table : Table}
    (compiled : Table.compile vocabulary = .ok table)
    {text : String}
    (oneLine : statementsOf text = [⟨text, 1, 1⟩])
    (filePath id : String)
    (immediate : id ∈ ["A001", "A002", "A003"]) :
    issuesOf table filePath id text =
      (vocabulary.reportedIssues text).filter fun issue => issue.rule.id = id := by
  have notAboutFile : "A005" ≠ id ∧ "A004" ≠ id := by
    constructor
    · rintro rfl
      simp at immediate
    · rintro rfl
      simp at immediate
  have nothing :
      withRule id (fileFindings vocabulary filePath (Text.lines text).length [⟨text, 1, 1⟩]) =
        [] := by
    rw [withRule_fileFindings, if_neg notAboutFile.1, if_neg notAboutFile.2, List.append_nil]
  rw [issuesOf, ofText_of_compile compiled, oneLine, withRule_append, nothing, List.append_nil,
    List.flatMap_singleton, withRule, statementFindings, List.filter_map, List.map_map]
  simp [Function.comp_def, Finding.ofIssue]

theorem filter_library_reportedIssues (vocabulary : Vocabulary) (text : String) :
    ((vocabulary.reportedIssues text).filter fun issue => issue.rule.id = "A001") =
      (vocabulary.capture? .library lookupCommands text).toList.map fun hit =>
        .archSpecificLibrary hit.2 := by
  simp [Vocabulary.reportedIssues, Vocabulary.rowIssues, List.filter_map, Function.comp_def,
    Issue.rule, Rule.id]

theorem filter_buildOption_reportedIssues (vocabulary : Vocabulary) (text : String) :
    ((vocabulary.reportedIssues text).filter fun issue => issue.rule.id = "A002") =
      (vocabulary.capture? .buildOption optionMark text).toList.map fun hit =>
        .archSpecificBuildOption hit.2 := by
  simp [Vocabulary.reportedIssues, Vocabulary.rowIssues, List.filter_map, Function.comp_def,
    Issue.rule, Rule.id]

/-! ## Listed words -/

section Probe

variable {vocabulary : Vocabulary} {row : Row} {keywords : List (Unit × List Char)}
variable {front keyword : List Char} {text word : String} {issue : String → Issue}
variable {issues : List Issue}
variable (probe : IsProbe keywords front () keyword)
variable (issues_eq :
  issues = (vocabulary.capture? row keywords text).toList.map fun hit => issue hit.2)
variable (text_eq : text.toList = front ++ (keyword ++ (word.toList ++ [')'])))

include probe issues_eq text_eq

theorem issues_of_endsInWordChar
    (member : word ∈ vocabulary.words row.wordList)
    (nonempty : word ≠ "")
    (ends : EndsInWordChar word.toList) :
    issues = [issue word] := by
  have captured : vocabulary.capture? row keywords text = some ((), word) :=
    (Vocabulary.capture?_eq_some_iff probe.exclusive vocabulary row text () word).mpr
      ⟨front.length, probe.isForemost text_eq member nonempty ends⟩
  rw [issues_eq, captured]
  rfl

theorem issues_ne_nil_iff_of_not_endsInWordChar
    (openEnded : ¬ EndsInWordChar word.toList) :
    issues ≠ [] ↔
      ∃ other place tag, other ≠ word ∧
        StandsAt keywords (vocabulary.words row.wordList) text place tag other := by
  have found :
      issues ≠ [] ↔ (vocabulary.capture? row keywords text).isSome = true := by
    rw [issues_eq]
    cases vocabulary.capture? row keywords text <;> simp
  rw [found, Vocabulary.isSome_capture?_iff probe.exclusive]
  constructor
  · rintro ⟨place, tag, other, stands⟩
    refine ⟨other, place, tag, ?_, stands⟩
    rintro rfl
    exact probe.not_standsAt text_eq openEnded place tag stands
  · rintro ⟨other, place, tag, _, stands⟩
    exact ⟨place, tag, other, stands⟩

end Probe

/-- In a script of one line that names a listed word right behind its keyword and closes the
parenthesis behind it, a word that ends in a word character is reported, and nothing else under its
rule.  Any other word is not found there itself, so that something is reported only if another
listed word stands somewhere in the line. -/
theorem plain_use_reported
    {vocabulary : Vocabulary} {table : Table}
    (compiled : Table.compile vocabulary = .ok table)
    (filePath : String) :
    (∀ word ∈ vocabulary.libraries, word ≠ "" → '\n' ∉ word.toList →
      (EndsInWordChar word.toList →
        issuesOf table filePath "A001" ("find_package(" ++ word ++ ")") =
          [.archSpecificLibrary word]) ∧
      (¬ EndsInWordChar word.toList →
        (issuesOf table filePath "A001" ("find_package(" ++ word ++ ")") ≠ [] ↔
          ∃ other place tag, other ≠ word ∧
            StandsAt [((), "find_package(".toList), ((), "find_library(".toList)]
              vocabulary.libraries ("find_package(" ++ word ++ ")") place tag other))) ∧
    ∀ word ∈ vocabulary.buildOptions, word ≠ "" → '\n' ∉ word.toList →
      (EndsInWordChar word.toList →
        issuesOf table filePath "A002" ("add_compile_options(-m" ++ word ++ ")") =
          [.archSpecificBuildOption word]) ∧
      (¬ EndsInWordChar word.toList →
        (issuesOf table filePath "A002" ("add_compile_options(-m" ++ word ++ ")") ≠ [] ↔
          ∃ other place tag, other ≠ word ∧
            StandsAt [((), "-m".toList)]
              vocabulary.buildOptions ("add_compile_options(-m" ++ word ++ ")") place tag
                other)) := by
  constructor
  · intro word member nonempty absent
    have text_eq :
        ("find_package(" ++ word ++ ")").toList =
          [] ++ ("find_package(".toList ++ (word.toList ++ [')'])) := by
      simp
    have oneLine :=
      statementsOf_parenthesis ("find_package(".toList ++ word.toList)
        (text_eq.trans (by simp)) (by simp [absent])
    have issues_eq := issuesOf_statement compiled oneLine filePath "A001" (by simp)
    rw [filter_library_reportedIssues] at issues_eq
    constructor
    · intro ends
      exact issues_of_endsInWordChar isProbe_lookup issues_eq text_eq member nonempty ends
    · intro openEnded
      exact issues_ne_nil_iff_of_not_endsInWordChar isProbe_lookup issues_eq text_eq openEnded
  · intro word member nonempty absent
    have text_eq :
        ("add_compile_options(-m" ++ word ++ ")").toList =
          "add_compile_options(".toList ++ ("-m".toList ++ (word.toList ++ [')'])) := by
      simp
    have oneLine :=
      statementsOf_parenthesis ("add_compile_options(-m".toList ++ word.toList)
        (text_eq.trans (by simp)) (by simp [absent])
    have issues_eq := issuesOf_statement compiled oneLine filePath "A002" (by simp)
    rw [filter_buildOption_reportedIssues] at issues_eq
    constructor
    · intro ends
      exact issues_of_endsInWordChar isProbe_option issues_eq text_eq member nonempty ends
    · intro openEnded
      exact issues_ne_nil_iff_of_not_endsInWordChar isProbe_option issues_eq text_eq openEnded

def punctuatedVocabulary : Vocabulary where
  aarch64Processors := []
  otherProcessors := []
  libraries := ["é", "c+", "c", "d+"]
  buildOptions := ["f", "+"]
  neoverseCores := []
  ampereOneCores := []

def punctuatedTable : Table :=
  [⟨.library, ["é", "c+", "d+", "c"]⟩, ⟨.buildOption, ["f", "+"]⟩]

theorem compile_punctuatedVocabulary :
    Table.compile punctuatedVocabulary = .ok punctuatedTable := by
  cbv

/-- The word with a plus sign is not found, but another one that is its beginning. -/
theorem plain_use_reported_punctuated :
    Table.compile punctuatedVocabulary = .ok punctuatedTable ∧
      issuesOf punctuatedTable "CMakeLists.txt" "A001" "find_package(é)" =
        [.archSpecificLibrary "é"] ∧
      issuesOf punctuatedTable "CMakeLists.txt" "A001" "find_package(c+)" =
        [.archSpecificLibrary "c"] ∧
      issuesOf punctuatedTable "CMakeLists.txt" "A002" "add_compile_options(-mf)" =
        [.archSpecificBuildOption "f"] ∧
      ∃ other place tag, other ≠ "c+" ∧
        StandsAt [((), "find_package(".toList), ((), "find_library(".toList)]
          ["é", "c+", "c", "d+"] "find_package(c+)" place tag other := by
  obtain ⟨libraries, options⟩ :=
    plain_use_reported compile_punctuatedVocabulary "CMakeLists.txt"
  have isWord : EndsInWordChar "é".toList := ⟨'é', rfl, by decide +kernel⟩
  have isWordOption : EndsInWordChar "f".toList := ⟨'f', rfl, by decide +kernel⟩
  have isOpen : ¬ EndsInWordChar "c+".toList := by
    rintro ⟨last, isLast, isWord⟩
    cases isLast
    exact absurd isWord (by decide +kernel)
  have found :
      issuesOf punctuatedTable "CMakeLists.txt" "A001" "find_package(c+)" =
        [.archSpecificLibrary "c"] := by
    decide +kernel
  refine ⟨compile_punctuatedVocabulary, ?_, found, ?_, ?_⟩
  · exact (libraries "é" (by decide) (by decide) (by decide)).1 isWord
  · exact (options "f" (by decide) (by decide) (by decide)).1 isWordOption
  · exact ((libraries "c+" (by decide) (by decide) (by decide)).2 isOpen).mp (by simp [found])

/-- A listed word that does not end in a word character can go unreported. -/
theorem punctuated_word_not_reported :
    Table.compile punctuatedVocabulary = .ok punctuatedTable ∧
      ("d+" ∈ punctuatedVocabulary.libraries ∧ "d+" ≠ "" ∧ '\n' ∉ "d+".toList ∧
        issuesOf punctuatedTable "CMakeLists.txt" "A001" "find_package(d+)" = []) ∧
      ("+" ∈ punctuatedVocabulary.buildOptions ∧ "+" ≠ "" ∧ '\n' ∉ "+".toList ∧
        issuesOf punctuatedTable "CMakeLists.txt" "A002" "add_compile_options(-m+)" = []) := by
  refine ⟨compile_punctuatedVocabulary, ?_, ?_⟩
  all_goals decide +kernel

end Scan

end ArchAudit
