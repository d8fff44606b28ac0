import ArchAudit.Proofs.StableOrder
import ArchAudit.Regex.Parser

/-!
# Reading patterns

No word can change the structure of the pattern that it stands in.  A pattern is read from the left
to the right as marks: a character that stands for itself, plain or escaped, a word boundary, and
the separator between two words.  Reading the alternatives of a row gives back its words, and the
regular expression that they stand for is the choice between these words.
-/

namespace ArchAudit.Classifier

/-! ## Marks -/

inductive Mark where
  | literal (c : Char)
  | boundary
  | separator
deriving DecidableEq, Repr

/-- Reads marks.  A character with a meaning of its own is only read behind a backslash or as a
separator. -/
def readMarks : List Char → Option (List Mark)
  | [] => some []
  | '\\' :: 'b' :: rest => (readMarks rest).map (.boundary :: ·)
  | '\\' :: c :: rest =>
      if c ∈ metaCharacters then (readMarks rest).map (.literal c :: ·) else none
  | '|' :: rest => (readMarks rest).map (.separator :: ·)
  | c :: rest =>
      if c ∈ metaCharacters then none else (readMarks rest).map (.literal c :: ·)

/-- The marks between the separators of a pattern. -/
def readAlternatives (text : String) : Option (List (List Mark)) :=
  (readMarks text.toList).map (List.splitOn .separator)

/-- The marks of a word. -/
def wordMarks (wantsBoundary : Bool) (word : String) : List Mark :=
  word.toList.map .literal ++ if wantsBoundary then [.boundary] else []

def Mark.spelling : Mark → List Char
  | .literal c => escapeChar c
  | .boundary => ['\\', 'b']
  | .separator => ['|']

theorem readMarks_plain
    {c : Char}
    (plain : c ∉ metaCharacters)
    (rest : List Char) :
    readMarks (c :: rest) = (readMarks rest).map (.literal c :: ·) := by
  have notBackslash : c ≠ '\\' := by
    rintro rfl
    exact plain (by decide)
  have notBar : c ≠ '|' := by
    rintro rfl
    exact plain (by decide)
  rw [readMarks, if_neg plain]
  · simp [notBackslash]
  · simp [notBackslash]
  · simp [notBar]

theorem readMarks_escaped
    {c : Char}
    (special : c ∈ metaCharacters)
    (rest : List Char) :
    readMarks ('\\' :: c :: rest) = (readMarks rest).map (.literal c :: ·) := by
  have notLetter : c ≠ 'b' := by
    rintro rfl
    exact absurd special (by decide)
  rw [readMarks, if_pos special]
  simp [notLetter]

theorem readMarks_spelling_append (mark : Mark) (rest : List Char) :
    readMarks (mark.spelling ++ rest) = (readMarks rest).map (mark :: ·) := by
  cases mark with
  | literal c =>
      by_cases special : c ∈ metaCharacters
      · rw [Mark.spelling, escapeChar, if_pos special]
        exact readMarks_escaped special rest
      · rw [Mark.spelling, escapeChar, if_neg special]
        exact readMarks_plain special rest
  | boundary =>
      change readMarks ('\\' :: 'b' :: rest) = _
      rw [readMarks]
  | separator =>
      change readMarks ('|' :: rest) = _
      rw [readMarks]

theorem readMarks_spellings (marks : List Mark) :
    readMarks (marks.flatMap Mark.spelling) = some marks := by
  induction marks with
  | nil => rw [List.flatMap_nil, readMarks]
  | cons mark rest inductionHypothesis =>
      rw [List.flatMap_cons, readMarks_spelling_append, inductionHypothesis, Option.map_some]

theorem separator_not_mem_wordMarks (wantsBoundary : Bool) (word : String) :
    .separator ∉ wordMarks wantsBoundary word := by
  cases wantsBoundary with
  | false => simp [wordMarks]
  | true => simp [wordMarks]

theorem wordMarks_injective (wantsBoundary : Bool) :
    Function.Injective (wordMarks wantsBoundary) := by
  intro first second same
  have sameLiterals : first.toList.map Mark.literal = second.toList.map Mark.literal :=
    List.append_cancel_right same
  have literalInjective : Function.Injective Mark.literal :=
    fun _ _ equal => Mark.literal.inj equal
  exact String.toList_injective (literalInjective.list_map sameLiterals)

/-! ## Alternatives -/

/-- The marks of words with separators between them. -/
def alternativeMarks (wantsBoundary : Bool) (words : List String) : List Mark :=
  [Mark.separator].intercalate (words.map (wordMarks wantsBoundary))

theorem alternativeMarks_singleton (wantsBoundary : Bool) (word : String) :
    alternativeMarks wantsBoundary [word] = wordMarks wantsBoundary word :=
  List.intercalate_singleton

theorem alternativeMarks_cons_cons
    (wantsBoundary : Bool) (word next : String) (later : List String) :
    alternativeMarks wantsBoundary (word :: next :: later) =
      wordMarks wantsBoundary word ++
        .separator :: alternativeMarks wantsBoundary (next :: later) := by
  rw [alternativeMarks, List.map_cons, List.map_cons, List.intercalate_cons_cons,
    List.append_assoc]
  rfl

theorem spellings_wordMarks (wantsBoundary : Bool) (word : String) :
    (wordMarks wantsBoundary word).flatMap Mark.spelling =
      (alternative wantsBoundary word).toList := by
  have literals :
      (word.toList.map Mark.literal).flatMap Mark.spelling = word.toList.flatMap escapeChar := by
    rw [List.flatMap_map]
    rfl
  rw [wordMarks, List.flatMap_append, literals, alternative, escapeWord, String.toList_append,
    String.toList_ofList]
  cases wantsBoundary with
  | false => rfl
  | true => rfl

theorem spellings_alternativeMarks (wantsBoundary : Bool) (words : List String) :
    (alternativeMarks wantsBoundary words).flatMap Mark.spelling =
      (String.intercalate "|" (words.map (alternative wantsBoundary))).toList := by
  rw [String.toList_intercalate]
  induction words with
  | nil => rfl
  | cons word others inductionHypothesis =>
      cases others with
      | nil =>
          rw [alternativeMarks_singleton, spellings_wordMarks, List.map_singleton,
            List.map_singleton, List.intercalate_singleton]
      | cons next later =>
          rw [alternativeMarks_cons_cons, List.flatMap_append, List.flatMap_cons,
            inductionHypothesis, spellings_wordMarks]
          simp only [List.map_cons, List.intercalate_cons_cons, List.append_assoc]
          rfl

theorem orderedWords_eq_nil_iff (words : List String) :
    orderedWords words = [] ↔ ∀ word ∈ words, word = "" := by
  rw [List.eq_nil_iff_forall_not_mem]
  simp [mem_orderedWords]

theorem alternation_eq_none_iff (words : List String) (wantsBoundary : Bool) :
    alternation words wantsBoundary = none ↔ orderedWords words = [] := by
  rw [alternation, ← List.isEmpty_iff]
  simp

section Written

variable {words : List String} {wantsBoundary : Bool} {text : String}
variable (written : alternation words wantsBoundary = some text)

include written

theorem orderedWords_ne_nil_of_alternation : orderedWords words ≠ [] := by
  intro noWords
  rw [(alternation_eq_none_iff words wantsBoundary).mpr noWords] at written
  exact nomatch written

theorem toList_of_alternation :
    text.toList = (alternativeMarks wantsBoundary (orderedWords words)).flatMap Mark.spelling := by
  have nonempty := orderedWords_ne_nil_of_alternation written
  rw [alternation, if_neg (by simpa using nonempty)] at written
  rw [spellings_alternativeMarks, Option.some.inj written]

theorem readAlternatives_of_alternation :
    readAlternatives text = some ((orderedWords words).map (wordMarks wantsBoundary)) := by
  have nonempty := orderedWords_ne_nil_of_alternation written
  rw [readAlternatives, toList_of_alternation written, readMarks_spellings, Option.map_some,
    alternativeMarks, List.splitOn_intercalate]
  · simp [separator_not_mem_wordMarks]
  · simpa using nonempty

end Written

theorem alternation_eq_iff (first second : List String) (wantsBoundary : Bool) :
    alternation first wantsBoundary = alternation second wantsBoundary ↔
      orderedWords first = orderedWords second := by
  constructor
  · intro same
    cases written : alternation first wantsBoundary with
    | none =>
        rw [(alternation_eq_none_iff first wantsBoundary).mp written,
          (alternation_eq_none_iff second wantsBoundary).mp (same.symm.trans written)]
    | some text =>
        have firstRead := readAlternatives_of_alternation written
        have secondRead := readAlternatives_of_alternation (same.symm.trans written)
        rw [firstRead] at secondRead
        exact (wordMarks_injective wantsBoundary).list_map (Option.some.inj secondRead)
  · intro same
    rw [alternation, alternation, same]

/-! ## The regular expression of a pattern -/

open Regex (readBranches ofBranches seqAll altAll)

abbrev noFlags : Regex.Flags :=
  ⟨false, false, false⟩

def choice : List Regex → Regex
  | [] => .empty
  | first :: others => altAll first others

/-- What a word matches: its characters, and then a word boundary if one is wanted. -/
def wordExpression (wantsBoundary : Bool) (word : String) : Regex :=
  seqAll ((word.toList.map fun c => .oneOf (.single c)) ++
    if wantsBoundary then [.anchor .boundary] else [])

/-- What a mark between two separators matches. -/
def Mark.expression : Mark → Regex
  | .literal c => .oneOf (.single c)
  | .boundary => .anchor .boundary
  | .separator => .empty

theorem seqAll_wordMarks (wantsBoundary : Bool) (word : String) :
    seqAll ((wordMarks wantsBoundary word).map Mark.expression) =
      wordExpression wantsBoundary word := by
  rw [wordMarks, wordExpression, List.map_append, List.map_map]
  cases wantsBoundary with
  | false => rfl
  | true => rfl

theorem ofBranches_eq_choice (branches parts : List Regex) :
    ofBranches branches parts = choice (branches.reverse ++ [seqAll parts.reverse]) := by
  unfold ofBranches
  cases branches.reverse with
  | nil => rfl
  | cons first others => rfl

/-- Behind a backslash, a character with a meaning of its own stands for itself. -/
theorem readEscape_special
    {c : Char}
    (special : c ∈ metaCharacters)
    (here rest : List Char) :
    Regex.readEscape here (c :: rest) = .ok (.literal c, rest) := by
  have noLetters : (metaCharacters.all fun c =>
      !c.isDigit && (Regex.letterSymbol? c).isNone && (Regex.codeWidth? c).isNone &&
        (c.toNat < 0x80 && !c.isAlpha)) = true := by
    decide
  have noLetter := List.all_eq_true.mp noLetters c special
  rw [Bool.and_eq_true, Bool.and_eq_true, Bool.and_eq_true, Bool.not_eq_true',
    Option.isNone_iff_eq_none, Option.isNone_iff_eq_none] at noLetter
  obtain ⟨⟨⟨noDigit, noSymbol⟩, noCode⟩, isAscii⟩ := noLetter
  rw [Regex.readEscape, noDigit, noSymbol, noCode]
  simp only [isAscii, Bool.false_eq_true, if_false, if_true]

section Steps

variable (steps : Nat) (branches parts : List Regex) (rest : List Char)

theorem readBranches_plain
    {c : Char}
    (plain : c ∉ metaCharacters) :
    readBranches (steps + 1) noFlags branches parts (c :: rest) =
      readBranches steps noFlags branches (.oneOf (.single c) :: parts) rest := by
  -- every character that the reader of expressions treats apart is one of those that are escaped
  simp only [metaCharacters, List.mem_cons, List.not_mem_nil, or_false, not_or] at plain
  have single : Regex.ofChar noFlags c = .oneOf (.single c) := by
    simp [Regex.ofChar, Regex.ofSet, plain]
  rw [readBranches]
  · simp only [plain, if_false, single]
  all_goals simp only [plain, imp_false, not_false_eq_true]

theorem readBranches_escaped
    {c : Char}
    (special : c ∈ metaCharacters) :
    readBranches (steps + 1) noFlags branches parts ('\\' :: c :: rest) =
      readBranches steps noFlags branches (.oneOf (.single c) :: parts) rest := by
  rw [readBranches, readEscape_special special]
  rfl

theorem readBranches_spelling
    {mark : Mark}
    (inside : mark ≠ .separator) :
    readBranches (steps + 1) noFlags branches parts (mark.spelling ++ rest) =
      readBranches steps noFlags branches (mark.expression :: parts) rest := by
  cases mark with
  | literal c =>
      by_cases special : c ∈ metaCharacters
      · rw [Mark.spelling, escapeChar, if_pos special]
        exact readBranches_escaped steps branches parts rest special
      · rw [Mark.spelling, escapeChar, if_neg special]
        exact readBranches_plain steps branches parts rest special
  | boundary =>
      change readBranches (steps + 1) noFlags branches parts ('\\' :: 'b' :: rest) = _
      rw [readBranches]
      rfl
  | separator => exact absurd rfl inside

theorem readBranches_separator :
    readBranches (steps + 1) noFlags branches parts (Mark.separator.spelling ++ rest) =
      readBranches steps noFlags (seqAll parts.reverse :: branches) [] rest := by
  change readBranches (steps + 1) noFlags branches parts ('|' :: rest) = _
  rw [readBranches]

theorem readBranches_spellings
    {marks : List Mark}
    (inside : .separator ∉ marks) :
    readBranches (steps + marks.length) noFlags branches parts
        (marks.flatMap Mark.spelling ++ rest) =
      readBranches steps noFlags branches ((marks.map Mark.expression).reverse ++ parts) rest := by
  induction marks generalizing parts with
  | nil => rfl
  | cons mark others inductionHypothesis =>
      obtain ⟨markInside, othersInside⟩ := List.ne_and_not_mem_of_not_mem_cons inside
      rw [List.flatMap_cons, List.append_assoc, List.length_cons, ← Nat.add_assoc,
        readBranches_spelling _ _ _ _ markInside.symm, inductionHypothesis _ othersInside]
      simp

end Steps

/-- Words and separators are read as one branch a word. -/
theorem readBranches_alternativeMarks
    {words : List String}
    (nonempty : words ≠ [])
    (wantsBoundary : Bool)
    {steps : Nat}
    (enough : (alternativeMarks wantsBoundary words).length < steps)
    (branches : List Regex) :
    readBranches steps noFlags branches []
        ((alternativeMarks wantsBoundary words).flatMap Mark.spelling) =
      .ok (choice (branches.reverse ++ words.map (wordExpression wantsBoundary)), []) := by
  -- a mark takes one step; the branches read before the first word are carried along
  induction words generalizing steps branches with
  | nil => exact (nonempty rfl).elim
  | cons word others inductionHypothesis =>
      have inside := separator_not_mem_wordMarks wantsBoundary word
      cases others with
      | nil =>
          rw [alternativeMarks_singleton] at enough ⊢
          obtain ⟨fewer, rfl⟩ : ∃ fewer,
              steps = fewer + 1 + (wordMarks wantsBoundary word).length :=
            ⟨steps - 1 - (wordMarks wantsBoundary word).length, by omega⟩
          have read := readBranches_spellings (fewer + 1) branches [] [] inside
          rw [List.append_nil, List.append_nil, readBranches, ofBranches_eq_choice,
            List.reverse_reverse, seqAll_wordMarks] at read
          exact read
      | cons next later =>
          rw [alternativeMarks_cons_cons, List.length_append, List.length_cons] at enough
          obtain ⟨fewer, rfl⟩ : ∃ fewer,
              steps = fewer + 1 + (wordMarks wantsBoundary word).length :=
            ⟨steps - 1 - (wordMarks wantsBoundary word).length, by omega⟩
          rw [alternativeMarks_cons_cons, List.flatMap_append, List.flatMap_cons,
            readBranches_spellings _ _ _ _ inside, readBranches_separator, List.append_nil,
            List.reverse_reverse, seqAll_wordMarks,
            inductionHypothesis (List.cons_ne_nil next later) (by omega)]
          simp

theorem length_le_spellings (marks : List Mark) :
    marks.length ≤ (marks.flatMap Mark.spelling).length := by
  induction marks with
  | nil => rfl
  | cons mark others inductionHypothesis =>
      have spelled : 0 < mark.spelling.length := by
        cases mark with
        | literal c =>
            rw [Mark.spelling, escapeChar]
            split <;> simp
        | boundary => decide
        | separator => decide
      rw [List.flatMap_cons, List.length_append, List.length_cons]
      omega

theorem parse_of_alternation
    {words : List String} {wantsBoundary : Bool} {text : String}
    (written : alternation words wantsBoundary = some text) :
    Regex.parse text =
      .ok (choice ((orderedWords words).map (wordExpression wantsBoundary))) := by
  have nonempty := orderedWords_ne_nil_of_alternation written
  have enough :
      (alternativeMarks wantsBoundary (orderedWords words)).length < text.toList.length + 1 := by
    rw [toList_of_alternation written]
    exact Nat.lt_succ_of_le (length_le_spellings _)
  have read := readBranches_alternativeMarks nonempty wantsBoundary enough []
  rw [← toList_of_alternation written] at read
  simp only [Regex.parse, read]
  rfl

/-- The alternatives of a row, for any list of words: there are none exactly if no word is filled;
otherwise reading them gives back the words in their one stable order, each with its boundary mark,
and they stand for the choice between these words.  So the order decides the pattern and the
pattern the order. -/
theorem alternation_reads_back (words : List String) (wantsBoundary : Bool) :
    (∀ candidate, IsStableOrder words candidate ↔ candidate = orderedWords words) ∧
      (alternation words wantsBoundary = none ↔ ∀ word ∈ words, word = "") ∧
      (∀ text ∈ alternation words wantsBoundary,
        readAlternatives text = some ((orderedWords words).map (wordMarks wantsBoundary)) ∧
          Regex.parse text =
            .ok (choice ((orderedWords words).map (wordExpression wantsBoundary)))) ∧
      ∀ others,
        alternation words wantsBoundary = alternation others wantsBoundary ↔
          orderedWords words = orderedWords others := by
  refine ⟨fun candidate => isStableOrder_iff, ?_, ?_, ?_⟩
  · rw [alternation_eq_none_iff, orderedWords_eq_nil_iff]
  · intro text written
    exact ⟨readAlternatives_of_alternation written, parse_of_alternation written⟩
  · intro others
    exact alternation_eq_iff words others wantsBoundary

/-- Words that look like separators and boundary marks are read back as they are. -/
theorem alternation_reads_back_punctuated :
    alternation ["a", "", "\\b", "é", "|"] true = some "\\\\b\\b|é\\b|a\\b|\\|\\b" ∧
      readAlternatives "\\\\b\\b|é\\b|a\\b|\\|\\b" =
        some [[.literal '\\', .literal 'b', .boundary], [.literal 'é', .boundary],
          [.literal 'a', .boundary], [.literal '|', .boundary]] := by
  have ordered : orderedWords ["a", "", "\\b", "é", "|"] = ["\\b", "é", "a", "|"] := by
    cbv
  have written :
      alternation ["a", "", "\\b", "é", "|"] true = some "\\\\b\\b|é\\b|a\\b|\\|\\b" := by
    cbv
  have read :=
    ((alternation_reads_back ["a", "", "\\b", "é", "|"] true).2.2.1 _ written).1
  refine ⟨written, ?_⟩
  rw [read, ordered]
  decide

end ArchAudit.Classifier
