import ArchAudit.Command.Run
import ArchAudit.Proofs.Decoding
import ArchAudit.Proofs.JsonValues

/-!
# Reading a printed vocabulary back

A vocabulary that is printed can be saved as a file and loaded again: the text that the program
prints is read as the same vocabulary, whatever its words are.
-/

namespace ArchAudit

open Json

theorem WordList.ofKey?_key (list : WordList) :
    ofKey? list.key = some list := by
  cases list <;> decide

namespace Vocabulary

/-! ## Lists of words -/

theorem readListGap_first
    {text others : List Char} {c : Char}
    (next : skipSpaces text = c :: others)
    (unclosed : c ≠ ']') :
    readListGap true text = .ok (true, c :: others) := by
  simp [readListGap, next, unclosed]

theorem readListGap_comma
    {text behind others : List Char} {c : Char}
    (separated : skipSpaces text = ',' :: behind)
    (next : skipSpaces behind = c :: others)
    (unclosed : c ≠ ']') :
    readListGap false text = .ok (true, c :: others) := by
  simp [readListGap, separated, next, unclosed]

theorem readListGap_closed
    {text rest : List Char}
    (closed : skipSpaces text = ']' :: rest)
    (isFirst : Bool) :
    readListGap isFirst text = .ok (false, ']' :: rest) := by
  simp [readListGap, closed]

theorem readWordsFrom_closed
    {text rest : List Char}
    (closed : skipSpaces text = ']' :: rest)
    (bound : Nat) (read : List String) :
    readWordsFrom (bound + 1) read text = .ok (read.reverse, rest) := by
  simp [readWordsFrom, readListGap_closed closed]

theorem readWordsFrom_word
    {read : List String} {isFirst : Bool} {text behind : List Char} {word : String}
    (position : read.isEmpty = isFirst)
    (gap : readListGap isFirst text = .ok (true, writeString word ++ behind))
    (bound : Nat) :
    readWordsFrom (bound + 1) read text = readWordsFrom bound (word :: read) behind := by
  have quote := skipSpaces_cons (c := '"') rfl (behindQuote word ++ behind)
  simp [readWordsFrom, position, gap, readWord, writeString_eq_cons, quote,
    readString_behindQuote]

/-- Words as they stand between two brackets, each behind the same blanks. -/
def writeWords (blank : List Char) (isFirst : Bool) : List String → List Char
  | [] => []
  | word :: words =>
      (if isFirst then [] else [',']) ++
        (blank ++ (writeString word ++ writeWords blank false words))

theorem length_le_writeWords (blank : List Char) (isFirst : Bool) (words : List String) :
    words.length ≤ (writeWords blank isFirst words).length := by
  induction words generalizing isFirst with
  | nil => exact Nat.zero_le _
  | cons word others inductionHypothesis =>
      have later := inductionHypothesis false
      simp only [writeWords, writeString_eq_cons, List.length_cons, List.length_append]
      omega

section Written

variable {blank closing rest : List Char}
variable (blanks : ∀ text, skipSpaces (blank ++ text) = skipSpaces text)
variable (closed : skipSpaces closing = ']' :: rest)

include blanks

theorem readListGap_writeWords
    (isFirst : Bool) (word : String) (words : List String) (behind : List Char) :
    readListGap isFirst (writeWords blank isFirst (word :: words) ++ behind) =
      .ok (true, writeString word ++ (writeWords blank false words ++ behind)) := by
  have quote :
      skipSpaces (blank ++ (writeString word ++ (writeWords blank false words ++ behind))) =
        writeString word ++ (writeWords blank false words ++ behind) := by
    rw [blanks]
    exact skipSpaces_cons rfl _
  rw [writeWords, List.append_assoc, List.append_assoc, List.append_assoc]
  cases isFirst with
  | true => exact readListGap_first quote (by decide)
  | false => exact readListGap_comma (skipSpaces_cons rfl _) quote (by decide)

include closed

/-- Written words are read up to the closing bracket. -/
theorem readWordsFrom_writeWords
    {bound : Nat} {words : List String}
    (enough : words.length < bound)
    (read : List String) :
    readWordsFrom bound read (writeWords blank read.isEmpty words ++ closing) =
      .ok (read.reverse ++ words, rest) := by
  obtain ⟨bound, rfl⟩ := Nat.exists_eq_add_one_of_ne_zero (Nat.ne_zero_of_lt enough)
  induction words generalizing read bound with
  | nil =>
      rw [List.append_nil]
      exact readWordsFrom_closed closed bound read
  | cons word others inductionHypothesis =>
      rw [List.length_cons] at enough
      obtain ⟨bound, rfl⟩ := Nat.exists_eq_add_one_of_ne_zero (show bound ≠ 0 by omega)
      have gap := readListGap_writeWords blanks read.isEmpty word others closing
      have later := inductionHypothesis (word :: read) bound (by omega)
      rw [readWordsFrom_word rfl gap]
      rw [List.isEmpty_cons] at later
      rw [later, List.reverse_cons, List.append_assoc, List.singleton_append]

/-- A written list of words is read back; the length of its text bounds the number of words. -/
theorem readWords_writeWords
    {text : List Char} {words : List String}
    (opened : skipSpaces text = '[' :: (writeWords blank true words ++ closing)) :
    readWords text = .ok (words, rest) := by
  have enough : words.length < text.length + 1 := by
    have atLeast := length_le_writeWords blank true words
    have atMost : (skipSpaces text).length ≤ text.length := (List.dropWhile_sublist _).length_le
    simp only [opened, List.length_cons, List.length_append] at atMost
    omega
  rw [readWords, opened]
  exact readWordsFrom_writeWords blanks closed enough []

end Written

theorem laterItems_strings (level : Nat) (words : List String) :
    laterItems level (words.map .string) = writeWords (newline level) false words := by
  induction words with
  | nil => rfl
  | cons word others inductionHypothesis =>
      rw [List.map_cons, laterItems_cons, inductionHypothesis, writeIndented, writeWords]
      rfl

/-- A list of words on lines of their own is read back. -/
theorem readWords_indented (level : Nat) (words : List String) (rest : List Char) :
    readWords (' ' :: (writeIndented level (.strings words) ++ rest)) = .ok (words, rest) := by
  cases words with
  | nil =>
      apply readWords_writeWords (skipSpaces_newline level) (skipSpaces_cons rfl rest)
      rw [skipSpaces_blank, Value.strings, List.map_nil, writeIndented, List.cons_append,
        skipSpaces_cons rfl]
      rfl
  | cons word others =>
      apply readWords_writeWords (skipSpaces_newline (level + 1))
        (skipSpaces_newline_cons rfl level rest)
      rw [skipSpaces_blank, Value.strings, List.map_cons, writeIndented_array_cons,
        List.cons_append, skipSpaces_cons rfl, laterItems_strings]
      simp [writeIndented, writeWords]

/-! ## Fields -/

theorem readFieldGap_first
    {text others : List Char}
    (next : skipSpaces text = '"' :: others) :
    readFieldGap true text = .ok (true, '"' :: others) := by
  simp [readFieldGap, next]

theorem readFieldGap_comma
    {text behind others : List Char}
    (separated : skipSpaces text = ',' :: behind)
    (next : skipSpaces behind = '"' :: others) :
    readFieldGap false text = .ok (true, '"' :: others) := by
  simp [readFieldGap, separated, next]

theorem readFieldGap_closed
    {text rest : List Char}
    (closed : skipSpaces text = '\x7d' :: rest)
    (isFirst : Bool) :
    readFieldGap isFirst text = .ok (false, '\x7d' :: rest) := by
  simp [readFieldGap, closed]

theorem readFieldsFrom_closed
    {text rest : List Char}
    (closed : skipSpaces text = '\x7d' :: rest)
    (bound : Nat) (isFirst : Bool) (overrides : Overrides) :
    readFieldsFrom (bound + 1) isFirst overrides text = .ok (overrides, rest) := by
  simp [readFieldsFrom, readFieldGap_closed closed]

/-- A list of words as a field of the printed object. -/
def listField (vocabulary : Vocabulary) (list : WordList) : String × Value :=
  (list.key, .strings (vocabulary.words list))

/-- A list that was not met before is read from its field. -/
theorem readField_listField
    {overrides : Overrides} {list : WordList}
    (unread : overrides.lookup list = none)
    (level : Nat) (words : List String) (rest : List Char) :
    readField overrides list.key (':' :: ' ' :: (writeIndented level (.strings words) ++ rest)) =
      .ok ((list, words) :: overrides, rest) := by
  have colon :=
    skipSpaces_cons (c := ':') rfl (' ' :: (writeIndented level (.strings words) ++ rest))
  simp [readField, WordList.ofKey?_key, unread, readColon, colon, readWords_indented]

/-- One field, when its key has been reached. -/
theorem readFieldsFrom_field
    {isFirst : Bool} {text behind : List Char} {key : String}
    (gap : readFieldGap isFirst text = .ok (true, writeString key ++ behind))
    (bound : Nat) (overrides : Overrides) :
    readFieldsFrom (bound + 1) isFirst overrides text =
      match readField overrides key behind with
      | .error failure => .error failure
      | .ok (overrides, rest) => readFieldsFrom bound false overrides rest := by
  have name : readString [] ((writeString key ++ behind).drop 1) = .ok (key, behind) := by
    rw [writeString_eq_cons, List.cons_append, List.drop_one, List.tail_cons,
      readString_behindQuote]
  cases field : readField overrides key behind with
  | error failure => simp only [readFieldsFrom, gap, name, field]
  | ok read => simp only [readFieldsFrom, gap, name, field]

theorem readFieldsFrom_listField
    {isFirst : Bool} {overrides : Overrides} {text behind : List Char}
    {vocabulary : Vocabulary} {list : WordList} {level : Nat}
    (gap :
      readFieldGap isFirst text =
        .ok (true, writeIndentedField level (vocabulary.listField list) ++ behind))
    (unread : overrides.lookup list = none)
    (bound : Nat) :
    readFieldsFrom (bound + 1) isFirst overrides text =
      readFieldsFrom bound false ((list, vocabulary.words list) :: overrides) behind := by
  rw [writeIndentedField, listField, List.append_assoc] at gap
  simp only [readFieldsFrom_field gap, List.cons_append, readField_listField unread]

/-- The lists behind the first one, up to the closing bracket. -/
theorem readFieldsFrom_laterFields
    {closing rest : List Char}
    (closed : skipSpaces closing = '\x7d' :: rest)
    (vocabulary : Vocabulary) (level : Nat)
    {bound : Nat} {overrides : Overrides} {lists : List WordList}
    (unread : ∀ list ∈ lists, overrides.lookup list = none)
    (distinct : lists.Nodup)
    (enough : lists.length < bound) :
    readFieldsFrom bound false overrides
        (laterFields level (lists.map vocabulary.listField) ++ closing) =
      .ok ((lists.map fun list => (list, vocabulary.words list)).reverse ++ overrides, rest) := by
  obtain ⟨bound, rfl⟩ := Nat.exists_eq_add_one_of_ne_zero (Nat.ne_zero_of_lt enough)
  induction lists generalizing overrides bound with
  | nil => exact readFieldsFrom_closed closed bound false overrides
  | cons list others inductionHypothesis =>
      rw [List.length_cons] at enough
      obtain ⟨bound, rfl⟩ := Nat.exists_eq_add_one_of_ne_zero (show bound ≠ 0 by omega)
      obtain ⟨listUnread, othersUnread⟩ := List.forall_mem_cons.mp unread
      obtain ⟨notRepeated, othersDistinct⟩ := List.nodup_cons.mp distinct
      have gap :
          readFieldGap false
              (laterFields level ((list :: others).map vocabulary.listField) ++ closing) =
            .ok (true, writeIndentedField level (vocabulary.listField list) ++
              (laterFields level (others.map vocabulary.listField) ++ closing)) := by
        rw [List.map_cons, laterFields_cons, List.cons_append, List.append_assoc,
          List.append_assoc]
        exact readFieldGap_comma (skipSpaces_cons rfl _) (skipSpaces_newline_cons rfl level _)
      -- no list is named twice, so no later field counts as repeated
      have stillUnread :
          ∀ other ∈ others,
            List.lookup other ((list, vocabulary.words list) :: overrides) = none := by
        intro other member
        have different : other ≠ list := fun same => notRepeated (same ▸ member)
        rw [List.lookup_cons, beq_false_of_ne different]
        exact othersUnread other member
      rw [readFieldsFrom_listField gap listUnread,
        inductionHypothesis stillUnread othersDistinct bound (by omega)]
      simp

/-! ## The whole text -/

theorem ofOverrides_eq
    {vocabulary : Vocabulary} {overrides : Overrides}
    (complete : ∀ list, overrides.lookup list = some (vocabulary.words list)) :
    ofOverrides overrides = vocabulary := by
  simp only [ofOverrides, complete, Option.getD_some, ofLists_words]

/-- The lists in the order in which they are met, the last one first. -/
def asOverrides (vocabulary : Vocabulary) : Overrides :=
  (WordList.all.map fun list => (list, vocabulary.words list)).reverse

theorem lookup_asOverrides (vocabulary : Vocabulary) (list : WordList) :
    vocabulary.asOverrides.lookup list = some (vocabulary.words list) := by
  cases list <;> rfl

theorem toList_render (vocabulary : Vocabulary) :
    vocabulary.render.toList =
      '\x7b' :: (newline 1 ++ (writeIndentedField 1 (vocabulary.listField .aarch64Processors) ++
        (laterFields 1 (WordList.all.tail.map vocabulary.listField) ++
          (newline 0 ++ ['\x7d', '\n'])))) := by
  have written :
      vocabulary.toJson =
        .object (vocabulary.listField .aarch64Processors ::
          WordList.all.tail.map vocabulary.listField) := rfl
  rw [render, String.toList_append, Value.indented, String.toList_ofList, written,
    writeIndented_object_cons]
  simp

theorem readOverrides_render (vocabulary : Vocabulary) :
    readOverrides vocabulary.render.toList = .ok (vocabulary.asOverrides, ['\n']) := by
  have gap (behind : List Char) :
      readFieldGap true
          (newline 1 ++
            (writeIndentedField 1 (vocabulary.listField .aarch64Processors) ++ behind)) =
        .ok (true, writeIndentedField 1 (vocabulary.listField .aarch64Processors) ++ behind) :=
    readFieldGap_first (skipSpaces_newline_cons rfl 1 _)
  rw [toList_render, readOverrides, skipSpaces_cons rfl]
  refine (readFieldsFrom_listField (gap _) List.lookup_nil _).trans ?_
  apply readFieldsFrom_laterFields (skipSpaces_newline_cons rfl 0 ['\n']) vocabulary 1
  · intro list member
    rw [List.lookup_cons, List.lookup_nil, beq_false_of_ne]
    rintro rfl
    exact absurd member (by decide)
  · decide
  · have five : WordList.all.tail.length = 5 := rfl
    simp only [five, List.length_cons, List.length_append, length_newline]
    omega

/-- The printed text of a vocabulary is read as that vocabulary. -/
theorem parse_render (vocabulary : Vocabulary) :
    parse vocabulary.render = .ok vocabulary := by
  have nothingBehind : skipSpaces ['\n'] = [] := rfl
  simp only [parse, readOverrides_render, nothingBehind,
    ofOverrides_eq vocabulary.lookup_asOverrides]

end Vocabulary

/-! ## Printing to a file and loading from it -/

theorem Source.text_ofText (text : String) :
    (Source.ofText text).text = .ok text := by
  have wellFormed : Text.Utf8.isWellFormed (Text.Utf8.encode text) = true := by
    rw [Text.Utf8.isWellFormed, Text.Utf8.encode, Text.Utf8.items_encode]
    simp
  simp [Source.text, Source.ofText, Source.complete, Text.Utf8.decode?, wellFormed,
    Text.Utf8.decodeLossy_encode]

theorem FileSystem.readText_of_read_ofText
    {system : FileSystem} {path text : String}
    (saved : system.read path = .ok (.ofText text)) :
    system.readText path = .ok text := by
  simp only [readText, saved, Source.text_ofText]

namespace Run

theorem parseVocabulary_render (path : String) (vocabulary : Vocabulary) :
    parseVocabulary path vocabulary.render = .ok vocabulary := by
  simp only [parseVocabulary, Vocabulary.parse_render]

/-- The printed text of any vocabulary is parsed as that vocabulary; it is what the command prints
for the vocabulary that it has loaded; and a file that holds it is loaded as that vocabulary. -/
theorem printed_vocabulary_loads_back (vocabulary : Vocabulary) :
    (∀ path, parseVocabulary path vocabulary.render = .ok vocabulary) ∧
      (∀ environment system source,
        loadVocabulary system source = .ok vocabulary →
          (command environment system (.vocabulary source)).stdout = vocabulary.render) ∧
      ∀ system path,
        system.read path = .ok (.ofText vocabulary.render) →
          loadVocabulary system (some path) = .ok vocabulary := by
  refine ⟨fun path => parseVocabulary_render path vocabulary, ?_, ?_⟩
  · intro environment system source loaded
    simp only [command, printVocabulary, loaded, succeeded]
  · intro system path saved
    simp only [loadVocabulary, FileSystem.readText_of_read_ofText saved, parseVocabulary_render]

/-- Words with quotes, backslashes, control characters and characters outside ASCII, an empty word
and empty lists. -/
def awkwardVocabulary : Vocabulary where
  aarch64Processors := ["\"", "\\", "\\\"\\u0041", ""]
  otherProcessors := []
  libraries := ["\x00\x07\x08\x0c\x1f\x7f", "a\nb\tc\rd"]
  buildOptions := ["é", "\u2028", "😀", "/"]
  neoverseCores := [""]
  ampereOneCores := []

/-- The awkward vocabulary comes back from its text and from a file, and the built-in one from what
the command prints. -/
theorem printed_vocabulary_loads_back_awkward :
    parseVocabulary "words.json" awkwardVocabulary.render = .ok awkwardVocabulary ∧
      loadVocabulary
          ((FileSystem.fresh "work").place "words.json"
            (Text.Utf8.encode awkwardVocabulary.render))
          (some "words.json") = .ok awkwardVocabulary ∧
      parseVocabulary "words.json"
          (command ⟨false, none, "0"⟩ (.fresh "work") (.vocabulary none)).stdout =
        .ok .default := by
  obtain ⟨parsed, _, loadedBack⟩ := printed_vocabulary_loads_back awkwardVocabulary
  obtain ⟨parsedDefault, printed, _⟩ := printed_vocabulary_loads_back .default
  refine ⟨parsed "words.json", loadedBack _ _ rfl, ?_⟩
  rw [printed _ _ _ rfl]
  exact parsedDefault "words.json"

end Run

end ArchAudit
