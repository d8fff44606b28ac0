import ArchAudit.Proofs.SkippedValues
import ArchAudit.Proofs.VocabularyReading
import Mathlib.Data.Set.List

/-!
# Vocabularies that name some of the lists

A vocabulary file replaces the lists that it names and leaves the others as they are.  Its fields
may stand in any order, and fields of other names may stand among them with any values: such a value
is skipped as a whole, so it hides no field behind it.  A list that is not given as an array of
strings spoils the whole file.
-/

namespace ArchAudit

open Json

namespace WordList

theorem ofKey?_eq_some_iff {key : String} {list : WordList} :
    ofKey? key = some list ↔ key = list.key := by
  constructor
  · intro found
    have named := List.find?_some found
    exact (beq_iff_eq.mp named).symm
  · rintro rfl
    exact ofKey?_key list

theorem key_injective
    {first second : WordList}
    (same : first.key = second.key) :
    first = second := by
  have found := ofKey?_key first
  rw [same, ofKey?_key] at found
  exact (Option.some.inj found).symm

end WordList

/-! ## Readers that give up -/

/-- Whether a reader gives a failure and no value. -/
def Json.Fails {α : Type} (result : Except Failure α) : Prop :=
  ∃ failure, result = .error failure

theorem Json.fails_bind
    {α β : Type} {next : α → Except Failure β}
    (fails : ∀ value, Fails (next value))
    (result : Except Failure α) :
    Fails (result.bind next) := by
  cases result with
  | error failure => exact ⟨failure, rfl⟩
  | ok value => exact fails value

namespace Vocabulary

theorem fails_refuse {α : Type} (expected : String) (text : List Char) :
    Fails (refuse expected text : Except Failure α) := by
  cases text with
  | nil => exact ⟨_, rfl⟩
  | cons c rest =>
      simp only [refuse]
      split_ifs
      -- whatever value stands there is read and then refused, unless it cannot even be read
      · exact fails_bind (fun _ => ⟨_, rfl⟩) _
      · exact fails_bind (fun _ => ⟨_, rfl⟩) _
      · exact fails_bind (fun _ => ⟨_, rfl⟩) _
      · exact fails_bind (fun _ => ⟨_, rfl⟩) _
      · exact fails_bind (fun _ => ⟨_, rfl⟩) _
      · exact fails_bind (fun _ => ⟨_, rfl⟩) _
      · exact ⟨_, rfl⟩
      · exact ⟨_, rfl⟩
      · exact ⟨_, rfl⟩

/-! ## Lists of words -/

theorem writeMembers_strings (isFirst : Bool) (words : List String) :
    writeMembers isFirst ((words.map Value.string).map .ofItem) = writeWords [] isFirst words := by
  induction words generalizing isFirst with
  | nil => rfl
  | cons word others inductionHypothesis =>
      rw [List.map_cons, List.map_cons, writeMembers, writeWords, inductionHypothesis,
        Member.write, Member.ofItem, writeCompact]
      rfl

theorem readWords_compact (words : List String) (rest : List Char) :
    readWords (writeCompact (.strings words) ++ rest) = .ok (words, rest) := by
  have noBlanks : ∀ text, skipSpaces ([] ++ text) = skipSpaces text := fun _ => rfl
  apply readWords_writeWords noBlanks (skipSpaces_cons rfl rest)
  rw [Value.strings, writeCompact_array, writeMembers_strings, List.cons_append,
    skipSpaces_cons rfl, List.append_assoc]
  rfl

theorem readListGap_members
    {item : Value}
    (integral : item.Integral)
    (isFirst : Bool) (items : List Value) (rest : List Char) :
    readListGap isFirst (writeMembers isFirst ((item :: items).map .ofItem) ++ rest) =
      .ok (true, writeCompact item ++ (writeMembers false (items.map .ofItem) ++ rest)) := by
  obtain ⟨c, others, shape, begins⟩ := integral.begins
  have next :
      skipSpaces (writeCompact item ++ (writeMembers false (items.map .ofItem) ++ rest)) =
        c :: (others ++ (writeMembers false (items.map .ofItem) ++ rest)) := by
    rw [shape]
    exact skipSpaces_cons begins.visible _
  rw [List.map_cons, writeMembers, Member.write, Member.ofItem, List.nil_append,
    List.append_assoc, List.append_assoc]
  cases isFirst with
  | true =>
      refine (readListGap_first next begins.unclosed).trans ?_
      rw [shape]
      rfl
  | false =>
      refine (readListGap_comma (skipSpaces_cons rfl _) next begins.unclosed).trans ?_
      rw [shape]
      rfl

theorem fails_readWord
    {item : Value}
    (integral : item.Integral)
    (wrong : ∀ word, item ≠ .string word)
    (rest : List Char) :
    Fails (readWord (writeCompact item ++ rest)) := by
  obtain ⟨c, others, shape, begins⟩ := integral.begins
  rw [shape, List.cons_append, readWord, skipSpaces_cons begins.visible]
  split
  · next isQuote =>
      obtain ⟨word, isWord⟩ := begins.quoted (List.cons.inj isQuote).1
      exact (wrong word isWord).elim
  · exact fails_refuse _ _

/-- The first item that is not a string ends the reading. -/
theorem fails_readWordsFrom
    {items : List Value}
    (integral : ∀ item ∈ items, item.Integral)
    (wrong : ∃ item ∈ items, ∀ word, item ≠ .string word)
    (bound : Nat) (read : List String) (rest : List Char) :
    Fails (readWordsFrom bound read (writeMembers read.isEmpty (items.map .ofItem) ++ rest)) := by
  induction items generalizing bound read with
  | nil => simp at wrong
  | cons item others inductionHypothesis =>
      obtain ⟨itemIntegral, othersIntegral⟩ := List.forall_mem_cons.mp integral
      have gap := readListGap_members itemIntegral read.isEmpty others rest
      cases bound with
      | zero => exact ⟨_, rfl⟩
      | succ bound =>
          by_cases isWord : ∃ word, item = .string word
          · obtain ⟨word, rfl⟩ := isWord
            have wrongLater : ∃ item ∈ others, ∀ word, item ≠ .string word := by
              obtain ⟨found, member, isWrong⟩ := wrong
              rcases List.mem_cons.mp member with rfl | later
              · exact (isWrong word rfl).elim
              · exact ⟨found, later, isWrong⟩
            rw [writeCompact] at gap
            rw [readWordsFrom_word rfl gap]
            exact inductionHypothesis othersIntegral wrongLater bound (word :: read)
          · obtain ⟨failure, failed⟩ :=
              fails_readWord itemIntegral (not_exists.mp isWord)
                (writeMembers false (others.map .ofItem) ++ rest)
            refine ⟨failure, ?_⟩
            simp only [readWordsFrom, gap, failed]

/-- Items that are not all words. -/
theorem exists_not_string
    {items : List Value}
    (wrong : ∀ words, Value.array items ≠ .strings words) :
    ∃ item ∈ items, ∀ word, item ≠ .string word := by
  by_contra noneWrong
  have allWords : items ∈ {list | ∀ item ∈ list, item ∈ Set.range Value.string} := by
    intro item member
    by_contra notWord
    exact noneWrong ⟨item, member, fun word isWord => notWord ⟨word, isWord.symm⟩⟩
  rw [← Set.range_list_map] at allWords
  obtain ⟨words, rfl⟩ := allWords
  exact wrong words rfl

theorem fails_readWords
    {value : Value}
    (integral : value.Integral)
    (wrong : ∀ words, value ≠ .strings words)
    (rest : List Char) :
    Fails (readWords (writeCompact value ++ rest)) := by
  obtain ⟨c, others, shape, begins⟩ := integral.begins
  by_cases isBracket : c = '['
  · obtain ⟨items, rfl⟩ := begins.bracketed isBracket
    cases integral with
    | array itemsIntegral =>
        rw [writeCompact_array, List.cons_append, List.append_assoc, readWords,
          skipSpaces_cons rfl]
        exact fails_readWordsFrom itemsIntegral (exists_not_string wrong) _ [] _
  · rw [shape, List.cons_append, readWords, skipSpaces_cons begins.visible]
    split
    · next opened => exact (isBracket (List.cons.inj opened).1).elim
    · exact fails_refuse _ _

/-! ## Fields -/

theorem readColon_cons (rest : List Char) : readColon (':' :: rest) = .ok rest := by
  simp [readColon, skipSpaces_cons (c := ':') rfl rest]

section Fields

variable {overrides : Overrides} {value : Value} {rest : List Char}

theorem readField_list
    {list : WordList}
    (unread : overrides.lookup list = none)
    (words : List String) (rest : List Char) :
    readField overrides list.key (':' :: (writeCompact (.strings words) ++ rest)) =
      .ok ((list, words) :: overrides, rest) := by
  simp [readField, WordList.ofKey?_key, unread, readColon_cons, readWords_compact]

theorem readField_unknown
    {key : String}
    (unknown : WordList.ofKey? key = none)
    (integral : value.Integral)
    (ends : EndsNumber rest) :
    readField overrides key (':' :: (writeCompact value ++ rest)) = .ok (overrides, rest) := by
  simp only [readField, unknown, readColon_cons, skipValue_compact integral ends]

theorem fails_readField_of_repeated
    {list : WordList}
    (repeated : overrides.lookup list ≠ none)
    (text : List Char) :
    Fails (readField overrides list.key text) := by
  simp only [readField, WordList.ofKey?_key]
  rw [if_pos (Option.isSome_iff_ne_none.mpr repeated)]
  exact ⟨_, rfl⟩

theorem fails_readField_of_wrong
    (integral : value.Integral)
    (wrong : ∀ words, value ≠ .strings words)
    (overrides : Overrides) (list : WordList) (rest : List Char) :
    Fails (readField overrides list.key (':' :: (writeCompact value ++ rest))) := by
  by_cases unread : overrides.lookup list = none
  · obtain ⟨failure, failed⟩ := fails_readWords integral wrong rest
    refine ⟨failure, ?_⟩
    simp [readField, WordList.ofKey?_key, unread, readColon_cons, failed]
  · exact fails_readField_of_repeated unread _

/-- A field that is not wrong is read as a whole, unless its list was read before. -/
theorem readField_cases
    (integral : value.Integral)
    (ends : EndsNumber rest)
    {key : String}
    (fine : ∀ list, key = WordList.key list → ∃ words, value = .strings words)
    (overrides : Overrides) :
    Fails (readField overrides key (':' :: (writeCompact value ++ rest))) ∨
      ∃ next, readField overrides key (':' :: (writeCompact value ++ rest)) = .ok (next, rest) := by
  cases known : WordList.ofKey? key with
  | none => exact .inr ⟨overrides, readField_unknown known integral ends⟩
  | some list =>
      have isKey := WordList.ofKey?_eq_some_iff.mp known
      obtain ⟨words, rfl⟩ := fine list isKey
      rw [isKey]
      by_cases unread : overrides.lookup list = none
      · exact .inr ⟨_, readField_list unread words rest⟩
      · exact .inl (fails_readField_of_repeated unread _)

end Fields

theorem readFieldGap_members
    (isFirst : Bool) (field : String × Value) (fields : List (String × Value))
    (rest : List Char) :
    readFieldGap isFirst (writeMembers isFirst ((field :: fields).map .ofField) ++ rest) =
      .ok (true, writeString field.1 ++
        ':' :: (writeCompact field.2 ++ (writeMembers false (fields.map .ofField) ++ rest))) := by
  have written :
      writeMembers isFirst ((field :: fields).map .ofField) ++ rest =
        (if isFirst then [] else [',']) ++
          (writeString field.1 ++
            ':' ::
              (writeCompact field.2 ++ (writeMembers false (fields.map .ofField) ++ rest))) := by
    simp [writeMembers, Member.write, Member.ofField]
  rw [written]
  cases isFirst with
  | true => exact readFieldGap_first (skipSpaces_cons rfl _)
  | false => exact readFieldGap_comma (skipSpaces_cons rfl _) (skipSpaces_cons rfl _)

/-! ## All fields -/

theorem lookup_eq_none_of_not_mem
    {fields : List (String × Value)} {key : String}
    (absent : key ∉ fields.map Prod.fst) :
    fields.lookup key = none := by
  rw [List.lookup_eq_none_iff]
  intro field member
  rw [bne_iff_ne]
  rintro rfl
  exact absent (List.mem_map_of_mem member)

section Given

variable {others : List (String × Value)} {given : WordList → Option (List String)}
variable {overrides : Overrides}

theorem present_behind_unknown
    {key : String} {value : Value}
    (unknown : WordList.ofKey? key = none)
    (present :
      ∀ list : WordList,
        List.lookup list.key ((key, value) :: others) = (given list).map .strings)
    (list : WordList) :
    others.lookup list.key = (given list).map .strings := by
  have different : list.key ≠ key := by
    rintro rfl
    rw [WordList.ofKey?_key] at unknown
    cases unknown
  rw [← present list, List.lookup_cons, beq_false_of_ne different]

/-- Behind the field of a list there are all given lists but this one. -/
theorem present_behind_list
    {named : WordList} {value : Value}
    (notRepeated : named.key ∉ others.map Prod.fst)
    (present :
      ∀ list : WordList,
        List.lookup list.key ((named.key, value) :: others) = (given list).map .strings)
    (list : WordList) :
    others.lookup list.key = (Function.update given named none list).map .strings := by
  by_cases same : list = named
  · rw [same, Function.update_self]
    exact lookup_eq_none_of_not_mem notRepeated
  · have different : list.key ≠ named.key := fun sameKey => same (WordList.key_injective sameKey)
    rw [Function.update_of_ne same, ← present list, List.lookup_cons, beq_false_of_ne different]

theorem unread_behind_list
    {named list : WordList}
    (unread : ∀ list, given list ≠ none → overrides.lookup list = none)
    (isLater : Function.update given named none list ≠ none)
    (words : List String) :
    List.lookup list ((named, words) :: overrides) = none := by
  have different : list ≠ named := by
    rintro rfl
    exact isLater (Function.update_self ..)
  rw [Function.update_of_ne different] at isLater
  rw [List.lookup_cons, beq_false_of_ne different]
  exact unread list isLater

end Given

/-- Fields with the lists that are given, and any others, leave the given lists in front of those
that were read before. -/
theorem readFieldsFrom_given
    {fields : List (String × Value)}
    (distinct : (fields.map Prod.fst).Nodup)
    (integral : ∀ field ∈ fields, field.2.Integral)
    {given : WordList → Option (List String)}
    (present : ∀ list, fields.lookup list.key = (given list).map .strings)
    {overrides : Overrides}
    (unread : ∀ list, given list ≠ none → overrides.lookup list = none)
    {bound : Nat}
    (enough : fields.length < bound)
    (isFirst : Bool) (rest : List Char) :
    ∃ result,
      readFieldsFrom bound isFirst overrides
          (writeMembers isFirst (fields.map .ofField) ++ '\x7d' :: rest) = .ok (result, rest) ∧
        ∀ list, result.lookup list = (given list).or (overrides.lookup list) := by
  obtain ⟨bound, rfl⟩ := Nat.exists_eq_add_one_of_ne_zero (Nat.ne_zero_of_lt enough)
  induction fields generalizing given overrides bound isFirst with
  | nil =>
      refine ⟨overrides, readFieldsFrom_closed (skipSpaces_cons rfl rest) bound isFirst overrides,
        ?_⟩
      intro list
      have absent : (given list).map Value.strings = none := (present list).symm
      rw [Option.map_eq_none_iff.mp absent, Option.none_or]
  | cons field others inductionHypothesis =>
      obtain ⟨key, value⟩ := field
      rw [List.length_cons] at enough
      obtain ⟨bound, rfl⟩ := Nat.exists_eq_add_one_of_ne_zero (show bound ≠ 0 by omega)
      obtain ⟨fieldIntegral, othersIntegral⟩ := List.forall_mem_cons.mp integral
      obtain ⟨notRepeated, othersDistinct⟩ := List.nodup_cons.mp distinct
      have gap := readFieldGap_members isFirst (key, value) others ('\x7d' :: rest)
      have behind : EndsNumber (writeMembers false (others.map .ofField) ++ '\x7d' :: rest) :=
        endsNumber_members .object _ rest
      rw [readFieldsFrom_field gap]
      -- a field that names no list changes nothing; a list is there from now on, and is not
      -- named again
      cases known : WordList.ofKey? key with
      | none =>
          simp only [readField_unknown known fieldIntegral behind]
          exact inductionHypothesis othersDistinct othersIntegral
            (present_behind_unknown known present) unread false bound (by omega)
      | some named =>
          obtain rfl := WordList.ofKey?_eq_some_iff.mp known
          have here := present named
          rw [List.lookup_cons, beq_self_eq_true] at here
          obtain ⟨words, isGiven, rfl⟩ := Option.map_eq_some_iff.mp here.symm
          have namedUnread : overrides.lookup named = none :=
            unread named (by rw [isGiven]; exact Option.some_ne_none words)
          obtain ⟨result, read, agrees⟩ :=
            inductionHypothesis othersDistinct othersIntegral
              (present_behind_list notRepeated present)
              (fun _ isLater => unread_behind_list unread isLater words) false bound (by omega)
          simp only [readField_list namedUnread]
          refine ⟨result, read, ?_⟩
          intro list
          rw [agrees list]
          by_cases same : list = named
          · rw [same, Function.update_self, isGiven, List.lookup_cons, beq_self_eq_true]
            rfl
          · rw [Function.update_of_ne same, List.lookup_cons, beq_false_of_ne same]

/-- The first field with a list that is not an array of strings ends the reading. -/
theorem fails_readFieldsFrom
    {fields : List (String × Value)}
    (integral : ∀ field ∈ fields, field.2.Integral)
    (wrong :
      ∃ field ∈ fields, ∃ list,
        field.1 = WordList.key list ∧ ∀ words, field.2 ≠ .strings words)
    (bound : Nat) (isFirst : Bool) (overrides : Overrides) (rest : List Char) :
    Fails (readFieldsFrom bound isFirst overrides
      (writeMembers isFirst (fields.map .ofField) ++ '\x7d' :: rest)) := by
  induction fields generalizing bound isFirst overrides with
  | nil => simp at wrong
  | cons field others inductionHypothesis =>
      obtain ⟨fieldIntegral, othersIntegral⟩ := List.forall_mem_cons.mp integral
      cases bound with
      | zero => exact ⟨_, rfl⟩
      | succ bound =>
          have gap := readFieldGap_members isFirst field others ('\x7d' :: rest)
          have behind : EndsNumber (writeMembers false (others.map .ofField) ++ '\x7d' :: rest) :=
            endsNumber_members .object _ rest
          rw [readFieldsFrom_field gap]
          by_cases fine : ∀ list, field.1 = WordList.key list → ∃ words, field.2 = .strings words
          · have wrongLater :
                ∃ field ∈ others, ∃ list,
                  field.1 = WordList.key list ∧ ∀ words, field.2 ≠ .strings words := by
              obtain ⟨found, member, list, isKey, isWrong⟩ := wrong
              rcases List.mem_cons.mp member with rfl | later
              · obtain ⟨words, isStrings⟩ := fine list isKey
                exact (isWrong words isStrings).elim
              · exact ⟨found, later, list, isKey, isWrong⟩
            rcases readField_cases fieldIntegral behind fine overrides with
              ⟨failure, failed⟩ | ⟨next, read⟩
            · exact ⟨failure, by simp only [failed]⟩
            · simp only [read]
              exact inductionHypothesis othersIntegral wrongLater bound false next
          · push Not at fine
            obtain ⟨list, isKey, isWrong⟩ := fine
            obtain ⟨failure, failed⟩ :=
              fails_readField_of_wrong fieldIntegral isWrong overrides list
                (writeMembers false (others.map .ofField) ++ '\x7d' :: rest)
            rw [← isKey] at failed
            exact ⟨failure, by simp only [failed]⟩

/-! ## The whole file -/

theorem toList_compact_object (fields : List (String × Value)) :
    (Value.object fields).compact.toList =
      '\x7b' :: (writeMembers true (fields.map .ofField) ++ ['\x7d']) := by
  rw [Value.compact, String.toList_ofList, writeCompact_object]

theorem length_le_writeMembers (isFirst : Bool) (fields : List (String × Value)) :
    fields.length ≤ (writeMembers isFirst (fields.map .ofField)).length := by
  induction fields generalizing isFirst with
  | nil => exact Nat.zero_le _
  | cons field others inductionHypothesis =>
      have later := inductionHypothesis false
      simp only [List.map_cons, writeMembers, Member.write, Member.ofField, List.length_append,
        List.length_cons, List.length_nil]
      omega

theorem parse_given
    {fields : List (String × Value)}
    (distinct : (fields.map Prod.fst).Nodup)
    (integral : ∀ field ∈ fields, field.2.Integral)
    {given : WordList → Option (List String)}
    (present : ∀ list, fields.lookup list.key = (given list).map .strings) :
    parse (Value.object fields).compact =
      .ok (ofLists fun list => (given list).getD (default.words list)) := by
  have enough :
      fields.length <
        ('\x7b' :: (writeMembers true (fields.map .ofField) ++ ['\x7d'])).length + 1 := by
    have atLeast := length_le_writeMembers true fields
    simp only [List.length_cons, List.length_append]
    omega
  have noneRead : ∀ list, given list ≠ none → ([] : Overrides).lookup list = none :=
    fun _ _ => List.lookup_nil
  obtain ⟨result, read, agrees⟩ :=
    readFieldsFrom_given distinct integral present noneRead enough true []
  have readAll :
      readOverrides (Value.object fields).compact.toList = .ok (result, []) := by
    rw [toList_compact_object, readOverrides, skipSpaces_cons rfl]
    exact read
  have nothingBehind : skipSpaces [] = [] := rfl
  have lists : ∀ list, result.lookup list = given list := by
    intro list
    rw [agrees list, List.lookup_nil, Option.or_none]
  simp only [parse, readAll, nothingBehind, ofOverrides, lists]

theorem fails_parse
    {fields : List (String × Value)}
    (integral : ∀ field ∈ fields, field.2.Integral)
    (wrong :
      ∃ field ∈ fields, ∃ list,
        field.1 = WordList.key list ∧ ∀ words, field.2 ≠ .strings words) :
    Fails (parse (Value.object fields).compact) := by
  obtain ⟨failure, failed⟩ := fails_readFieldsFrom integral wrong
    ('\x7b' :: (writeMembers true (fields.map .ofField) ++ ['\x7d'])).length.succ true [] []
  refine ⟨failure, ?_⟩
  have readAll : readOverrides (Value.object fields).compact.toList = .error failure := by
    rw [toList_compact_object, readOverrides, skipSpaces_cons rfl]
    exact failed
  simp only [parse, readAll]

end Vocabulary

namespace Run

/-- An object of any fields in any order, in which the lists of a vocabulary are arrays of strings
as far as they are named, is loaded as the built-in vocabulary with the named lists in their places.
If a named list is anything else, the file is refused. -/
theorem named_lists_replaced
    {fields : List (String × Value)}
    (distinct : (fields.map Prod.fst).Nodup)
    (integral : (Value.object fields).Integral)
    (path : String) :
    (∀ given : WordList → Option (List String),
      (∀ list, fields.lookup list.key = (given list).map .strings) →
        parseVocabulary path (Value.object fields).compact =
          .ok (.ofLists fun list => (given list).getD (Vocabulary.default.words list))) ∧
      ((∃ list value, fields.lookup (WordList.key list) = some value ∧
          ∀ words, value ≠ .strings words) →
        ∃ reason,
          parseVocabulary path (Value.object fields).compact =
            .error (.vocabulary path reason)) := by
  cases integral with
  | object fieldsIntegral =>
      constructor
      · intro given present
        simp only [parseVocabulary, Vocabulary.parse_given distinct fieldsIntegral present]
      · rintro ⟨list, value, found, isWrong⟩
        have member : (list.key, value) ∈ fields := by
          obtain ⟨front, behind, rfl, _⟩ := List.lookup_eq_some_iff.mp found
          exact List.mem_append_right front List.mem_cons_self
        obtain ⟨failure, failed⟩ :=
          Vocabulary.fails_parse fieldsIntegral ⟨_, member, list, rfl, isWrong⟩
        refine ⟨failure.message (Value.object fields).compact.toList, ?_⟩
        simp only [parseVocabulary, failed]

/-- Values under names of their own, among them the name of a list in a nested object, around two
lists of a vocabulary. -/
def mixedFields : List (String × Value) :=
  [("x", .array [.object [("other_archs", .null), ("k", .array [])], .bool true]),
    ("neoverse_cores", .strings ["n9", "]\""]),
    ("note", .string "\x7d,\"other_archs\":3"),
    ("other_archs", .strings []),
    ("count", .number (.integer (-123456789012345678901234567890)))]

/-- Two lists of the mixed file are replaced and four are kept; with a number for a third list the
same file is refused. -/
theorem named_lists_replaced_mixed :
    parseVocabulary "words.json" (Value.object mixedFields).compact =
        .ok { Vocabulary.default with otherProcessors := [], neoverseCores := ["n9", "]\""] } ∧
      ∃ reason,
        parseVocabulary "words.json"
            (Value.object (mixedFields ++ [("aarch64_archs", .nat 3)])).compact =
          .error (.vocabulary "words.json" reason) := by
  have integral :
      ∀ field ∈ mixedFields ++ [("aarch64_archs", Value.nat 3)], field.2.Integral := by
    simp only [mixedFields, List.cons_append, List.nil_append, List.forall_mem_cons]
    refine ⟨.array ?_, .array ?_, .string _, .array ?_, .integer _, .integer _, by simp⟩
    · simp only [List.forall_mem_cons]
      refine ⟨.object ?_, .bool true, by simp⟩
      simp only [List.forall_mem_cons]
      exact ⟨.null, .array (by simp), by simp⟩
    · intro item member
      obtain ⟨word, _, rfl⟩ := List.mem_map.mp member
      exact .string word
    · simp
  have mixedIntegral : ∀ field ∈ mixedFields, field.2.Integral :=
    fun field member => integral field (List.mem_append_left _ member)
  constructor
  · refine (named_lists_replaced (by decide) (.object mixedIntegral) "words.json").1
      (fun list =>
        match list with
        | .otherProcessors => some []
        | .neoverseCores => some ["n9", "]\""]
        | _ => none) ?_
    intro list
    cases list <;> rfl
  · refine (named_lists_replaced (by decide) (.object integral) "words.json").2
      ⟨.aarch64Processors, .nat 3, rfl, ?_⟩
    intro words isStrings
    cases isStrings

end Run

end ArchAudit
