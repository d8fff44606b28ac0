import ArchAudit.Json.Parser
import ArchAudit.Proofs.JsonParts

/-!
# Reading back an indented JSON text

The indented form of a value is read back as that value, however its lists and objects are nested.
Numbers are limited to the integers of 64 bits, signed or not; all strings and names are read back.
The reader is bounded by a depth, and three levels for each character of the text are enough.
-/

namespace ArchAudit.Json

/-! ## Layout -/

/-- The items of a list behind the first one. -/
def laterItems (level : Nat) (items : List Value) : List Char :=
  items.flatMap fun item => ',' :: (newline level ++ writeIndented level item)

/-- A field as it stands on its line. -/
def writeIndentedField (level : Nat) (field : String × Value) : List Char :=
  writeString field.1 ++ ':' :: ' ' :: writeIndented level field.2

/-- The fields of an object behind the first one. -/
def laterFields (level : Nat) (fields : List (String × Value)) : List Char :=
  fields.flatMap fun field => ',' :: (newline level ++ writeIndentedField level field)

theorem laterItems_cons (level : Nat) (item : Value) (items : List Value) :
    laterItems level (item :: items) =
      ',' :: (newline level ++ (writeIndented level item ++ laterItems level items)) := by
  simp [laterItems]

theorem laterFields_cons
    (level : Nat) (field : String × Value) (fields : List (String × Value)) :
    laterFields level (field :: fields) =
      ',' :: (newline level ++ (writeIndentedField level field ++ laterFields level fields)) := by
  simp [laterFields]

theorem writeIndentedItems_cons (level : Nat) (item : Value) (items : List Value) :
    writeIndentedItems level (item :: items) =
      newline level ++ (writeIndented level item ++ laterItems level items) := by
  induction items generalizing item with
  | nil => simp [writeIndentedItems, laterItems]
  | cons next others inductionHypothesis =>
      rw [writeIndentedItems, inductionHypothesis, laterItems_cons]
      · simp
      · exact List.cons_ne_nil next others

theorem writeIndentedFields_cons
    (level : Nat) (field : String × Value) (fields : List (String × Value)) :
    writeIndentedFields level (field :: fields) =
      newline level ++ (writeIndentedField level field ++ laterFields level fields) := by
  induction fields generalizing field with
  | nil => simp [writeIndentedFields, writeIndentedField, laterFields]
  | cons next others inductionHypothesis =>
      rw [writeIndentedFields, inductionHypothesis, laterFields_cons]
      · simp [writeIndentedField]
      · exact List.cons_ne_nil next others

theorem writeIndented_array_cons (level : Nat) (item : Value) (items : List Value) :
    writeIndented level (.array (item :: items)) =
      '[' :: (newline (level + 1) ++ (writeIndented (level + 1) item ++
        (laterItems (level + 1) items ++ (newline level ++ [']'])))) := by
  simp [writeIndented, writeIndentedItems_cons]

theorem writeIndented_object_cons
    (level : Nat) (field : String × Value) (fields : List (String × Value)) :
    writeIndented level (.object (field :: fields)) =
      '\x7b' :: (newline (level + 1) ++ (writeIndentedField (level + 1) field ++
        (laterFields (level + 1) fields ++ (newline level ++ ['\x7d'])))) := by
  simp [writeIndented, writeIndentedFields_cons]

theorem toList_toString_of_nonneg
    {value : Int}
    (nonnegative : 0 ≤ value) :
    (toString value).toList = Nat.toDigits 10 value.toNat := by
  rw [Int.toString_eq_repr, Int.repr_eq_if, if_pos nonnegative, Nat.toList_repr]

theorem toList_toString_of_neg
    {value : Int}
    (negative : ¬ 0 ≤ value) :
    (toString value).toList = '-' :: Nat.toDigits 10 (-value).toNat := by
  rw [Int.toString_eq_repr, Int.repr_eq_if, if_neg negative, String.toList_append,
    Nat.toList_repr]
  rfl

/-! ## Steps of the reader -/

theorem readValue_of_skipSpaces_eq
    {text other : List Char}
    (same : skipSpaces text = skipSpaces other)
    (depth : Nat) :
    readValue depth text = readValue depth other := by
  cases depth with
  | zero => rfl
  | succ depth => rw [readValue, readValue, same]

theorem readItems_newline (depth level : Nat) (text : List Char) :
    readItems depth (newline level ++ text) = readItems depth text := by
  cases depth with
  | zero => rfl
  | succ depth =>
      rw [readItems, readItems, readValue_of_skipSpaces_eq (skipSpaces_newline level text)]

theorem readField_newline (depth level : Nat) (text : List Char) :
    readField depth (newline level ++ text) = readField depth text := by
  cases depth with
  | zero => rfl
  | succ depth => rw [readField, readField, skipSpaces_newline]

theorem readFields_newline (depth level : Nat) (text : List Char) :
    readFields depth (newline level ++ text) = readFields depth text := by
  cases depth with
  | zero => rfl
  | succ depth => rw [readFields, readFields, readField_newline]

theorem readValue_string (depth : Nat) (text : String) (rest : List Char) :
    readValue (depth + 1) (writeString text ++ rest) = some (.string text, rest) := by
  rw [writeString_eq_cons, List.cons_append, readValue, skipSpaces_cons rfl]
  simp only [if_true, readString_behindQuote, Except.toOption, Option.map_some]

theorem readValue_digit
    {c : Char}
    (digit : c.isDigit = true)
    (depth : Nat) (rest : List Char) :
    readValue (depth + 1) (c :: rest) =
      (readNumber false (c :: rest)).toOption.map fun read => (.number read.1, read.2) := by
  have differs := ne_of_isDigit digit
  rw [readValue, skipSpaces_cons (isSpace_of_isDigit digit)]
  simp [differs '"' rfl, differs '[' rfl, differs '\x7b' rfl, differs 'n' rfl, differs 't' rfl,
    differs 'f' rfl, differs '-' rfl]

theorem readValue_bracket
    {text others : List Char} {c : Char}
    (next : skipSpaces text = c :: others)
    (unclosed : c ≠ ']')
    (depth : Nat) :
    readValue (depth + 1) ('[' :: text) =
      (readItems depth (c :: others)).map fun read => (.array read.1, read.2) := by
  rw [readValue, skipSpaces_cons rfl]
  simp [next, unclosed]

theorem readValue_brace
    {text others : List Char} {c : Char}
    (next : skipSpaces text = c :: others)
    (unclosed : c ≠ '\x7d')
    (depth : Nat) :
    readValue (depth + 1) ('\x7b' :: text) =
      (readFields depth (c :: others)).map fun read => (.object read.1, read.2) := by
  rw [readValue, skipSpaces_cons rfl]
  simp [next, unclosed]

theorem readItems_comma
    {depth : Nat} {text behind others : List Char} {item : Value}
    (first : readValue depth text = some (item, behind))
    (separated : skipSpaces behind = ',' :: others) :
    readItems (depth + 1) text =
      (readItems depth others).map fun read => (item :: read.1, read.2) := by
  rw [readItems, first]
  simp [separated]

theorem readItems_last
    {depth : Nat} {text behind rest : List Char} {item : Value}
    (first : readValue depth text = some (item, behind))
    (closed : skipSpaces behind = ']' :: rest) :
    readItems (depth + 1) text = some ([item], rest) := by
  rw [readItems, first]
  simp [closed]

theorem readFields_comma
    {depth : Nat} {text behind others : List Char} {field : String × Value}
    (first : readField depth text = some (field, behind))
    (separated : skipSpaces behind = ',' :: others) :
    readFields (depth + 1) text =
      (readFields depth others).map fun read => (field :: read.1, read.2) := by
  rw [readFields, first]
  simp [separated]

theorem readFields_last
    {depth : Nat} {text behind rest : List Char} {field : String × Value}
    (first : readField depth text = some (field, behind))
    (closed : skipSpaces behind = '\x7d' :: rest) :
    readFields (depth + 1) text = some ([field], rest) := by
  rw [readFields, first]
  simp [closed]

theorem readField_indented
    {depth level : Nat} {field : String × Value} {rest behind : List Char}
    (value : readValue depth (writeIndented level field.2 ++ rest) = some (field.2, behind)) :
    readField (depth + 1) (writeIndentedField level field ++ rest) = some (field, behind) := by
  have colon := skipSpaces_cons (c := ':') rfl (' ' :: (writeIndented level field.2 ++ rest))
  have blank :
      readValue depth (' ' :: (writeIndented level field.2 ++ rest)) =
        readValue depth (writeIndented level field.2 ++ rest) :=
    readValue_of_skipSpaces_eq (skipSpaces_blank _) depth
  rw [writeIndentedField, writeString_eq_cons, List.append_assoc, List.cons_append, readField,
    skipSpaces_cons rfl]
  simp [readString_behindQuote, colon, blank, value]

/-! ## Values that are read back -/

/-- The integers that a number without fraction and exponent stands for exactly. -/
def IsExactInteger (value : Int) : Prop :=
  -0x8000000000000000 ≤ value ∧ value ≤ 0xFFFFFFFFFFFFFFFF

/-- Values all of whose numbers are exact. -/
inductive Value.Exact : Value → Prop
  | null :
      Exact .null
  | bool (value : Bool) :
      Exact (.bool value)
  | integer {value : Int} :
      IsExactInteger value →
      Exact (.number (.integer value))
  | string (text : String) :
      Exact (.string text)
  | array {items : List Value} :
      (∀ item ∈ items, Exact item) →
      Exact (.array items)
  | object {fields : List (String × Value)} :
      (∀ field ∈ fields, Exact field.2) →
      Exact (.object fields)

/-- Whether a value is read back from its indented form at any level, in front of anything that
does not prolong a number. -/
def ReadsBack (value : Value) : Prop :=
  ∀ (level depth : Nat) (rest : List Char),
    3 * (writeIndented level value).length < depth →
      EndsNumber rest →
        readValue depth (writeIndented level value ++ rest) = some (value, rest)

theorem readsBack_null : ReadsBack .null := by
  intro level depth rest enough _
  obtain ⟨depth, rfl⟩ := Nat.exists_eq_add_one_of_ne_zero (Nat.ne_zero_of_lt enough)
  have written : writeIndented level .null ++ rest = 'n' :: 'u' :: 'l' :: 'l' :: rest := by
    simp [writeIndented]
  rw [written, readValue, skipSpaces_cons rfl]
  simp [readLetters, Except.toOption]

theorem readsBack_bool (value : Bool) : ReadsBack (.bool value) := by
  intro level depth rest enough _
  obtain ⟨depth, rfl⟩ := Nat.exists_eq_add_one_of_ne_zero (Nat.ne_zero_of_lt enough)
  cases value with
  | true =>
      have written :
          writeIndented level (.bool true) ++ rest = 't' :: 'r' :: 'u' :: 'e' :: rest := by
        simp [writeIndented, writeBool]
      rw [written, readValue, skipSpaces_cons rfl]
      simp [readLetters, Except.toOption]
  | false =>
      have written :
          writeIndented level (.bool false) ++ rest =
            'f' :: 'a' :: 'l' :: 's' :: 'e' :: rest := by
        simp [writeIndented, writeBool]
      rw [written, readValue, skipSpaces_cons rfl]
      simp [readLetters, Except.toOption]

theorem readsBack_integer
    {value : Int}
    (exact : IsExactInteger value) :
    ReadsBack (.number (.integer value)) := by
  intro level depth rest enough ends
  obtain ⟨depth, rfl⟩ := Nat.exists_eq_add_one_of_ne_zero (Nat.ne_zero_of_lt enough)
  obtain ⟨atLeast, atMost⟩ := exact
  rw [writeIndented, Number.text]
  by_cases nonnegative : 0 ≤ value
  · have fits : value.toNat ≤ 0xFFFFFFFFFFFFFFFF := by omega
    have read := readNumber_toDigits ends fits
    obtain ⟨c, others, shape, digit⟩ := toDigits_eq_cons value.toNat
    rw [shape, List.cons_append] at read
    rw [toList_toString_of_nonneg nonnegative, shape, List.cons_append, readValue_digit digit,
      read, Int.toNat_of_nonneg nonnegative]
    rfl
  · have positive : 0 < (-value).toNat := by omega
    have fits : (-value).toNat ≤ 0x8000000000000000 := by omega
    have value_eq : -((-value).toNat : Int) = value := by omega
    have read := readNumber_toDigits_of_negative ends positive fits
    rw [value_eq] at read
    rw [toList_toString_of_neg nonnegative, List.cons_append, readValue, skipSpaces_cons rfl]
    simp [read, Except.toOption]

theorem readsBack_string (text : String) : ReadsBack (.string text) := by
  intro level depth rest enough _
  obtain ⟨depth, rfl⟩ := Nat.exists_eq_add_one_of_ne_zero (Nat.ne_zero_of_lt enough)
  rw [writeIndented]
  exact readValue_string depth text rest

/-! ### Lists -/

/-- A value begins with a character that neither is blank nor closes a list. -/
theorem Value.Exact.writeIndented_eq_cons
    {value : Value}
    (exact : value.Exact)
    (level : Nat) :
    ∃ c others, writeIndented level value = c :: others ∧ isSpace c = false ∧ c ≠ ']' := by
  cases exact with
  | null => exact ⟨'n', _, by rw [writeIndented]; rfl, rfl, by decide⟩
  | bool value =>
      cases value with
      | true => exact ⟨'t', _, by rw [writeIndented]; rfl, rfl, by decide⟩
      | false => exact ⟨'f', _, by rw [writeIndented]; rfl, rfl, by decide⟩
  | @integer value _ =>
      rw [writeIndented, Number.text]
      by_cases nonnegative : 0 ≤ value
      · obtain ⟨c, others, shape, digit⟩ := toDigits_eq_cons value.toNat
        rw [toList_toString_of_nonneg nonnegative]
        exact ⟨c, others, shape, isSpace_of_isDigit digit, ne_of_isDigit digit ']' rfl⟩
      · exact ⟨'-', _, toList_toString_of_neg nonnegative, rfl, by decide⟩
  | string text => exact ⟨'"', _, by rw [writeIndented, writeString_eq_cons], rfl, by decide⟩
  | @array items _ =>
      cases items with
      | nil => exact ⟨'[', _, by rw [writeIndented], rfl, by decide⟩
      | cons item others =>
          exact ⟨'[', _, writeIndented_array_cons level item others, rfl, by decide⟩
  | @object fields _ =>
      cases fields with
      | nil => exact ⟨'\x7b', _, by rw [writeIndented], rfl, by decide⟩
      | cons field others =>
          exact ⟨'\x7b', _, writeIndented_object_cons level field others, rfl, by decide⟩

/-- Items that are read back one by one are read back as a list. -/
theorem readItems_indented
    {item : Value} {items : List Value}
    (readBack : ∀ other ∈ item :: items, ReadsBack other)
    {level depth : Nat} {closing rest : List Char}
    (enough : 3 * (writeIndented level item ++ laterItems level items).length + 1 < depth)
    (ends : EndsNumber closing)
    (closed : skipSpaces closing = ']' :: rest) :
    readItems depth (writeIndented level item ++ (laterItems level items ++ closing)) =
      some (item :: items, rest) := by
  obtain ⟨depth, rfl⟩ := Nat.exists_eq_add_one_of_ne_zero (Nat.ne_zero_of_lt enough)
  induction items generalizing item depth with
  | nil =>
      simp only [laterItems, List.flatMap_nil, List.append_nil] at enough
      have first := readBack item List.mem_cons_self level depth closing (by omega) ends
      exact readItems_last first closed
  | cons next others inductionHypothesis =>
      obtain ⟨itemReadBack, othersReadBack⟩ := List.forall_mem_cons.mp readBack
      rw [laterItems_cons] at enough ⊢
      simp only [List.length_append, List.length_cons, length_newline] at enough
      -- the comma behind the item ends a number, and its length pays for the step to the next item
      have first := itemReadBack level depth _ (by omega)
        (endsNumber_comma (newline level ++
          (writeIndented level next ++ (laterItems level others ++ closing))))
      obtain ⟨depth, rfl⟩ := Nat.exists_eq_add_one_of_ne_zero (show depth ≠ 0 by omega)
      have later := inductionHypothesis othersReadBack depth (by rw [List.length_append]; omega)
      rw [List.cons_append, List.append_assoc, List.append_assoc,
        readItems_comma first (skipSpaces_cons rfl _), readItems_newline, later]
      rfl

theorem readsBack_array
    {items : List Value}
    (exact : ∀ item ∈ items, item.Exact)
    (readBack : ∀ item ∈ items, ReadsBack item) :
    ReadsBack (.array items) := by
  intro level depth rest enough _
  obtain ⟨depth, rfl⟩ := Nat.exists_eq_add_one_of_ne_zero (Nat.ne_zero_of_lt enough)
  cases items with
  | nil =>
      have closed := skipSpaces_cons (c := ']') rfl rest
      rw [writeIndented, readValue, List.cons_append, skipSpaces_cons rfl]
      simp [closed]
  | cons item others =>
      rw [writeIndented_array_cons] at enough ⊢
      simp only [List.length_append, List.length_cons, length_newline] at enough
      have read :
          readItems depth (writeIndented (level + 1) item ++
            (laterItems (level + 1) others ++ (newline level ++ ']' :: rest))) = _ :=
        readItems_indented readBack (by rw [List.length_append]; omega)
          (endsNumber_newline level _) (skipSpaces_newline_cons rfl level rest)
      obtain ⟨c, behind, head, visible, unclosed⟩ :=
        (exact item List.mem_cons_self).writeIndented_eq_cons (level + 1)
      simp only [head, List.cons_append, List.append_assoc, List.nil_append] at read ⊢
      rw [readValue_bracket (skipSpaces_newline_cons visible _ _) unclosed, read]
      rfl

/-! ### Objects -/

theorem ReadsBack.readField
    {field : String × Value}
    (readBack : ReadsBack field.2)
    {level depth : Nat} {rest : List Char}
    (enough : 3 * (writeIndentedField level field).length < depth)
    (ends : EndsNumber rest) :
    readField depth (writeIndentedField level field ++ rest) = some (field, rest) := by
  obtain ⟨depth, rfl⟩ := Nat.exists_eq_add_one_of_ne_zero (Nat.ne_zero_of_lt enough)
  simp only [writeIndentedField, List.length_append, List.length_cons] at enough
  exact readField_indented (readBack level depth rest (by omega) ends)

/-- Fields whose values are read back one by one are read back as a list. -/
theorem readFields_indented
    {field : String × Value} {fields : List (String × Value)}
    (readBack : ∀ other ∈ field :: fields, ReadsBack other.2)
    {level depth : Nat} {closing rest : List Char}
    (enough : 3 * (writeIndentedField level field ++ laterFields level fields).length + 1 < depth)
    (ends : EndsNumber closing)
    (closed : skipSpaces closing = '\x7d' :: rest) :
    readFields depth (writeIndentedField level field ++ (laterFields level fields ++ closing)) =
      some (field :: fields, rest) := by
  obtain ⟨depth, rfl⟩ := Nat.exists_eq_add_one_of_ne_zero (Nat.ne_zero_of_lt enough)
  induction fields generalizing field depth with
  | nil =>
      simp only [laterFields, List.flatMap_nil, List.append_nil] at enough
      have first : readField depth (writeIndentedField level field ++ closing) = _ :=
        (readBack field List.mem_cons_self).readField (by omega) ends
      exact readFields_last first closed
  | cons next others inductionHypothesis =>
      obtain ⟨fieldReadBack, othersReadBack⟩ := List.forall_mem_cons.mp readBack
      rw [laterFields_cons] at enough ⊢
      simp only [List.length_append, List.length_cons, length_newline] at enough
      have first :
          readField depth (writeIndentedField level field ++
            ',' :: (newline level ++
              (writeIndentedField level next ++ (laterFields level others ++ closing)))) = _ :=
        fieldReadBack.readField (by omega) (endsNumber_comma _)
      obtain ⟨depth, rfl⟩ := Nat.exists_eq_add_one_of_ne_zero (show depth ≠ 0 by omega)
      have later := inductionHypothesis othersReadBack depth (by rw [List.length_append]; omega)
      rw [List.cons_append, List.append_assoc, List.append_assoc,
        readFields_comma first (skipSpaces_cons rfl _), readFields_newline, later]
      rfl

theorem readsBack_object
    {fields : List (String × Value)}
    (readBack : ∀ field ∈ fields, ReadsBack field.2) :
    ReadsBack (.object fields) := by
  intro level depth rest enough _
  obtain ⟨depth, rfl⟩ := Nat.exists_eq_add_one_of_ne_zero (Nat.ne_zero_of_lt enough)
  cases fields with
  | nil =>
      have closed := skipSpaces_cons (c := '\x7d') rfl rest
      rw [writeIndented, readValue, List.cons_append, skipSpaces_cons rfl]
      simp [closed]
  | cons field others =>
      rw [writeIndented_object_cons] at enough ⊢
      simp only [List.length_append, List.length_cons, length_newline] at enough
      have read :
          readFields depth (writeIndentedField (level + 1) field ++
            (laterFields (level + 1) others ++ (newline level ++ '\x7d' :: rest))) = _ :=
        readFields_indented readBack (by rw [List.length_append]; omega)
          (endsNumber_newline level _) (skipSpaces_newline_cons rfl level rest)
      have head :
          writeIndentedField (level + 1) field =
            '"' :: (behindQuote field.1 ++ ':' :: ' ' :: writeIndented (level + 1) field.2) := rfl
      simp only [head, List.cons_append, List.append_assoc, List.nil_append] at read ⊢
      rw [readValue_brace (skipSpaces_newline_cons rfl _ _) (by decide), read]
      rfl

/-! ## Whole texts -/

theorem Value.Exact.readsBack
    {value : Value}
    (exact : value.Exact) :
    ReadsBack value := by
  induction exact with
  | null => exact readsBack_null
  | bool value => exact readsBack_bool value
  | integer inRange => exact readsBack_integer inRange
  | string text => exact readsBack_string text
  | array itemsExact inductionHypothesis => exact readsBack_array itemsExact inductionHypothesis
  | object _ inductionHypothesis => exact readsBack_object inductionHypothesis

/-- The indented text of a value is read as that value. -/
theorem Value.parse?_indented
    {value : Value}
    (exact : value.Exact) :
    Value.parse? value.indented = some value := by
  have toList_indented : value.indented.toList = writeIndented 0 value := String.toList_ofList
  have enough : 3 * (writeIndented 0 value).length < 3 * value.indented.length + 3 := by
    rw [← String.length_toList, toList_indented]
    omega
  have read := exact.readsBack 0 _ [] enough endsNumber_nil
  rw [List.append_nil] at read
  simp only [Value.parse?, toList_indented, read]
  rfl

end ArchAudit.Json
