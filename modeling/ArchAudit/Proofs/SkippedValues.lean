import ArchAudit.Json.Skip
import ArchAudit.Proofs.JsonValues

/-!
# Skipping a compact JSON text

The compact form of a value is skipped as a whole, and nothing behind it is touched, however its
lists and objects are nested and whatever stands on the stack of open brackets.  Integers may have
any size.  A round of the skipper takes one value without structure or one opening bracket, so the
number of rounds is bounded by the length of the text.
-/

namespace ArchAudit.Json

/-! ## Layout -/

/-- A value inside a bracket, and what leads up to it. -/
structure Member where
  lead : List Char
  value : Value

namespace Member

/-- An item of a list. -/
def ofItem (item : Value) : Member :=
  ⟨[], item⟩

/-- A field of an object, led up to by its name and a colon. -/
def ofField (field : String × Value) : Member :=
  ⟨writeString field.1 ++ [':'], field.2⟩

/-- The member as it is written. -/
def write (member : Member) : List Char :=
  member.lead ++ writeCompact member.value

end Member

/-- What stands between two brackets; the first member has no comma in front of it. -/
def writeMembers (isFirst : Bool) : List Member → List Char
  | [] => []
  | member :: members =>
      (if isFirst then [] else [',']) ++ (member.write ++ writeMembers false members)

theorem writeMembers_first (member : Member) (members : List Member) :
    writeMembers true (member :: members) = member.write ++ writeMembers false members := by
  simp [writeMembers]

theorem writeMembers_later (member : Member) (members : List Member) :
    writeMembers false (member :: members) =
      ',' :: (member.write ++ writeMembers false members) := by
  simp [writeMembers]

theorem writeCompactItems_eq (items : List Value) :
    writeCompactItems items = writeMembers true (items.map .ofItem) := by
  induction items with
  | nil => rw [writeCompactItems, List.map_nil, writeMembers]
  | cons item others inductionHypothesis =>
      rw [List.map_cons, writeMembers_first]
      cases others with
      | nil => simp [writeCompactItems, writeMembers, Member.write, Member.ofItem]
      | cons next later =>
          rw [writeCompactItems, inductionHypothesis, List.map_cons, writeMembers_first,
            writeMembers_later]
          · simp [Member.write, Member.ofItem]
          · exact List.cons_ne_nil next later

theorem writeCompactFields_eq (fields : List (String × Value)) :
    writeCompactFields fields = writeMembers true (fields.map .ofField) := by
  induction fields with
  | nil => rw [writeCompactFields, List.map_nil, writeMembers]
  | cons field others inductionHypothesis =>
      rw [List.map_cons, writeMembers_first]
      cases others with
      | nil => simp [writeCompactFields, writeMembers, Member.write, Member.ofField]
      | cons next later =>
          rw [writeCompactFields, inductionHypothesis, List.map_cons, writeMembers_first,
            writeMembers_later]
          · simp [Member.write, Member.ofField]
          · exact List.cons_ne_nil next later

theorem writeCompact_array (items : List Value) :
    writeCompact (.array items) = '[' :: (writeMembers true (items.map .ofItem) ++ [']']) := by
  rw [writeCompact, writeCompactItems_eq]
  rfl

theorem writeCompact_object (fields : List (String × Value)) :
    writeCompact (.object fields) =
      '\x7b' :: (writeMembers true (fields.map .ofField) ++ ['\x7d']) := by
  rw [writeCompact, writeCompactFields_eq]
  rfl

/-! ## Values with integers only -/

/-- Values all of whose numbers are integers, of any size. -/
inductive Value.Integral : Value → Prop
  | null :
      Integral .null
  | bool (value : Bool) :
      Integral (.bool value)
  | integer (value : Int) :
      Integral (.number (.integer value))
  | string (text : String) :
      Integral (.string text)
  | array {items : List Value} :
      (∀ item ∈ items, Integral item) →
      Integral (.array items)
  | object {fields : List (String × Value)} :
      (∀ field ∈ fields, Integral field.2) →
      Integral (.object fields)

/-- What the first character of a value tells: only a string begins with a quote, and only a list
with a bracket. -/
structure Begins (value : Value) (c : Char) : Prop where
  visible : isSpace c = false
  unclosed : c ≠ ']'
  quoted : c = '"' → ∃ text, value = .string text
  bracketed : c = '[' → ∃ items, value = .array items

theorem Value.Integral.begins
    {value : Value}
    (integral : value.Integral) :
    ∃ c others, writeCompact value = c :: others ∧ Begins value c := by
  cases integral with
  | null => exact ⟨'n', _, by rw [writeCompact]; rfl, rfl, by decide, by simp, by simp⟩
  | bool value =>
      cases value with
      | true => exact ⟨'t', _, by rw [writeCompact]; rfl, rfl, by decide, by simp, by simp⟩
      | false => exact ⟨'f', _, by rw [writeCompact]; rfl, rfl, by decide, by simp, by simp⟩
  | integer value =>
      rw [writeCompact, Number.text]
      by_cases nonnegative : 0 ≤ value
      · obtain ⟨c, others, shape, digit⟩ := toDigits_eq_cons value.toNat
        have differs := ne_of_isDigit digit
        rw [toList_toString_of_nonneg nonnegative]
        exact ⟨c, others, shape, isSpace_of_isDigit digit, differs ']' rfl,
          fun quote => (differs '"' rfl quote).elim,
          fun bracket => (differs '[' rfl bracket).elim⟩
      · exact ⟨'-', _, toList_toString_of_neg nonnegative, rfl, by decide, by simp, by simp⟩
  | string text =>
      exact ⟨'"', _, by rw [writeCompact, writeString_eq_cons], rfl, by decide,
        fun _ => ⟨text, rfl⟩, by simp⟩
  | @array items _ =>
      exact ⟨'[', _, writeCompact_array items, rfl, by decide, by simp, fun _ => ⟨items, rfl⟩⟩
  | @object fields _ =>
      exact ⟨'\x7b', _, writeCompact_object fields, rfl, by decide, by simp, by simp⟩

/-! ## Parts that are skipped -/

theorem skipString_quote (rest : List Char) :
    skipString ('"' :: rest) = .ok rest := by
  rw [skipString.eq_def]
  simp only [if_true]

/-- However a character is escaped, the skipper passes over it. -/
theorem Escaped.skipString_append
    {c : Char} {written : List Char}
    (escaped : Escaped c written)
    (rest : List Char) :
    skipString (written ++ rest) = skipString rest := by
  cases escaped with
  | plain notQuote notBackslash notControl =>
      rw [List.singleton_append, skipString.eq_def]
      simp only [if_neg notQuote, if_neg notBackslash, if_neg (Nat.not_lt.mpr notControl)]
  | short known =>
      rw [List.cons_append, List.singleton_append, skipString.eq_def]
      simp only [known, Char.reduceEq, if_false, if_true]
  | control _ known =>
      have noShortEscape : shortEscape? 'u' = none := rfl
      simp only [List.cons_append, List.nil_append]
      rw [skipString.eq_def]
      simp [known, noShortEscape]

theorem skipString_behindQuote (text : String) (rest : List Char) :
    skipString (behindQuote text ++ rest) = .ok rest := by
  rw [behindQuote, List.append_assoc, List.singleton_append]
  induction text.toList with
  | nil => exact skipString_quote rest
  | cons c others inductionHypothesis =>
      rw [List.flatMap_cons, List.append_assoc, (escapedChar_escaped c).skipString_append,
        inductionHypothesis]

theorem skipNumber_toDigits
    {rest : List Char}
    (ends : EndsNumber rest)
    (number : Nat) :
    skipNumber (Nat.toDigits 10 number ++ rest) = .ok rest := by
  simp only [skipNumber, readNumeral_toDigits ends]

theorem skipHead_digit
    {c : Char}
    (digit : c.isDigit = true)
    (rest : List Char) :
    skipHead (c :: rest) = (skipNumber (c :: rest)).map fun behind => (none, behind) := by
  have differs := ne_of_isDigit digit
  simp [skipHead, differs 'n' rfl, differs 't' rfl, differs 'f' rfl, differs '-' rfl, digit]

theorem skipHead_integer
    {rest : List Char}
    (ends : EndsNumber rest)
    (value : Int) :
    skipHead (writeCompact (.number (.integer value)) ++ rest) = .ok (none, rest) := by
  rw [writeCompact, Number.text]
  by_cases nonnegative : 0 ≤ value
  · have skipped := skipNumber_toDigits ends value.toNat
    obtain ⟨c, others, shape, digit⟩ := toDigits_eq_cons value.toNat
    rw [shape, List.cons_append] at skipped
    rw [toList_toString_of_nonneg nonnegative, shape, List.cons_append, skipHead_digit digit,
      skipped]
    rfl
  · have skipped := skipNumber_toDigits ends (-value).toNat
    rw [toList_toString_of_neg nonnegative, List.cons_append]
    simp [skipHead, skipped, Except.map]

theorem skipKey_name (name : String) (rest : List Char) :
    skipKey (writeString name ++ ':' :: rest) = .ok rest := by
  have quote := skipSpaces_cons (c := '"') rfl (behindQuote name ++ ':' :: rest)
  have colon := skipSpaces_cons (c := ':') rfl rest
  rw [writeString_eq_cons, List.cons_append]
  simp [skipKey, quote, skipString_behindQuote, colon]

/-! ## Rounds -/

/-- The character that opens a bracket. -/
def Frame.opening : Frame → Char
  | list => '['
  | object => '\x7b'

/-- The rounds that are left when a value or an opening bracket has been taken. -/
def skipNext (rounds : Nat) : Result (Option (List Frame)) → Except Failure (List Char)
  | .error failure => .error failure
  | .ok (none, rest) => .ok rest
  | .ok (some frames, rest) =>
      match skipToValue frames rest with
      | .error failure => .error failure
      | .ok rest => skipRounds rounds frames rest

/-- What is done behind a complete value. -/
def skipRest (rounds : Nat) (frames : List Frame) (text : List Char) :
    Except Failure (List Char) :=
  skipNext rounds (skipClosing frames text)

theorem skipRest_nil (rounds : Nat) (rest : List Char) :
    skipRest rounds [] rest = .ok rest := rfl

theorem skipRest_closing
    (rounds : Nat) (frame : Frame) (outer : List Frame) (rest : List Char) :
    skipRest rounds (frame :: outer) (frame.closing :: rest) = skipRest rounds outer rest := by
  cases frame <;> rfl

theorem skipRest_comma
    {frame : Frame} {outer : List Frame} {text rest : List Char}
    (led : skipToValue (frame :: outer) text = .ok rest)
    (rounds : Nat) :
    skipRest rounds (frame :: outer) (',' :: text) = skipRounds rounds (frame :: outer) rest := by
  have closed : skipClosing (frame :: outer) (',' :: text) = .ok (some (frame :: outer), text) := by
    simp [skipClosing, skipSpaces_cons (c := ',') rfl text]
  simp only [skipRest, closed, skipNext, led]

theorem skipRounds_plain
    {text rest : List Char}
    (skipped : skipHead (skipSpaces text) = .ok (none, rest))
    (rounds : Nat) (frames : List Frame) :
    skipRounds (rounds + 1) frames text = skipRest rounds frames rest := by
  simp only [skipRounds, skipped]
  rfl

theorem skipRounds_opening
    (rounds : Nat) (frame : Frame) (outer : List Frame) (text : List Char) :
    skipRounds (rounds + 1) outer (frame.opening :: text) =
      skipNext rounds (skipOpening frame outer text) := by
  cases frame <;> rfl

/-! ## Values that are skipped -/

/-- Whether the compact form of a value is passed over inside any brackets, in no more rounds than
it has characters and in front of anything that does not prolong a number. -/
def Skippable (value : Value) : Prop :=
  ∃ cost, cost ≤ (writeCompact value).length ∧
    ∀ rounds frames rest,
      EndsNumber rest →
        skipRounds (cost + rounds) frames (writeCompact value ++ rest) =
          skipRest rounds frames rest

/-- A value without structure takes one round. -/
theorem skippable_of_skipHead
    {value : Value}
    (integral : value.Integral)
    (skipped :
      ∀ rest, EndsNumber rest → skipHead (writeCompact value ++ rest) = .ok (none, rest)) :
    Skippable value := by
  obtain ⟨c, others, shape, begins⟩ := integral.begins
  refine ⟨1, by simp [shape], ?_⟩
  intro rounds frames rest ends
  rw [Nat.add_comm]
  apply skipRounds_plain
  have head := skipped rest ends
  rw [shape, List.cons_append] at head ⊢
  rw [skipSpaces_cons begins.visible, head]

/-- A member that can stand in a bracket: what leads up to its value is passed over, and its first
character does not close the bracket. -/
structure Member.FitsIn (frame : Frame) (member : Member) : Prop where
  led : ∀ outer rest, skipToValue (frame :: outer) (member.lead ++ rest) = .ok rest
  opens : ∃ c others, member.write = c :: others ∧ isSpace c = false ∧ c ≠ frame.closing
  skippable : Skippable member.value

theorem endsNumber_closing (frame : Frame) (rest : List Char) :
    EndsNumber (frame.closing :: rest) := by
  intro c member
  cases member
  cases frame <;> decide

theorem endsNumber_members (frame : Frame) (members : List Member) (rest : List Char) :
    EndsNumber (writeMembers false members ++ frame.closing :: rest) := by
  cases members with
  | nil => exact endsNumber_closing frame rest
  | cons member others =>
      rw [writeMembers_later]
      exact endsNumber_comma _

/-- The members of a bracket from the value of one of them on, up to the closing bracket. -/
theorem skipRounds_members
    {frame : Frame} {member : Member} {members : List Member}
    (fits : ∀ other ∈ member :: members, other.FitsIn frame) :
    ∃ cost, cost ≤ (writeCompact member.value ++ writeMembers false members).length ∧
      ∀ rounds outer rest,
        skipRounds (cost + rounds) (frame :: outer)
            (writeCompact member.value ++ (writeMembers false members ++ frame.closing :: rest)) =
          skipRest rounds outer rest := by
  induction members generalizing member with
  | nil =>
      obtain ⟨cost, atMost, skipped⟩ := (fits member List.mem_cons_self).skippable
      refine ⟨cost, by simpa [writeMembers] using atMost, ?_⟩
      intro rounds outer rest
      rw [writeMembers, List.nil_append, skipped _ _ _ (endsNumber_closing frame rest),
        skipRest_closing]
  | cons next others inductionHypothesis =>
      obtain ⟨memberFits, othersFit⟩ := List.forall_mem_cons.mp fits
      obtain ⟨cost, atMost, skipped⟩ := memberFits.skippable
      obtain ⟨laterCost, laterAtMost, laterSkipped⟩ := inductionHypothesis othersFit
      rw [writeMembers_later, Member.write]
      refine ⟨cost + laterCost, ?_, ?_⟩
      · simp only [List.length_append, List.length_cons] at laterAtMost ⊢
        omega
      · intro rounds outer rest
        have led := (othersFit next List.mem_cons_self).led outer
          (writeCompact next.value ++ (writeMembers false others ++ frame.closing :: rest))
        rw [List.cons_append, List.append_assoc, List.append_assoc, Nat.add_assoc,
          skipped _ _ _ (endsNumber_comma _), skipRest_comma led, laterSkipped]

/-- A bracket with members that can stand in it is passed over as a whole. -/
theorem skippable_of_members
    {value : Value} {members : List Member}
    (frame : Frame)
    (written :
      writeCompact value = frame.opening :: (writeMembers true members ++ [frame.closing]))
    (fits : ∀ member ∈ members, member.FitsIn frame) :
    Skippable value := by
  cases members with
  | nil =>
      refine ⟨1, by simp [written], ?_⟩
      intro rounds frames rest _
      rw [written, Nat.add_comm, writeMembers, List.nil_append, List.cons_append,
        List.singleton_append, skipRounds_opening]
      cases frame <;> rfl
  | cons member others =>
      obtain ⟨cost, atMost, skipped⟩ := skipRounds_members fits
      obtain ⟨led, ⟨c, behind, shape, visible, unclosed⟩, _⟩ := fits member List.mem_cons_self
      rw [writeMembers_first] at written
      refine ⟨cost + 1, ?_, ?_⟩
      · simp only [written, Member.write, List.length_append, List.length_cons] at atMost ⊢
        omega
      · intro rounds frames rest _
        have opened :
            skipOpening frame frames
                (member.write ++ (writeMembers false others ++ frame.closing :: rest)) =
              .ok (some (frame :: frames),
                member.write ++ (writeMembers false others ++ frame.closing :: rest)) := by
          rw [shape, List.cons_append, skipOpening, skipSpaces_cons visible]
          exact if_neg unclosed
        have text :
            writeCompact value ++ rest =
              frame.opening ::
                (member.write ++ (writeMembers false others ++ frame.closing :: rest)) := by
          simp [written]
        rw [text, Nat.add_right_comm, skipRounds_opening, opened, skipNext, Member.write,
          List.append_assoc, led]
        exact skipped rounds frames rest

theorem fitsIn_ofItem
    {item : Value}
    (integral : item.Integral)
    (skippable : Skippable item) :
    (Member.ofItem item).FitsIn .list := by
  obtain ⟨c, others, shape, begins⟩ := integral.begins
  refine ⟨fun _ _ => rfl, ⟨c, others, ?_, begins.visible, begins.unclosed⟩, skippable⟩
  rw [Member.write, Member.ofItem, List.nil_append, shape]

theorem fitsIn_ofField
    {field : String × Value}
    (skippable : Skippable field.2) :
    (Member.ofField field).FitsIn .object := by
  refine ⟨?_, ⟨'"', _, rfl, rfl, by decide⟩, skippable⟩
  intro outer rest
  rw [Member.ofField, List.append_assoc, List.singleton_append]
  exact skipKey_name field.1 rest

theorem Value.Integral.skippable
    {value : Value}
    (integral : value.Integral) :
    Skippable value := by
  induction integral with
  | null =>
      refine skippable_of_skipHead .null ?_
      intro rest _
      rw [writeCompact]
      rfl
  | bool value =>
      refine skippable_of_skipHead (.bool value) ?_
      intro rest _
      rw [writeCompact]
      cases value <;> rfl
  | integer value =>
      exact skippable_of_skipHead (.integer value) fun rest ends => skipHead_integer ends value
  | string text =>
      refine skippable_of_skipHead (.string text) ?_
      intro rest _
      rw [writeCompact, writeString_eq_cons, List.cons_append]
      simp [skipHead, skipString_behindQuote, Except.map]
  | @array items itemsIntegral inductionHypothesis =>
      apply skippable_of_members .list (writeCompact_array items)
      intro member isMember
      obtain ⟨item, isItem, rfl⟩ := List.mem_map.mp isMember
      exact fitsIn_ofItem (itemsIntegral item isItem) (inductionHypothesis item isItem)
  | @object fields _ inductionHypothesis =>
      apply skippable_of_members .object (writeCompact_object fields)
      intro member isMember
      obtain ⟨field, isField, rfl⟩ := List.mem_map.mp isMember
      exact fitsIn_ofField (inductionHypothesis field isField)

/-- Skipping a value takes all of it and nothing else. -/
theorem skipValue_compact
    {value : Value} {rest : List Char}
    (integral : value.Integral)
    (ends : EndsNumber rest) :
    skipValue (writeCompact value ++ rest) = .ok rest := by
  obtain ⟨cost, atMost, skipped⟩ := integral.skippable
  have enough :
      (writeCompact value ++ rest).length + 1 =
        cost + ((writeCompact value ++ rest).length + 1 - cost) := by
    rw [List.length_append]
    omega
  rw [skipValue, enough, skipped _ _ _ ends, skipRest_nil]

end ArchAudit.Json
