import ArchAudit.Json.Printer
import ArchAudit.Json.Reader
import Mathlib.Data.List.Basic
import Mathlib.Tactic.SplitIfs

/-!
# Parts of a written JSON text

Blanks, strings and integers as the printer writes them, met by the readers.  Each part is read back
from the front of a text and leaves the rest untouched.  A string knows where it ends; an integer
does not, and is read back if what follows cannot be taken for a part of it.
-/

namespace ArchAudit.Json

/-! ## Blanks -/

theorem skipSpaces_cons
    {c : Char}
    (visible : isSpace c = false)
    (rest : List Char) :
    skipSpaces (c :: rest) = c :: rest :=
  List.dropWhile_cons_of_neg (by simp [visible])

theorem skipSpaces_blank (rest : List Char) :
    skipSpaces (' ' :: rest) = skipSpaces rest := rfl

theorem skipSpaces_newline (level : Nat) (rest : List Char) :
    skipSpaces (newline level ++ rest) = skipSpaces rest := by
  apply List.dropWhile_append_of_pos
  intro c member
  rcases List.mem_cons.mp member with rfl | blank
  · rfl
  · rw [List.eq_of_mem_replicate blank]
    rfl

/-- What the indentation leads up to. -/
theorem skipSpaces_newline_cons
    {c : Char}
    (visible : isSpace c = false)
    (level : Nat) (rest : List Char) :
    skipSpaces (newline level ++ c :: rest) = c :: rest := by
  rw [skipSpaces_newline, skipSpaces_cons visible]

@[simp]
theorem length_newline (level : Nat) :
    (newline level).length = 2 * level + 1 := by
  simp [newline]

/-! ## Strings -/

/-- The three ways in which a character stands inside a string. -/
inductive Escaped (c : Char) : List Char → Prop
  | plain :
      c ≠ '"' →
      c ≠ '\\' →
      0x20 ≤ c.toNat →
      Escaped c [c]
  | short {letter : Char} :
      shortEscape? letter = some c →
      Escaped c ['\\', letter]
  | control {first second : Char} :
      c.toNat < 0x20 →
      hexQuad? '0' '0' first second = some c.toNat →
      Escaped c ['\\', 'u', '0', '0', first, second]

theorem hexQuad?_control
    {code : Nat}
    (control : code < 0x20) :
    hexQuad? '0' '0' (hexDigit (code / 16)) (hexDigit code) = some code := by
  revert code
  decide

theorem escapedChar_escaped (c : Char) :
    Escaped c (escapedChar c) := by
  unfold escapedChar
  split_ifs with isQuote isBackslash isBackspace isFormFeed isNewline isReturn isTab isControl
  · exact .short (by rw [isQuote]; rfl)
  · exact .short (by rw [isBackslash]; rfl)
  · exact .short (by rw [isBackspace]; rfl)
  · exact .short (by rw [isFormFeed]; rfl)
  · exact .short (by rw [isNewline]; rfl)
  · exact .short (by rw [isReturn]; rfl)
  · exact .short (by rw [isTab]; rfl)
  · exact .control isControl (hexQuad?_control isControl)
  · exact .plain isQuote isBackslash (Nat.not_lt.mp isControl)

theorem readString_quote (read rest : List Char) :
    readString read ('"' :: rest) = .ok (String.ofList read.reverse, rest) := by
  rw [readString.eq_def]
  simp only [if_true]

theorem readString_plain
    {c : Char}
    (notQuote : c ≠ '"')
    (notBackslash : c ≠ '\\')
    (notControl : 0x20 ≤ c.toNat)
    (read rest : List Char) :
    readString read (c :: rest) = readString (c :: read) rest := by
  rw [readString.eq_def]
  simp only [if_neg notQuote, if_neg notBackslash, if_neg (Nat.not_lt.mpr notControl)]

theorem readString_short
    {letter c : Char}
    (known : shortEscape? letter = some c)
    (read rest : List Char) :
    readString read ('\\' :: letter :: rest) = readString (c :: read) rest := by
  rw [readString.eq_def]
  simp only [known, Char.reduceEq, if_false, if_true]

theorem readString_unit
    {a b c d : Char} {unit : Nat}
    (known : hexQuad? a b c d = some unit)
    (belowSurrogates : unit < 0xD800)
    (read rest : List Char) :
    readString read ('\\' :: 'u' :: a :: b :: c :: d :: rest) =
      readString (Char.ofNat unit :: read) rest := by
  have notTrail : isTrailSurrogate unit = false := by
    simp only [isTrailSurrogate, Bool.and_eq_false_iff, decide_eq_false_iff_not]
    omega
  have notLead : isLeadSurrogate unit = false := by
    simp only [isLeadSurrogate, Bool.and_eq_false_iff, decide_eq_false_iff_not]
    omega
  have noShortEscape : shortEscape? 'u' = none := rfl
  rw [readString.eq_def]
  simp [known, notTrail, notLead, noShortEscape]

/-- However a character is escaped, it is read as itself. -/
theorem Escaped.readString_append
    {c : Char} {written : List Char}
    (escaped : Escaped c written)
    (read rest : List Char) :
    readString read (written ++ rest) = readString (c :: read) rest := by
  cases escaped with
  | plain notQuote notBackslash notControl =>
      exact readString_plain notQuote notBackslash notControl read rest
  | short known => exact readString_short known read rest
  | control isControl known =>
      have decoded := readString_unit known (Nat.lt_trans isControl (by decide)) read rest
      rwa [Char.ofNat_toNat] at decoded

theorem readString_flatMap_escapedChar (read text rest : List Char) :
    readString read (text.flatMap escapedChar ++ '"' :: rest) =
      .ok (String.ofList (read.reverse ++ text), rest) := by
  induction text generalizing read with
  | nil => rw [List.flatMap_nil, List.nil_append, readString_quote, List.append_nil]
  | cons c others inductionHypothesis =>
      rw [List.flatMap_cons, List.append_assoc, (escapedChar_escaped c).readString_append,
        inductionHypothesis, List.reverse_cons, List.append_assoc, List.singleton_append]

/-- A written string behind its opening quote. -/
def behindQuote (text : String) : List Char :=
  text.toList.flatMap escapedChar ++ ['"']

theorem writeString_eq_cons (text : String) :
    writeString text = '"' :: behindQuote text := rfl

theorem readString_behindQuote (text : String) (rest : List Char) :
    readString [] (behindQuote text ++ rest) = .ok (text, rest) := by
  rw [behindQuote, List.append_assoc, List.singleton_append, readString_flatMap_escapedChar,
    List.reverse_nil, List.nil_append, String.ofList_toList]

/-! ## Integers -/

/-- Whether a text cannot be taken for more of a number in front of it. -/
def EndsNumber (rest : List Char) : Prop :=
  ∀ c ∈ rest.head?, c.isDigit = false ∧ c ≠ '.' ∧ c ≠ 'e' ∧ c ≠ 'E'

theorem endsNumber_nil : EndsNumber [] := by
  intro c member
  exact nomatch member

theorem endsNumber_comma (rest : List Char) :
    EndsNumber (',' :: rest) := by
  intro c member
  cases member
  decide

theorem endsNumber_newline (level : Nat) (rest : List Char) :
    EndsNumber (newline level ++ rest) := by
  intro c member
  cases member
  decide

theorem ne_of_isDigit
    {c : Char}
    (digit : c.isDigit = true)
    (other : Char)
    (notDigit : other.isDigit = false) :
    c ≠ other := by
  rintro rfl
  exact nomatch notDigit.symm.trans digit

theorem isSpace_of_isDigit
    {c : Char}
    (digit : c.isDigit = true) :
    isSpace c = false := by
  have differs := ne_of_isDigit digit
  simp [isSpace, differs ' ' rfl, differs '\n' rfl, differs '\t' rfl, differs '\r' rfl]

theorem isDigit_of_mem_toDigits
    {number : Nat} {c : Char}
    (member : c ∈ Nat.toDigits 10 number) :
    c.isDigit = true :=
  Nat.isDigit_of_mem_toDigits (by decide) (by decide) member

theorem toDigits_eq_cons (number : Nat) :
    ∃ c others, Nat.toDigits 10 number = c :: others ∧ c.isDigit = true := by
  cases shape : Nat.toDigits 10 number with
  | nil => exact absurd shape Nat.toDigits_ne_nil
  | cons c others =>
      have member : c ∈ Nat.toDigits 10 number := by
        rw [shape]
        exact List.mem_cons_self
      exact ⟨c, others, rfl, isDigit_of_mem_toDigits member⟩

/-- Only zero is written with a zero in front. -/
theorem head?_toDigits_ne_zero
    {number : Nat}
    (positive : 0 < number) :
    (Nat.toDigits 10 number).head? ≠ some '0' := by
  induction number using Nat.strongRecOn with
  | ind number inductionHypothesis =>
      by_cases single : number < 10
      · rw [Nat.toDigits_of_lt_base single]
        intro startsWithZero
        have isZero := Nat.digitChar_eq_zero.mp (Option.some.inj startsWithZero)
        omega
      · rw [Nat.toDigits_of_base_le (by decide) (Nat.not_lt.mp single),
          List.head?_append_of_ne_nil _ Nat.toDigits_ne_nil]
        exact inductionHypothesis (number / 10) (by omega) (by omega)

theorem spanDigits_append
    {digits rest : List Char}
    (allDigits : ∀ c ∈ digits, c.isDigit = true)
    (ends : EndsNumber rest) :
    spanDigits (digits ++ rest) = (digits, rest) := by
  have restSplit : rest.takeWhile Char.isDigit = [] ∧ rest.dropWhile Char.isDigit = rest := by
    cases rest with
    | nil => exact ⟨rfl, rfl⟩
    | cons c others => simp [(ends c rfl).1]
  rw [spanDigits, List.takeWhile_append_of_pos allDigits, List.dropWhile_append_of_pos allDigits,
    restSplit.1, restSplit.2, List.append_nil]

theorem readWholeDigits_toDigits
    {rest : List Char}
    (ends : EndsNumber rest)
    (atEnd : Reason) (number : Nat) :
    readWholeDigits atEnd (Nat.toDigits 10 number ++ rest) =
      .ok (Nat.toDigits 10 number, rest) := by
  rcases Nat.eq_zero_or_pos number with rfl | positive
  · rw [Nat.toDigits_zero, List.singleton_append, readWholeDigits.eq_def]
    cases rest with
    | nil => rfl
    | cons c others => simp [(ends c rfl).1]
  · have allDigits : ∀ c ∈ Nat.toDigits 10 number, c.isDigit = true :=
      fun _ => isDigit_of_mem_toDigits
    have noZero := head?_toDigits_ne_zero positive
    obtain ⟨c, others, shape, digit⟩ := toDigits_eq_cons number
    rw [shape] at allDigits noZero ⊢
    have notZero : c ≠ '0' := fun isZero => noZero (congrArg some isZero)
    have othersDigits := (List.forall_mem_cons.mp allDigits).2
    rw [List.cons_append, readWholeDigits.eq_def]
    simp only [if_neg notZero, if_pos digit, spanDigits_append othersDigits ends]

theorem readFractionPart_of_endsNumber
    {rest : List Char}
    (ends : EndsNumber rest)
    (atEnd : Reason) :
    readFractionPart atEnd rest = .ok (none, rest) := by
  unfold readFractionPart
  split
  · next text => exact absurd rfl (ends '.' rfl).2.1
  · rfl

theorem readExponentPart_of_endsNumber
    {rest : List Char}
    (ends : EndsNumber rest)
    (atEnd : Reason) :
    readExponentPart atEnd rest = .ok (none, rest) := by
  cases rest with
  | nil => rfl
  | cons c others =>
      obtain ⟨_, _, notLower, notUpper⟩ := ends c rfl
      simp [readExponentPart, notLower, notUpper]

theorem readNumeral_toDigits
    {rest : List Char}
    (ends : EndsNumber rest)
    (atEnd : Reason) (number : Nat) :
    readNumeral atEnd (Nat.toDigits 10 number ++ rest) =
      .ok (⟨Nat.toDigits 10 number, none, none⟩, rest) := by
  simp only [readNumeral, readWholeDigits_toDigits ends, readFractionPart_of_endsNumber ends,
    readExponentPart_of_endsNumber ends]

namespace Scientific

theorem le_ofDigitChars (digits : List Char) (start : Nat) :
    start ≤ Nat.ofDigitChars 10 digits start := by
  induction digits generalizing start with
  | nil => exact Nat.le_refl start
  | cons c rest inductionHypothesis =>
      rw [Nat.ofDigitChars_cons]
      have later := inductionHypothesis (10 * start + (c.toNat - '0'.toNat))
      omega

/-- As long as the whole number fits, none of its digits is dropped. -/
theorem readWhole_of_le_limit
    {digits : List Char} {start : Nat}
    (fits : Nat.ofDigitChars 10 digits start ≤ limit)
    (exponent : Int) :
    readWhole ⟨start, exponent⟩ digits = ⟨Nat.ofDigitChars 10 digits start, exponent⟩ := by
  induction digits generalizing start with
  | nil => rfl
  | cons c rest inductionHypothesis =>
      rw [Nat.ofDigitChars_cons, Nat.mul_comm 10 start] at fits ⊢
      have stepFits : start * 10 + digit c ≤ limit :=
        Nat.le_trans (le_ofDigitChars rest _) fits
      rw [readWhole, if_pos stepFits]
      exact inductionHypothesis fits

theorem readWhole_toDigits
    {number : Nat}
    (fits : number ≤ limit) :
    readWhole ⟨0, 0⟩ (Nat.toDigits 10 number) = ⟨number, 0⟩ := by
  have value : Nat.ofDigitChars 10 (Nat.toDigits 10 number) 0 = number :=
    Nat.ofDigitChars_ten_toDigits
  rw [readWhole_of_le_limit (by rwa [value]), value]

end Scientific

theorem readNumber_toDigits
    {rest : List Char} {number : Nat}
    (ends : EndsNumber rest)
    (fits : number ≤ 0xFFFFFFFFFFFFFFFF) :
    readNumber false (Nat.toDigits 10 number ++ rest) = .ok (.integer number, rest) := by
  simp [readNumber, readNumeral_toDigits ends, Numeral.toNumber?,
    Scientific.readWhole_toDigits fits]

theorem readNumber_toDigits_of_negative
    {rest : List Char} {number : Nat}
    (ends : EndsNumber rest)
    (positive : 0 < number)
    (fits : number ≤ 0x8000000000000000) :
    readNumber true (Nat.toDigits 10 number ++ rest) = .ok (.integer (-(number : Int)), rest) := by
  have fitsWhole : number ≤ Scientific.limit := Nat.le_trans fits (by decide)
  simp [readNumber, readNumeral_toDigits ends, Numeral.toNumber?,
    Scientific.readWhole_toDigits fitsWhole, positive, fits]

end ArchAudit.Json
