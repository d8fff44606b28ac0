import ArchAudit.Proofs.Decoding
import Mathlib.Algebra.Group.Nat.Defs

/-!
# Malformed bytes

Lossy decoding, stated without the decoder: bytes that encode a character stand for it, and where no
character is encoded one `U+FFFD` stands for the longest bytes that still begin a character, or for
a single byte if none does.  Every byte string has one lossy decoding, and the decoder computes it.
-/

namespace ArchAudit.Text.Utf8

/-! ## Lossy decoding -/

/-- Bytes with which the encoding of some character begins. -/
def Begins (bytes : List UInt8) : Prop :=
  ∃ c, bytes <+: String.utf8EncodeChar c

/-- The malformed bytes that count as one: no character is encoded where they stand, and they are
the longest bytes there that begin a character, or a single byte. -/
structure MaximalSubpart (subpart rest : List UInt8) : Prop where
  nonempty : subpart ≠ []
  undecodable : ∀ c, ¬ String.utf8EncodeChar c <+: subpart ++ rest
  single_or_begins : subpart.length = 1 ∨ Begins subpart
  maximal : ∀ bytes, bytes <+: subpart ++ rest → Begins bytes → bytes.length ≤ subpart.length

/-- The lossy decoding of a byte string. -/
inductive Lossy : List UInt8 → List Char → Prop
  | nil :
      Lossy [] []
  | character (c : Char) {rest : List UInt8} {text : List Char} :
      Lossy rest text →
      Lossy (String.utf8EncodeChar c ++ rest) (c :: text)
  | malformed {subpart rest : List UInt8} {text : List Char} :
      MaximalSubpart subpart rest →
      Lossy rest text →
      Lossy (subpart ++ rest) ('\uFFFD' :: text)

/-! ## There is one lossy decoding -/

theorem utf8EncodeChar_append_inj
    {first second : Char} {firstRest secondRest : List UInt8}
    (same :
      String.utf8EncodeChar first ++ firstRest = String.utf8EncodeChar second ++ secondRest) :
    first = second ∧ firstRest = secondRest := by
  have decodedSame := congrArg (run .idle) same
  rw [run_utf8EncodeChar, run_utf8EncodeChar] at decodedSame
  obtain rfl : first = second := Option.some.inj (List.cons.inj decodedSame).1
  exact ⟨rfl, List.append_cancel_left same⟩

theorem MaximalSubpart.length_le
    {first second firstRest secondRest : List UInt8}
    (same : first ++ firstRest = second ++ secondRest)
    (firstMaximal : MaximalSubpart first firstRest)
    (secondMaximal : MaximalSubpart second secondRest) :
    first.length ≤ second.length := by
  rcases firstMaximal.single_or_begins with single | begins
  · rw [single]
    exact List.length_pos_iff.mpr secondMaximal.nonempty
  · exact secondMaximal.maximal first (same ▸ List.prefix_append first firstRest) begins

theorem MaximalSubpart.unique
    {first second firstRest secondRest : List UInt8}
    (same : first ++ firstRest = second ++ secondRest)
    (firstMaximal : MaximalSubpart first firstRest)
    (secondMaximal : MaximalSubpart second secondRest) :
    first = second ∧ firstRest = secondRest := by
  apply List.append_inj same
  exact Nat.le_antisymm (firstMaximal.length_le same secondMaximal)
    (secondMaximal.length_le same.symm firstMaximal)

theorem utf8EncodeChar_ne_nil (c : Char) : String.utf8EncodeChar c ≠ [] := by
  intro empty
  have decoded := run_utf8EncodeChar c []
  rw [empty] at decoded
  exact absurd decoded (by simp [run, flush])

theorem Lossy.unique
    {bytes : List UInt8} {first second : List Char}
    (firstLossy : Lossy bytes first)
    (secondLossy : Lossy bytes second) :
    first = second := by
  induction firstLossy generalizing second with
  | nil =>
      generalize empty : ([] : List UInt8) = bytes at secondLossy
      cases secondLossy with
      | nil => rfl
      | character c _ =>
          exact absurd empty.symm (List.append_ne_nil_of_left_ne_nil (utf8EncodeChar_ne_nil c) _)
      | malformed maximal _ =>
          exact absurd empty.symm (List.append_ne_nil_of_left_ne_nil maximal.nonempty _)
  | @character c rest text _ inductionHypothesis =>
      generalize same : String.utf8EncodeChar c ++ rest = bytes at secondLossy
      cases secondLossy with
      | nil =>
          exact absurd same (List.append_ne_nil_of_left_ne_nil (utf8EncodeChar_ne_nil c) rest)
      | character other otherLossy =>
          obtain ⟨rfl, rfl⟩ := utf8EncodeChar_append_inj same
          rw [inductionHypothesis otherLossy]
      | malformed maximal _ =>
          exact absurd (same ▸ List.prefix_append _ rest) (maximal.undecodable c)
  | @malformed subpart rest text maximal _ inductionHypothesis =>
      generalize same : subpart ++ rest = bytes at secondLossy
      cases secondLossy with
      | nil => exact absurd same (List.append_ne_nil_of_left_ne_nil maximal.nonempty rest)
      | character c _ =>
          exact absurd (same ▸ List.prefix_append _ _) (maximal.undecodable c)
      | malformed otherMaximal otherLossy =>
          obtain ⟨rfl, rfl⟩ := maximal.unique same otherMaximal
          rw [inductionHypothesis otherLossy]

/-! ## Bytes that the decoder refuses -/

theorem not_prefix_of_head?_run
    {bytes : List UInt8}
    (refused : (run .idle bytes).head? = some none)
    (c : Char) :
    ¬ String.utf8EncodeChar c <+: bytes := by
  rintro ⟨rest, rfl⟩
  rw [run_utf8EncodeChar] at refused
  exact absurd refused (by simp)

/-- Bytes do not begin a character if the decoder refuses them whatever follows. -/
theorem not_begins_of_head?_run
    {bytes : List UInt8}
    (refused : ∀ rest, (run .idle (bytes ++ rest)).head? = some none) :
    ¬ Begins bytes := by
  rintro ⟨c, rest, encoded⟩
  exact not_prefix_of_head?_run (refused rest) c (encoded ▸ List.prefix_rfl)

/-- Bytes are a maximal malformed part if the decoder refuses them, and refuses them together with
the next byte whatever follows. -/
theorem MaximalSubpart.of_head?_run
    {subpart rest : List UInt8}
    (nonempty : subpart ≠ [])
    (single_or_begins : subpart.length = 1 ∨ Begins subpart)
    (refused : (run .idle (subpart ++ rest)).head? = some none)
    (nextRefused :
      ∀ next tail, rest = next :: tail →
        ∀ others, (run .idle (subpart ++ next :: others)).head? = some none) :
    MaximalSubpart subpart rest := by
  refine ⟨nonempty, not_prefix_of_head?_run refused, single_or_begins, ?_⟩
  intro bytes front begins
  cases rest with
  | nil =>
      rw [List.append_nil] at front
      exact front.length_le
  | cons next tail =>
      rcases Nat.lt_or_ge subpart.length bytes.length with longer | notLonger
      · have nextFront : subpart ++ [next] <+: subpart ++ next :: tail := by
          simp
        have nextLength : (subpart ++ [next]).length ≤ bytes.length := by
          rw [List.length_append, List.length_singleton]
          exact longer
        have nextBegins : Begins (subpart ++ [next]) := by
          obtain ⟨c, bytesFront⟩ := begins
          exact ⟨c, (List.prefix_of_prefix_length_le nextFront front nextLength).trans bytesFront⟩
        refine absurd nextBegins (not_begins_of_head?_run ?_)
        intro others
        rw [List.append_assoc]
        exact nextRefused next tail rfl others
      · exact notLonger

/-! ## Encoding by code -/

/-- The last `count` bytes of a character, from its code. -/
def trail (code : Nat) : Nat → List UInt8
  | 0 => []
  | count + 1 => UInt8.ofNat (code / 64 ^ count % 64 + 0x80) :: trail code count

theorem utf8EncodeChar_one
    {code : Nat}
    (ascii : code < 0x80) :
    String.utf8EncodeChar (Char.ofNat code) = [UInt8.ofNat code] := by
  have valid : code.isValidChar := by
    simp only [Nat.isValidChar]
    omega
  dsimp only [String.utf8EncodeChar]
  rw [toNat_ofNat_of_isValidChar valid, if_pos (by omega)]

theorem utf8EncodeChar_two
    {code : Nat}
    (lower : 0x80 ≤ code)
    (upper : code < 0x800) :
    String.utf8EncodeChar (Char.ofNat code) = UInt8.ofNat (code / 64 + 0xC0) :: trail code 1 := by
  have valid : code.isValidChar := by
    simp only [Nat.isValidChar]
    omega
  dsimp only [String.utf8EncodeChar]
  rw [toNat_ofNat_of_isValidChar valid, if_neg (by omega), if_pos (by omega),
    Nat.mod_eq_of_lt (by omega : code / 64 < 0x20)]
  simp [trail]

theorem utf8EncodeChar_three
    {code : Nat}
    (lower : 0x800 ≤ code)
    (upper : code < 0x10000)
    (valid : code.isValidChar) :
    String.utf8EncodeChar (Char.ofNat code) =
      UInt8.ofNat (code / 64 ^ 2 + 0xE0) :: trail code 2 := by
  dsimp only [String.utf8EncodeChar]
  rw [toNat_ofNat_of_isValidChar valid, if_neg (by omega), if_neg (by omega), if_pos (by omega),
    Nat.mod_eq_of_lt (by omega : code / 4096 < 0x10)]
  simp [trail]

theorem utf8EncodeChar_four
    {code : Nat}
    (lower : 0x10000 ≤ code)
    (valid : code.isValidChar) :
    String.utf8EncodeChar (Char.ofNat code) =
      UInt8.ofNat (code / 64 ^ 3 + 0xF0) :: trail code 3 := by
  have upper : code < 0x110000 := by
    simp only [Nat.isValidChar] at valid
    omega
  dsimp only [String.utf8EncodeChar]
  rw [toNat_ofNat_of_isValidChar valid, if_neg (by omega), if_neg (by omega), if_neg (by omega),
    Nat.mod_eq_of_lt (by omega : code / 262144 < 0x08)]
  simp [trail]

/-- The bits of a code in front of its last bytes are those in front of one byte more and those of
that byte. -/
theorem leading_split
    {code count bits byte : Nat}
    (lower : 0x80 ≤ byte)
    (upper : byte ≤ 0xBF)
    (leading : code / 64 ^ count = bits * 64 + (byte - 0x80)) :
    code / 64 ^ (count + 1) = bits ∧ code / 64 ^ count % 64 + 0x80 = byte := by
  rw [Nat.pow_succ, ← Nat.div_div_eq_div_mul, leading]
  omega

/-! ## Bytes inside a character -/

/-- What the decoder knows of the bytes that it has read since its last item, with `count` bytes
due after the next one: a next byte within the bounds continues the encoding of every character
whose code has the bits read by then. -/
structure Continues (seen : List UInt8) (bits count low high : Nat) : Prop where
  nonempty : seen ≠ []
  ordered : low ≤ high
  resumes : ∀ rest, run .idle (seen ++ rest) = run (.within bits (count + 1) low high) rest
  encodes :
    ∀ byte code, low ≤ byte → byte ≤ high → code / 64 ^ count = bits * 64 + (byte - 0x80) →
      String.utf8EncodeChar (Char.ofNat code) = seen ++ UInt8.ofNat byte :: trail code count

theorem Continues.begins
    {seen : List UInt8} {bits count low high : Nat}
    (continues : Continues seen bits count low high) :
    Begins seen := by
  let code := (bits * 64 + (low - 0x80)) * 64 ^ count
  have leading : code / 64 ^ count = bits * 64 + (low - 0x80) :=
    Nat.mul_div_cancel _ (Nat.pow_pos (by decide))
  refine ⟨Char.ofNat code, ?_⟩
  rw [continues.encodes low code (Nat.le_refl low) continues.ordered leading]
  exact List.prefix_append seen _

theorem Continues.last
    {seen : List UInt8} {bits low high : Nat} {byte : UInt8}
    (continues : Continues seen bits 0 low high)
    (inside : low ≤ byte.toNat ∧ byte.toNat ≤ high) :
    String.utf8EncodeChar (Char.ofNat (bits * 64 + (byte.toNat - 0x80))) = seen ++ [byte] := by
  rw [continues.encodes byte.toNat _ inside.1 inside.2 (Nat.div_one _), UInt8.ofNat_toNat]
  rfl

theorem Continues.more
    {seen : List UInt8} {bits count low high : Nat} {byte : UInt8}
    (continues : Continues seen bits (count + 1) low high)
    (inside : low ≤ byte.toNat ∧ byte.toNat ≤ high) :
    Continues (seen ++ [byte]) (bits * 64 + (byte.toNat - 0x80)) count 0x80 0xBF where
  nonempty := List.append_ne_nil_of_right_ne_nil seen (List.cons_ne_nil byte [])
  ordered := by decide
  resumes := by
    intro rest
    rw [List.append_assoc, continues.resumes, List.singleton_append, run,
      step_more inside (by omega)]
    rfl
  encodes := by
    intro next code lower upper leading
    obtain ⟨quotient, remainder⟩ := leading_split lower upper leading
    rw [continues.encodes byte.toNat code inside.1 inside.2 quotient, trail, remainder,
      UInt8.ofNat_toNat, List.append_assoc, List.singleton_append]

/-- The first byte of a character of several bytes, which holds the bits above `base`. -/
theorem continues_of_start
    {byte : UInt8} {base count low high : Nat}
    (begun : start byte.toNat = ([], .within (byte.toNat - base) (count + 1) low high))
    (baseBound : base ≤ byte.toNat)
    (lowBound : 0x80 ≤ low)
    (ordered : low ≤ high)
    (highBound : high ≤ 0xBF)
    (encoded :
      ∀ next code, low ≤ next → next ≤ high →
        code / 64 ^ count = (byte.toNat - base) * 64 + (next - 0x80) →
          String.utf8EncodeChar (Char.ofNat code) =
            UInt8.ofNat (code / 64 ^ (count + 1) + base) :: trail code (count + 1)) :
    Continues [byte] (byte.toNat - base) count low high where
  nonempty := List.cons_ne_nil byte []
  ordered := ordered
  resumes := by
    intro rest
    rw [List.singleton_append, run, step, begun]
    rfl
  encodes := by
    intro next code lower upper leading
    obtain ⟨quotient, remainder⟩ :=
      leading_split (Nat.le_trans lowBound lower) (Nat.le_trans upper highBound) leading
    rw [encoded next code lower upper leading, quotient, Nat.sub_add_cancel baseBound, trail,
      remainder, UInt8.ofNat_toNat]
    rfl

theorem continues_two
    {byte : UInt8}
    (lower : 0xC2 ≤ byte.toNat)
    (upper : byte.toNat < 0xE0) :
    Continues [byte] (byte.toNat - 0xC0) 0 0x80 0xBF := by
  refine continues_of_start (start_two lower upper) (by omega) (by omega) (by omega) (by omega) ?_
  intro next code nextLower nextUpper leading
  rw [Nat.pow_zero, Nat.div_one] at leading
  exact utf8EncodeChar_two (by omega) (by omega)

theorem continues_three
    {byte : UInt8}
    (lower : 0xE0 ≤ byte.toNat)
    (upper : byte.toNat < 0xF0) :
    Continues [byte] (byte.toNat - 0xE0) 1 (if byte.toNat = 0xE0 then 0xA0 else 0x80)
      (if byte.toNat = 0xED then 0x9F else 0xBF) := by
  refine continues_of_start (start_three lower upper) lower ?_ ?_ ?_ ?_
  · split <;> omega
  · split <;> split <;> omega
  · split <;> omega
  · intro next code nextLower nextUpper leading
    have smallest : 0x800 ≤ code := by
      split at nextLower <;> omega
    have largest : code < 0x10000 := by
      split at nextUpper <;> omega
    have valid : code.isValidChar := by
      simp only [Nat.isValidChar]
      split at nextUpper <;> omega
    exact utf8EncodeChar_three smallest largest valid

theorem continues_four
    {byte : UInt8}
    (lower : 0xF0 ≤ byte.toNat)
    (upper : byte.toNat ≤ 0xF4) :
    Continues [byte] (byte.toNat - 0xF0) 2 (if byte.toNat = 0xF0 then 0x90 else 0x80)
      (if byte.toNat = 0xF4 then 0x8F else 0xBF) := by
  refine continues_of_start (start_four lower upper) lower ?_ ?_ ?_ ?_
  · split <;> omega
  · split <;> split <;> omega
  · split <;> omega
  · intro next code nextLower nextUpper leading
    have smallest : 0x10000 ≤ code := by
      split at nextLower <;> omega
    have valid : code.isValidChar := by
      simp only [Nat.isValidChar]
      split at nextUpper <;> omega
    exact utf8EncodeChar_four smallest valid

/-! ## The decoder decodes lossily -/

/-- The bytes that the decoder has read since its last item. -/
inductive Reads : List UInt8 → Pending → Prop
  | idle :
      Reads [] .idle
  | within {seen : List UInt8} {bits count low high : Nat} :
      Continues seen bits count low high →
      Reads seen (.within bits (count + 1) low high)

/-- What the first byte of a character stands for. -/
theorem reads_start (byte : UInt8) :
    (start byte.toNat = ([some (Char.ofNat byte.toNat)], .idle) ∧
        String.utf8EncodeChar (Char.ofNat byte.toNat) = [byte]) ∨
      start byte.toNat = ([none], .idle) ∨
      ∃ pending, start byte.toNat = ([], pending) ∧ Reads [byte] pending := by
  by_cases ascii : byte.toNat < 0x80
  · refine .inl ⟨start_ascii ascii, ?_⟩
    rw [utf8EncodeChar_one ascii, UInt8.ofNat_toNat]
  by_cases early : byte.toNat < 0xC2
  · exact .inr (.inl (start_malformed (.inl ⟨by omega, early⟩)))
  by_cases two : byte.toNat < 0xE0
  · exact .inr (.inr ⟨_, start_two (by omega) two, .within (continues_two (by omega) two)⟩)
  by_cases three : byte.toNat < 0xF0
  · exact .inr (.inr ⟨_, start_three (by omega) three, .within (continues_three (by omega) three)⟩)
  by_cases four : byte.toNat ≤ 0xF4
  · exact .inr (.inr ⟨_, start_four (by omega) four, .within (continues_four (by omega) four)⟩)
  · exact .inr (.inl (start_malformed (.inr (by omega))))

theorem run_outside
    {bits due low high : Nat} {byte : UInt8}
    (outside : ¬ (low ≤ byte.toNat ∧ byte.toNat ≤ high))
    (rest : List UInt8) :
    run (.within bits due low high) (byte :: rest) = none :: run .idle (byte :: rest) := by
  rw [run, step_outside outside]
  rfl

theorem run_start_malformed
    {byte : UInt8}
    (malformed : start byte.toNat = ([none], .idle))
    (rest : List UInt8) :
    run .idle (byte :: rest) = none :: run .idle rest := by
  rw [run, step, malformed]
  rfl

theorem maximalSubpart_single
    {byte : UInt8}
    (malformed : start byte.toNat = ([none], .idle))
    (rest : List UInt8) :
    MaximalSubpart [byte] rest := by
  refine .of_head?_run (List.cons_ne_nil byte []) (.inl rfl) ?_ ?_
  · rw [List.singleton_append, run_start_malformed malformed, List.head?_cons]
  · intro next tail _ others
    rw [List.singleton_append, run_start_malformed malformed, List.head?_cons]

/-- Where the input ends inside a character. -/
theorem Continues.maximalSubpart_nil
    {seen : List UInt8} {bits count low high : Nat}
    (continues : Continues seen bits count low high) :
    MaximalSubpart seen [] := by
  refine .of_head?_run continues.nonempty (.inr continues.begins) ?_ ?_
  · rw [continues.resumes]
    rfl
  · rintro next tail ⟨⟩

theorem Continues.maximalSubpart_cons
    {seen : List UInt8} {bits count low high : Nat} {byte : UInt8}
    (continues : Continues seen bits count low high)
    (outside : ¬ (low ≤ byte.toNat ∧ byte.toNat ≤ high))
    (rest : List UInt8) :
    MaximalSubpart seen (byte :: rest) := by
  refine .of_head?_run continues.nonempty (.inr continues.begins) ?_ ?_
  · rw [continues.resumes, run_outside outside, List.head?_cons]
  · rintro next tail ⟨⟩ others
    rw [continues.resumes, run_outside outside, List.head?_cons]

/-- The characters of decoded items. -/
def itemText (decoded : List Item) : List Char :=
  decoded.map fun item => item.getD '\uFFFD'

theorem itemText_some (c : Char) (others : List Item) :
    itemText (some c :: others) = c :: itemText others := rfl

/-- One byte read between two characters. -/
theorem lossy_start
    {byte : UInt8} {rest : List UInt8}
    (restLossy : ∀ {seen pending}, Reads seen pending →
      Lossy (seen ++ rest) (itemText (run pending rest))) :
    Lossy (byte :: rest) (itemText (run .idle (byte :: rest))) := by
  rcases reads_start byte with ⟨ascii, encoded⟩ | malformed | ⟨pending, begun, reads⟩
  · have lossy := Lossy.character (Char.ofNat byte.toNat) (restLossy .idle)
    rw [encoded] at lossy
    rw [run, step, ascii, List.singleton_append, itemText_some]
    exact lossy
  · rw [run_start_malformed malformed]
    exact .malformed (maximalSubpart_single malformed rest) (restLossy .idle)
  · rw [run, step, begun]
    exact restLossy reads

theorem lossy_run
    {seen : List UInt8} {pending : Pending}
    (reads : Reads seen pending)
    (rest : List UInt8) :
    Lossy (seen ++ rest) (itemText (run pending rest)) := by
  induction rest generalizing seen pending with
  | nil =>
      cases reads with
      | idle => exact .nil
      | within continues => exact .malformed continues.maximalSubpart_nil .nil
  | cons byte rest inductionHypothesis =>
      cases reads with
      | idle => exact lossy_start inductionHypothesis
      | @within _ bits count low high continues =>
          by_cases inside : low ≤ byte.toNat ∧ byte.toNat ≤ high
          · cases count with
            | zero =>
                have lossy := Lossy.character (Char.ofNat (bits * 64 + (byte.toNat - 0x80)))
                  (inductionHypothesis .idle)
                rw [continues.last inside, List.append_assoc] at lossy
                rw [run, step_last inside (Nat.le_refl 1), List.singleton_append, itemText_some]
                exact lossy
            | succ count =>
                have lossy := inductionHypothesis (.within (continues.more inside))
                rw [List.append_assoc] at lossy
                rw [run, step_more inside (by omega)]
                exact lossy
          · rw [run_outside inside]
            exact .malformed (continues.maximalSubpart_cons inside rest)
              (lossy_start inductionHypothesis)

/-- The decoder gives the lossy decoding of every byte string, and nothing else is one. -/
theorem lossy_iff_decodeLossy (bytes : List UInt8) (text : List Char) :
    Lossy bytes text ↔ text = decodeLossy bytes := by
  have decoded : Lossy bytes (decodeLossy bytes) := lossy_run .idle bytes
  constructor
  · intro lossy
    exact lossy.unique decoded
  · rintro rfl
    exact decoded

example : decodeLossy [0xE2, 0x82, 0x41, 0xFF] = ['\uFFFD', 'A', '\uFFFD'] := by decide

end ArchAudit.Text.Utf8
