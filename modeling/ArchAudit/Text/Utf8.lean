/-!
# UTF-8

Decoding of arbitrary bytes, one byte at a time.  A pending state holds the bits of a character
that has begun and the bounds that its next byte has to meet; a byte outside these bounds closes
the malformed sequence and is then read afresh.  Every maximal malformed sequence therefore counts
once, and a byte below `0x80` always stands for itself.
-/

namespace ArchAudit.Text

namespace Utf8

/-- What the decoder holds between two bytes. -/
inductive Pending where
  /-- Between two characters. -/
  | idle
  /-- Inside a character: the bits so far, the number of bytes still due, and the bounds of the
  next one. -/
  | within (bits due low high : Nat)
deriving DecidableEq, Repr

/-- A decoded item: a character, or `none` for a malformed sequence. -/
abbrev Item := Option Char

/-- The state after a byte that begins a character, with the items it completes. -/
def start (byte : Nat) : List Item × Pending :=
  if byte < 0x80 then ([some (Char.ofNat byte)], .idle)
  else if byte < 0xC2 then ([none], .idle)
  else if byte < 0xE0 then ([], .within (byte - 0xC0) 1 0x80 0xBF)
  else if byte = 0xE0 then ([], .within 0 2 0xA0 0xBF)
  else if byte = 0xED then ([], .within 0xD 2 0x80 0x9F)
  else if byte < 0xF0 then ([], .within (byte - 0xE0) 2 0x80 0xBF)
  else if byte = 0xF0 then ([], .within 0 3 0x90 0xBF)
  else if byte < 0xF4 then ([], .within (byte - 0xF0) 3 0x80 0xBF)
  else if byte = 0xF4 then ([], .within 4 3 0x80 0x8F)
  else ([none], .idle)

/-- Reads one byte: the items it completes and the state after it. -/
def step : Pending → UInt8 → List Item × Pending
  | .idle, byte => start byte.toNat
  | .within bits due low high, byte =>
    if low ≤ byte.toNat ∧ byte.toNat ≤ high then
      let bits := bits * 64 + (byte.toNat - 0x80)
      if due ≤ 1 then ([some (Char.ofNat bits)], .idle)
      else ([], .within bits (due - 1) 0x80 0xBF)
    else
      (none :: (start byte.toNat).1, (start byte.toNat).2)

/-- The items that the end of the input completes. -/
def flush : Pending → List Item
  | .idle => []
  | .within .. => [none]

/-- Decodes bytes from a given state to the end of the input. -/
def run : Pending → List UInt8 → List Item
  | pending, [] => flush pending
  | pending, byte :: rest => (step pending byte).1 ++ run (step pending byte).2 rest

/-- The items of a byte string. -/
def items (bytes : List UInt8) : List Item :=
  run .idle bytes

/-- Decodes a byte string, with `U+FFFD` for every maximal malformed sequence. -/
def decodeLossy (bytes : List UInt8) : List Char :=
  (items bytes).map fun item => item.getD '\uFFFD'

/-- Whether a byte string is well formed. -/
def isWellFormed (bytes : List UInt8) : Bool :=
  (items bytes).all Option.isSome

/-- Decodes a byte string that is well formed. -/
def decode? (bytes : List UInt8) : Option (List Char) :=
  if isWellFormed bytes then some (decodeLossy bytes) else none

/-- The bytes of a text. -/
def encode (text : String) : List UInt8 :=
  text.toList.flatMap String.utf8EncodeChar

/-- The number of bytes of a text. -/
def size : List Char → Nat
  | [] => 0
  | c :: rest => c.utf8Size + size rest

end Utf8

end ArchAudit.Text
