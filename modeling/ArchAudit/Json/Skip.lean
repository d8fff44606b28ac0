import ArchAudit.Json.Reader

/-!
# Skipping a JSON value

A value that nobody asked for is only checked for its syntax.  The brackets that are open stand on
a stack, so values of any depth can be skipped.
-/

namespace ArchAudit.Json

/-- A bracket that is open. -/
inductive Frame where
  | list
  | object
deriving DecidableEq, Repr

namespace Frame

/-- The character that closes the bracket. -/
def closing : Frame → Char
  | list => ']'
  | object => '\x7d'

/-- The reason for an end of the text inside the bracket. -/
def endReason : Frame → Reason
  | list => .endInList
  | object => .endInObject

/-- The reason for a character that neither closes the bracket nor separates two items. -/
def separatorReason : Frame → Reason
  | list => .expectedListCommaOrEnd
  | object => .expectedObjectCommaOrEnd

end Frame

/-- Skips a value without structure, or the bracket that opens one with structure. -/
def skipHead : List Char → Result (Option Frame)
  | [] => failAt .endInValue []
  | c :: text =>
    if c = 'n' then (readLetters ['u', 'l', 'l'] text).map fun rest => (none, rest)
    else if c = 't' then (readLetters ['r', 'u', 'e'] text).map fun rest => (none, rest)
    else if c = 'f' then (readLetters ['a', 'l', 's', 'e'] text).map fun rest => (none, rest)
    else if c = '-' then (skipNumber text).map fun rest => (none, rest)
    else if c.isDigit then (skipNumber (c :: text)).map fun rest => (none, rest)
    else if c = '"' then (skipString text).map fun rest => (none, rest)
    else if c = '[' then .ok (some .list, text)
    else if c = '\x7b' then .ok (some .object, text)
    else failAt .expectedValue (c :: text)

/-- Goes on behind a complete value: closes brackets up to the next comma.  The result holds the
brackets that are still open behind the comma, or nothing if the outermost value is complete. -/
def skipClosing : List Frame → List Char → Result (Option (List Frame))
  | [], text => .ok (none, text)
  | frame :: outer, text =>
    match skipSpaces text with
    | [] => failAt frame.endReason []
    | c :: rest =>
      if c = ',' then .ok (some (frame :: outer), rest)
      else if c = frame.closing then skipClosing outer rest
      else failAt frame.separatorReason (c :: rest)

/-- Goes on behind an opening bracket, which may be closed at once. -/
def skipOpening (frame : Frame) (outer : List Frame) (text : List Char) :
    Result (Option (List Frame)) :=
  match skipSpaces text with
  | [] => failAt frame.endReason []
  | c :: rest =>
    if c = frame.closing then skipClosing outer rest else .ok (some (frame :: outer), c :: rest)

/-- Skips a key and its colon. -/
def skipKey (text : List Char) : Except Failure (List Char) :=
  match skipSpaces text with
  | [] => failAt .endInObject []
  | c :: rest =>
    if c = '"' then
      match skipString rest with
      | .error failure => .error failure
      | .ok behind =>
        match skipSpaces behind with
        | [] => failAt .endInObject []
        | d :: others => if d = ':' then .ok others else failAt .expectedColon (d :: others)
    else failAt .keyMustBeString (c :: rest)

/-- Skips what stands in front of the next value inside the innermost bracket. -/
def skipToValue : List Frame → List Char → Except Failure (List Char)
  | .object :: _, text => skipKey text
  | _, text => .ok text

/-- Skips the next value and whatever completes the brackets around it.  Every round takes at least
one character, so the length of the text bounds the number of rounds. -/
def skipRounds : Nat → List Frame → List Char → Except Failure (List Char)
  | 0, _, text => failAt .endInValue text
  | rounds + 1, frames, text =>
    let next : Result (Option (List Frame)) :=
      match skipHead (skipSpaces text) with
      | .error failure => .error failure
      | .ok (none, rest) => skipClosing frames rest
      | .ok (some frame, rest) => skipOpening frame frames rest
    match next with
    | .error failure => .error failure
    | .ok (none, rest) => .ok rest
    | .ok (some frames, rest) =>
      match skipToValue frames rest with
      | .error failure => .error failure
      | .ok rest => skipRounds rounds frames rest

/-- Skips one value. -/
def skipValue (text : List Char) : Except Failure (List Char) :=
  skipRounds (text.length + 1) [] text

end ArchAudit.Json
