import ArchAudit.Regex.Basic
import ArchAudit.Regex.Error
import ArchAudit.Text.Hexadecimal

/-!
# Reading regular expressions

The written form of a regular expression.  Every step takes the text that is left and gives back
what it has read and the text behind it; no step goes on without having read a character, so the
length of the text bounds the number of steps.
-/

namespace ArchAudit.Regex

/-- What a step reads, and the text behind it. -/
abbrev Reading (α : Type) :=
  Except RegexError (α × List Char)

/-- A fault from one place up to another. -/
def fault {α : Type} (kind : RegexFault) (fromHere upToHere : List Char) : Except RegexError α :=
  .error ⟨kind, fromHere, upToHere⟩

/-! ## Escapes -/

/-- What a character or an escape stands for. -/
inductive Symbol where
  | literal (c : Char)
  | set (chars : CharSet)
  | condition (anchor : Anchor)
deriving DecidableEq, Repr

/-- The symbol that a letter behind a backslash stands for. -/
def letterSymbol? : Char → Option Symbol
  | 'd' => some (.set .digit)
  | 'D' => some (.set (.complement .digit))
  | 's' => some (.set .blank)
  | 'S' => some (.set (.complement .blank))
  | 'w' => some (.set .word)
  | 'W' => some (.set (.complement .word))
  | 'a' => some (.literal '\x07')
  | 'f' => some (.literal '\x0c')
  | 't' => some (.literal '\t')
  | 'n' => some (.literal '\n')
  | 'r' => some (.literal '\r')
  | 'v' => some (.literal '\x0b')
  | 'A' => some (.condition .textStart)
  | 'z' => some (.condition .textEnd)
  | 'b' => some (.condition .boundary)
  | 'B' => some (.condition .noBoundary)
  | '<' => some (.condition .wordStart)
  | '>' => some (.condition .wordEnd)
  | _ => none

/-- The number of hexadecimal digits behind a letter that stands in front of a code point. -/
def codeWidth? : Char → Option Nat
  | 'x' => some 2
  | 'u' => some 4
  | 'U' => some 8
  | _ => none

/-- The character with the code point that the digits from one place up to another give. -/
def codeSymbol (code : Nat) (fromHere upToHere behind : List Char) : Reading Symbol :=
  if code.isValidChar then .ok (.literal (Char.ofNat code), behind)
  else fault .hexRange fromHere upToHere

/-- Reads the given number of hexadecimal digits. -/
def readCode (start : List Char) : Nat → Nat → List Char → Reading Symbol
  | 0, code, rest => codeSymbol code start rest rest
  | _ + 1, _, [] => fault .escapeIncomplete [] []
  | digits + 1, code, c :: rest =>
    match Text.hexValue? c with
    | some value => readCode start digits (16 * code + value) rest
    | none => fault .hexDigit (c :: rest) rest

/-- Reads hexadecimal digits up to a closing brace. -/
def readBracedCode (brace start : List Char) : Nat → List Char → Reading Symbol
  | _, [] => fault .escapeIncomplete brace []
  | code, c :: rest =>
    if c = '\x7d' then
      if start = c :: rest then fault .hexEmpty brace rest
      else codeSymbol code start (c :: rest) rest
    else
      match Text.hexValue? c with
      | some value => readBracedCode brace start (16 * code + value) rest
      | none => fault .hexDigit (c :: rest) rest

/-- Reads what stands behind a backslash.  An ASCII character that is no letter and no digit stands
for itself. -/
def readEscape (here : List Char) : List Char → Reading Symbol
  | [] => fault .escapeIncomplete here []
  | c :: rest =>
    if c.isDigit then fault .backreference here rest
    else
      match letterSymbol? c, codeWidth? c with
      | some symbol, _ => .ok (symbol, rest)
      | none, some width =>
        match rest with
        | '\x7b' :: digits => readBracedCode rest digits 0 digits
        | _ => readCode rest width 0 rest
      | none, none =>
        if c.toNat < 0x80 && !c.isAlpha then .ok (.literal c, rest)
        else fault .escapeUnknown here rest

/-! ## Sets of characters -/

/-- The named sets of ASCII characters. -/
def namedSet? : String → Option CharSet
  | "alnum" => some (.union (.range '0' '9') (.union (.range 'A' 'Z') (.range 'a' 'z')))
  | "alpha" => some (.union (.range 'A' 'Z') (.range 'a' 'z'))
  | "ascii" => some (.range (Char.ofNat 0) '\x7f')
  | "blank" => some (.union (.single '\t') (.single ' '))
  | "cntrl" => some (.union (.range (Char.ofNat 0) '\x1f') (.single '\x7f'))
  | "digit" => some (.range '0' '9')
  | "graph" => some (.range '!' '~')
  | "lower" => some (.range 'a' 'z')
  | "print" => some (.range ' ' '~')
  | "punct" =>
    some (.difference (.range '!' '~')
      (.union (.range '0' '9') (.union (.range 'A' 'Z') (.range 'a' 'z'))))
  | "space" => some (.union (.range '\t' '\r') (.single ' '))
  | "upper" => some (.range 'A' 'Z')
  | "word" =>
    some (.union (.single '_')
      (.union (.range '0' '9') (.union (.range 'A' 'Z') (.range 'a' 'z'))))
  | "xdigit" => some (.union (.range '0' '9') (.union (.range 'A' 'F') (.range 'a' 'f')))
  | _ => none

/-- Reads a named set between colons, behind its bracket. -/
def readNamedSet? : List Char → Option (CharSet × List Char)
  | ':' :: rest =>
    let negated := rest.head? = some '^'
    let name := (if negated then rest.drop 1 else rest).takeWhile (· ≠ ':')
    match (if negated then rest.drop 1 else rest).dropWhile (· ≠ ':'),
        namedSet? (String.ofList name) with
    | ':' :: ']' :: behind, some set => some (if negated then .complement set else set, behind)
    | _, _ => none
  | _ => none

/-- Reads one end of a range, or a set by itself. -/
def readSetSymbol : List Char → Reading Symbol
  | [] => fault .escapeIncomplete [] []
  | '\\' :: rest => readEscape ('\\' :: rest) rest
  | c :: rest => .ok (.literal c, rest)

/-- The set that a symbol between brackets stands for. -/
def symbolSet (here behind : List Char) : Symbol → Except RegexError CharSet
  | .literal c => .ok (.single c)
  | .set chars => .ok chars
  | .condition _ => fault .classEscape here behind

/-- The character at an end of a range. -/
def rangeEnd (here behind : List Char) : Symbol → Except RegexError Char
  | .literal c => .ok c
  | _ => fault .rangeNotLiteral here behind

/-- Reads a range, a character or a set between brackets.  A dash in front of the closing bracket
or of another dash makes no range. -/
def readSetItem (here : List Char) : Except RegexError (CharSet × List Char) := do
  let (first, rest) ← readSetSymbol here
  match rest with
  | '-' :: behind =>
    if behind.head? = some ']' ∨ behind.head? = some '-' ∨ behind.isEmpty then
      return (← symbolSet here rest first, rest)
    else
      let (second, last) ← readSetSymbol behind
      let low ← rangeEnd here rest first
      let high ← rangeEnd behind last second
      if low ≤ high then return (.range low high, last)
      else fault .rangeDescending here last
  | _ => return (← symbolSet here rest first, rest)

/-- The start of a set behind its bracket: whether it is the complement that is meant, and the
dashes and the closing bracket that stand for themselves because they come first. -/
def readSetHead (text : List Char) : Bool × CharSet × List Char :=
  let negated := text.head? = some '^'
  let text := if negated then text.drop 1 else text
  match text with
  | ']' :: rest => (negated, .single ']', rest)
  | _ =>
    if text.head? = some '-' then (negated, .single '-', text.dropWhile (· = '-'))
    else (negated, .nothing, text)

/-- Reads a set up to its closing bracket.  `left` combines what stands in front of an operator with
the items behind it. -/
def readSet :
    Nat → List Char → List Char → (CharSet → CharSet) → CharSet → List Char → Reading CharSet
  | 0, opened, inside, _, _, _ => fault .classUnclosed opened inside
  | _ + 1, opened, inside, _, _, [] => fault .classUnclosed opened inside
  | _ + 1, _, _, left, items, ']' :: rest => .ok (left items, rest)
  | steps + 1, opened, inside, left, items, '&' :: '&' :: rest =>
    readSet steps opened inside (.inter (left items)) .nothing rest
  | steps + 1, opened, inside, left, items, '-' :: '-' :: rest =>
    readSet steps opened inside (.difference (left items)) .nothing rest
  | steps + 1, opened, inside, left, items, '~' :: '~' :: rest =>
    readSet steps opened inside (.symmetricDifference (left items)) .nothing rest
  | steps + 1, opened, inside, left, items, '[' :: rest =>
    match readNamedSet? rest with
    | some (set, behind) => readSet steps opened inside left (.union items set) behind
    | none =>
      let (negated, start, text) := readSetHead rest
      match readSet steps ('[' :: rest) text id start text with
      | .error error => .error error
      | .ok (set, behind) =>
        readSet steps opened inside left
          (.union items (if negated then .complement set else set)) behind
  | steps + 1, opened, inside, left, items, here =>
    match readSetItem here with
    | .error error => .error error
    | .ok (set, behind) => readSet steps opened inside left (.union items set) behind

/-- Reads a set behind its opening bracket. -/
def readBrackets (rest : List Char) : Reading CharSet :=
  let (negated, start, text) := readSetHead rest
  match readSet (text.length + 1) ('[' :: rest) text id start text with
  | .error error => .error error
  | .ok (set, behind) => .ok (if negated then .complement set else set, behind)

/-! ## Repetitions -/

/-- Drops the mark that asks for the shortest match, which does not change whether there is one. -/
def dropLazyMark : List Char → List Char
  | '?' :: rest => rest
  | rest => rest

/-- Reads a decimal number between blanks, if there is one. -/
def readCount (text : List Char) : Option Nat × List Char :=
  let text := Text.trimStart text
  let digits := text.takeWhile Char.isDigit
  ((String.ofList digits).toNat?, Text.trimStart (text.dropWhile Char.isDigit))

/-- Reads the bounds of a repetition behind their opening brace. -/
def readBounds (rest : List Char) : Reading (Nat × Option Nat) :=
  let here := '\x7b' :: rest
  if rest.isEmpty then fault .countUnclosed here []
  else
    let start := Text.trimStart rest
    match readCount rest with
    | (_, []) => fault .countUnclosed here []
    | (none, _) => fault .countEmpty start start
    | (some least, '\x7d' :: behind) => .ok ((least, some least), dropLazyMark behind)
    | (some least, ',' :: '\x7d' :: behind) => .ok ((least, none), dropLazyMark behind)
    | (some least, ',' :: more) =>
      if more.isEmpty then fault .countUnclosed here []
      else
        let second := Text.trimStart more
        match readCount more with
        | (none, _) => fault .countEmpty second second
        | (some most, '\x7d' :: behind) =>
          if least ≤ most then .ok ((least, some most), dropLazyMark behind)
          else fault .countDescending here (dropLazyMark behind)
        | (some _, other) => fault .countUnclosed here other
    | (some _, other) => fault .countUnclosed here other

/-- Repeats the last of the parts read so far. -/
def repeatLast (here : List Char) (least : Nat) (most : Option Nat) :
    List Regex → Except RegexError (List Regex)
  | [] => fault .repetitionMissing here here
  | last :: others => .ok (repeated last least most :: others)

/-! ## Groups -/

/-- How characters are read inside a group. -/
structure Flags where
  /-- Whether the case of letters does not count. -/
  caseless : Bool
  /-- Whether the anchors also mean the ends of lines. -/
  multiline : Bool
  /-- Whether a dot stands for a newline too. -/
  dotAll : Bool
deriving DecidableEq, Repr

/-- Sets a flag; flags that do not change whether there is a match are accepted and forgotten. -/
def Flags.set? (value : Bool) (flags : Flags) : Char → Option Flags
  | 'i' => some { flags with caseless := value }
  | 'm' => some { flags with multiline := value }
  | 's' => some { flags with dotAll := value }
  | 'U' => some flags
  | 'u' => some flags
  | _ => none

/-- Reads flags up to a colon or a closing bracket, which is left. -/
def readFlags : Bool → Flags → List Char → Reading Flags
  | _, _, [] => fault .flagMissing [] []
  | value, flags, c :: rest =>
    if c = ':' ∨ c = ')' then .ok (flags, c :: rest)
    else if c = '-' ∧ value then readFlags false flags rest
    else
      match flags.set? value c with
      | some flags => readFlags value flags rest
      | none => fault .flagUnknown (c :: rest) rest

/-- The start of a group. -/
inductive GroupHead where
  /-- A group with expressions in it, read with the given flags. -/
  | opened (flags : Flags)
  /-- A change of the flags for the rest of the surrounding group. -/
  | changed (flags : Flags)
deriving DecidableEq, Repr

/-- Whether a character can stand in the name of a group. -/
def isNameChar (c : Char) : Bool :=
  c.isAlphanum || c = '_' || c = '.' || c = '[' || c = ']'

/-- Reads the name of a group behind its angle bracket. -/
def readGroupName (flags : Flags) (text : List Char) : Reading GroupHead :=
  let name := text.takeWhile (· ≠ '>')
  match text.dropWhile (· ≠ '>') with
  | [] => fault .groupNameUnclosed [] []
  | _ :: behind =>
    match name with
    | [] => fault .groupNameEmpty text text
    | first :: _ =>
      if first.isDigit ∨ first = '.' ∨ first = '[' ∨ first = ']' then
        fault .groupNameInvalid text (text.drop 1)
      else
        match text.dropWhile isNameChar with
        | '>' :: _ => .ok (.opened flags, behind)
        | other => fault .groupNameInvalid other (other.drop 1)

/-- Reads the start of a group behind its bracket. -/
def readGroupHead (flags : Flags) (rest : List Char) : Reading GroupHead :=
  let here := '(' :: rest
  match rest with
  | '?' :: '=' :: behind => fault .lookAround here behind
  | '?' :: '!' :: behind => fault .lookAround here behind
  | '?' :: '<' :: '=' :: behind => fault .lookAround here behind
  | '?' :: '<' :: '!' :: behind => fault .lookAround here behind
  | '?' :: 'P' :: '<' :: behind => readGroupName flags behind
  | '?' :: '<' :: behind => readGroupName flags behind
  | '?' :: [] => fault .groupUnclosed here rest
  | '?' :: ')' :: _ => fault .repetitionMissing rest rest
  | '?' :: behind =>
    match readFlags true flags behind with
    | .error error => .error error
    | .ok (flags, ':' :: text) => .ok (.opened flags, text)
    | .ok (flags, text) => .ok (.changed flags, text.drop 1)
  | _ => .ok (.opened flags, rest)

/-! ## Expressions -/

/-- The expression for a set of characters. -/
def ofSet (flags : Flags) (set : CharSet) : Regex :=
  oneOf (if flags.caseless then .caseless set else set)

/-- The expression for a symbol. -/
def ofSymbol (flags : Flags) : Symbol → Regex
  | .literal c => ofSet flags (.single c)
  | .set set => ofSet flags set
  | .condition condition => anchor condition

/-- The expression for a character outside brackets that is not an operator. -/
def ofChar (flags : Flags) (c : Char) : Regex :=
  if c = '.' then oneOf (if flags.dotAll then .anything else .notNewline)
  else if c = '^' then anchor (if flags.multiline then .lineStart else .textStart)
  else if c = '$' then anchor (if flags.multiline then .lineEnd else .textEnd)
  else ofSet flags (.single c)

/-- The choice between the branches read so far, last one first, and the parts of the branch behind
them, last one first. -/
def ofBranches (branches parts : List Regex) : Regex :=
  let last := seqAll parts.reverse
  match branches.reverse with
  | [] => last
  | first :: others => altAll first (others ++ [last])

/-- Reads branches up to the end or to the bracket that closes the group. -/
def readBranches : Nat → Flags → List Regex → List Regex → List Char → Reading Regex
  | 0, _, branches, parts, rest => .ok (ofBranches branches parts, rest)
  | _ + 1, _, branches, parts, [] => .ok (ofBranches branches parts, [])
  | _ + 1, _, branches, parts, ')' :: rest => .ok (ofBranches branches parts, ')' :: rest)
  | steps + 1, flags, branches, parts, '|' :: rest =>
    readBranches steps flags (seqAll parts.reverse :: branches) [] rest
  | steps + 1, flags, branches, parts, '(' :: rest =>
    match readGroupHead flags rest with
    | .error error => .error error
    | .ok (.changed flags, behind) => readBranches steps flags branches parts behind
    | .ok (.opened inner, behind) =>
      match readBranches steps inner [] [] behind with
      | .error error => .error error
      | .ok (body, ')' :: text) => readBranches steps flags branches (body :: parts) text
      | .ok (_, _) => fault .groupUnclosed ('(' :: rest) rest
  | steps + 1, flags, branches, parts, '[' :: rest =>
    match readBrackets rest with
    | .error error => .error error
    | .ok (set, behind) => readBranches steps flags branches (ofSet flags set :: parts) behind
  | steps + 1, flags, branches, parts, '\\' :: rest =>
    match readEscape ('\\' :: rest) rest with
    | .error error => .error error
    | .ok (symbol, behind) =>
      readBranches steps flags branches (ofSymbol flags symbol :: parts) behind
  | steps + 1, flags, branches, parts, '\x7b' :: rest =>
    match repeatLast ('\x7b' :: rest) 0 none parts, readBounds rest with
    | .error error, _ => .error error
    | _, .error error => .error error
    | .ok _, .ok ((least, most), behind) =>
      match repeatLast rest least most parts with
      | .error error => .error error
      | .ok parts => readBranches steps flags branches parts behind
  | steps + 1, flags, branches, parts, c :: rest =>
    let operator : Option (Nat × Option Nat) :=
      if c = '*' then some (0, none)
      else if c = '+' then some (1, none)
      else if c = '?' then some (0, some 1)
      else none
    match operator with
    | none => readBranches steps flags branches (ofChar flags c :: parts) rest
    | some (least, most) =>
      match repeatLast (c :: rest) least most parts with
      | .error error => .error error
      | .ok parts => readBranches steps flags branches parts (dropLazyMark rest)

/-- Reads a regular expression. -/
def parse (text : String) : Except RegexError Regex :=
  let start := text.toList
  match readBranches (start.length + 1) ⟨false, false, false⟩ [] [] start with
  | .error error => .error error
  | .ok (regex, []) => .ok regex
  | .ok (_, rest) => fault .groupUnopened rest (rest.drop 1)

end ArchAudit.Regex
