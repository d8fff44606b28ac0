/-!
# Glob patterns

Patterns for paths.  A question mark stands for any character and a star for any run of characters,
slashes included.  Two stars have to fill a whole component of the path and stand for any run of
whole components.  Brackets stand for one character out of a set, or outside of it.
-/

namespace ArchAudit

/-- One item of a set of characters. -/
inductive CharItem where
  | single (c : Char)
  | range (first last : Char)
deriving DecidableEq, Repr

namespace CharItem

/-- Whether a character belongs to the item. -/
def contains : CharItem → Char → Bool
  | single c, d => c = d
  | range first last, d => first ≤ d && d ≤ last

/-- The items of a set as it is written between brackets. -/
def parse : List Char → List CharItem
  | [] => []
  | first :: '-' :: last :: rest => range first last :: parse rest
  | c :: rest => single c :: parse rest

end CharItem

/-- One part of a pattern. -/
inductive GlobToken where
  | literal (c : Char)
  | anyChar
  | anyRun
  | anyComponents
  | within (items : List CharItem)
  | outside (items : List CharItem)
deriving DecidableEq, Repr

/-- A pattern for paths. -/
abbrev Glob :=
  List GlobToken

/-- What is wrong with a pattern. -/
inductive GlobFault where
  | wildcards
  | recursiveWildcards
  | range
deriving DecidableEq, Repr

/-- A fault of a pattern and the place of the character at which it shows. -/
structure GlobError where
  position : Nat
  fault : GlobFault
deriving DecidableEq, Repr

namespace GlobError

/-- The fault in words. -/
def message (error : GlobError) : String :=
  "Pattern syntax error near position " ++ toString error.position ++ ": "
    ++ match error.fault with
      | .wildcards => "wildcards are either regular `*` or recursive `**`"
      | .recursiveWildcards => "recursive wildcards must form a single path component"
      | .range => "invalid range pattern"

end GlobError

namespace Glob

/-- Appends the token for a run of components, unless one stands there already behind another
token. -/
def appendComponents (tokens : Glob) : Glob :=
  if 1 < tokens.length ∧ tokens.getLast? = some .anyComponents then tokens
  else tokens ++ [.anyComponents]

/-- The characters up to a closing bracket and what stands behind it.  The first character belongs
to the set even if it is a closing bracket. -/
def splitSet : List Char → Option (List Char × List Char)
  | [] => none
  | c :: rest =>
    match rest.dropWhile (· ≠ ']') with
    | [] => none
    | _ :: behind => some (c :: rest.takeWhile (· ≠ ']'), behind)

/-- The set of characters behind an opening bracket and what stands behind it. -/
def parseSet : List Char → Option (GlobToken × List Char)
  | '!' :: rest => (splitSet rest).map fun (set, behind) => (.outside (CharItem.parse set), behind)
  | text => (splitSet text).map fun (set, behind) => (.within (CharItem.parse set), behind)

/-- What stands behind two stars that fill a component: a slash belongs to them, and otherwise the
pattern has to end. -/
def behindComponents : List Char → Option (List Char)
  | [] => some []
  | '/' :: rest => some rest
  | _ => none

/-- Reads a pattern from the given position on.  `before` is the character in front of it.  Every
round takes at least one character, so the length of the pattern bounds the number of rounds. -/
def parseFrom : Nat → Nat → Option Char → Glob → List Char → Except GlobError Glob
  | 0, _, _, tokens, _ => .ok tokens
  | _, _, _, tokens, [] => .ok tokens
  | rounds + 1, position, before, tokens, c :: rest =>
    if c = '?' then parseFrom rounds (position + 1) (some c) (tokens ++ [.anyChar]) rest
    else if c = '*' then
      let stars := 1 + (rest.takeWhile (· = '*')).length
      let behind := rest.dropWhile (· = '*')
      if 2 < stars then .error ⟨position + 2, .wildcards⟩
      else if stars = 1 then
        parseFrom rounds (position + 1) (some c) (tokens ++ [.anyRun]) behind
      else if position = 0 ∨ before = some '/' then
        match behindComponents behind with
        | none => .error ⟨position + 2, .recursiveWildcards⟩
        | some others =>
          parseFrom rounds (position + 2 + (behind.length - others.length))
            (some (if others.length < behind.length then '/' else '*'))
            (appendComponents tokens) others
      else .error ⟨position - 1, .recursiveWildcards⟩
    else if c = '[' then
      match parseSet rest with
      | none => .error ⟨position, .range⟩
      | some (token, behind) =>
        parseFrom rounds (position + 1 + (rest.length - behind.length)) (some ']')
          (tokens ++ [token]) behind
    else parseFrom rounds (position + 1) (some c) (tokens ++ [.literal c]) rest

/-- Reads a pattern. -/
def parse (pattern : String) : Except GlobError Glob :=
  parseFrom (pattern.length + 1) 0 none [] pattern.toList

/-- The outcome of an attempt to match. -/
inductive Attempt where
  | matched
  /-- This attempt fails, another may do. -/
  | failed
  /-- The text is too short for what is left of the pattern, so no other attempt will do. -/
  | exhausted
deriving DecidableEq, Repr

/-- The first attempt that settles the matter. -/
def firstSettled (attempt : List Char → Attempt) : List (List Char) → Attempt
  | [] => .failed
  | text :: texts =>
    match attempt text with
    | .failed => firstSettled attempt texts
    | settled => settled

/-- A text and all that is left of it after some characters. -/
def suffixes : List Char → List (List Char)
  | [] => [[]]
  | c :: rest => (c :: rest) :: suffixes rest

/-- What is left of a text after each of its slashes, and after its end. -/
def componentSuffixes : List Char → List (List Char)
  | [] => [[]]
  | c :: rest => if c = '/' then rest :: componentSuffixes rest else componentSuffixes rest

/-- Whether a token for one character stands for the given character. -/
def accepts : GlobToken → Char → Bool
  | .literal c, d => c = d
  | .anyChar, _ => true
  | .within items, d => items.any fun item => item.contains d
  | .outside items, d => !items.any fun item => item.contains d
  | .anyRun, _ => false
  | .anyComponents, _ => false

/-- Matches a pattern against the whole of a text. -/
def attempt : Glob → List Char → Attempt
  | [], text => if text.isEmpty then .matched else .failed
  | .anyRun :: tokens, text => firstSettled (attempt tokens) (suffixes text)
  | .anyComponents :: tokens, text =>
    firstSettled (attempt tokens) (text :: componentSuffixes text)
  | token :: tokens, text =>
    match text with
    | [] => .exhausted
    | c :: rest => if accepts token c then attempt tokens rest else .failed

/-- Whether a pattern matches a path. -/
def isMatch (glob : Glob) (path : String) : Bool :=
  attempt glob path.toList = .matched

end Glob

end ArchAudit
