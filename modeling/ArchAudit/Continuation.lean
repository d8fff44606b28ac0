import ArchAudit.LogicalLine

/-!
# Continued lines

A physical line whose last visible character is a backslash is continued by the next one.  The
fragments of a continued statement are trimmed and joined by single spaces; a statement on one
physical line is kept as it is, apart from its line ending.
-/

namespace ArchAudit

/-- What is pending between two physical lines. -/
inductive Continuation where
  /-- No statement is open. -/
  | closed
  /-- A statement is open: the line on which it began, and its fragments so far that are not
  empty. -/
  | opened (startLine : Nat) (fragments : List String)
deriving DecidableEq, Repr

namespace Continuation

/-- Drops every carriage return and newline at the end of a physical line. -/
def dropLineEnding (raw : List Char) : List Char :=
  Text.dropEndWhile (fun c => c = '\r' || c = '\n') raw

/-- What stands before the continuation marker, if the line ends in one.  Blanks behind the marker
do not count. -/
def continuedPart? (line : List Char) : Option (List Char) :=
  if (Text.trimEnd line).getLast? = some '\\' then some (Text.trimEnd line).dropLast else none

/-- The fragments that a piece of a statement contributes: its trimmed text, unless that is
empty. -/
def fragment (part : List Char) : List String :=
  if (Text.trim part).isEmpty then [] else [String.ofList (Text.trim part)]

/-- The statement made of the given fragments. -/
def join
    (startLine : Nat)
    (fragments : List String)
    (endLine : Nat) :
    LogicalLine :=
  ⟨String.intercalate " " fragments, startLine, endLine⟩

/-- Takes in one physical line.  The result is the statement that the line completes, if any. -/
def feed
    (pending : Continuation)
    (lineNumber : Nat)
    (raw : String) :
    Continuation × Option LogicalLine :=
  let line := dropLineEnding raw.toList
  match continuedPart? line, pending with
  | some part, closed => (opened lineNumber (fragment part), none)
  | some part, opened startLine fragments => (opened startLine (fragments ++ fragment part), none)
  | none, closed => (closed, some ⟨String.ofList line, lineNumber, lineNumber⟩)
  | none, opened startLine fragments =>
    (closed, some (join startLine (fragments ++ fragment line) lineNumber))

/-- Ends the input.  A statement that is still open is complete as it stands. -/
def finish
    (pending : Continuation)
    (lastLine : Nat) :
    Continuation × Option LogicalLine :=
  match pending with
  | closed => (closed, none)
  | opened startLine fragments => (closed, some (join startLine fragments lastLine))

/-- The line on which the open statement began. -/
def startLine? : Continuation → Option Nat
  | closed => none
  | opened startLine _ => some startLine

end Continuation

end ArchAudit
