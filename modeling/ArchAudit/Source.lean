import ArchAudit.Text.Lines
import ArchAudit.Text.Utf8

/-!
# Sources of bytes

What a read of a file gives: some bytes, and then either the end of the file or a failure.  A
source is cut into physical lines; a line that the failure cuts short is lost.
-/

namespace ArchAudit

/-- Why a file could not be read or written. -/
inductive FileError where
  | notFound
  | notDirectory
  | isDirectory
  | notUtf8
  | nameTooLong
  | nulInPath
  | interrupted (reason : String)
deriving DecidableEq, Repr

namespace FileError

/-- The cause in words. -/
def message : FileError → String
  | notFound => "No such file or directory (os error 2)"
  | notDirectory => "Not a directory (os error 20)"
  | isDirectory => "Is a directory (os error 21)"
  | notUtf8 => "stream did not contain valid UTF-8"
  | nameTooLong => "File name too long (os error 36)"
  | nulInPath => "file name contained an unexpected NUL byte"
  | interrupted reason => reason

end FileError

/-- The bytes of a file, and the failure that follows them in place of the end, if any. -/
structure Source where
  bytes : List UInt8
  failure : Option FileError
deriving DecidableEq, Repr

/-- One line of a file, without its ending. -/
structure PhysicalLine where
  text : String
  /-- Whether the bytes of the line were not well-formed UTF-8. -/
  malformed : Bool
deriving DecidableEq, Repr

/-- The line with the given bytes.  Malformed sequences are replaced, and one carriage return at
the end belongs to the line ending. -/
def PhysicalLine.ofBytes (bytes : List UInt8) : PhysicalLine :=
  ⟨String.ofList (Text.dropCarriageReturn (Text.Utf8.decodeLossy bytes)),
    !Text.Utf8.isWellFormed bytes⟩

namespace Source

/-- A file with the given bytes, read to its end. -/
def complete (bytes : List UInt8) : Source :=
  ⟨bytes, none⟩

/-- A file with the given text, read to its end. -/
def ofText (text : String) : Source :=
  complete (Text.Utf8.encode text)

/-- The pieces between newlines that were read in full. -/
def pieces (source : Source) : List (Text.Piece UInt8) :=
  (Text.pieces 10 source.bytes).filter fun piece => piece.ended || source.failure.isNone

/-- The lines that were read in full. -/
def lines (source : Source) : List PhysicalLine :=
  source.pieces.map fun piece => PhysicalLine.ofBytes piece.content

/-- The whole content as text. -/
def text (source : Source) : Except FileError String :=
  match source.failure with
  | some failure => .error failure
  | none =>
    match Text.Utf8.decode? source.bytes with
    | some text => .ok (String.ofList text)
    | none => .error .notUtf8

end Source

end ArchAudit
