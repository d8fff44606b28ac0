/-!
# Lines

Texts and byte strings are cut at newlines.  `pieces` keeps, for each line, whether its newline was
there, so that the same cut serves a text held in memory, a file read to its end, and a read that
breaks off in the middle of a line.
-/

namespace ArchAudit.Text

/-- The content of one line, without its newline, and whether the newline was there. -/
structure Piece (α : Type) where
  content : List α
  ended : Bool
deriving DecidableEq, Repr

/-- Cuts a sequence after each newline.  Only the last piece can lack its newline, and there is no
empty piece after a final newline. -/
def pieces {α : Type} [DecidableEq α] (newline : α) : List α → List (Piece α)
  | [] => []
  | c :: rest =>
    if c = newline then ⟨[], true⟩ :: pieces newline rest
    else
      match pieces newline rest with
      | [] => [⟨[c], false⟩]
      | piece :: others => ⟨c :: piece.content, piece.ended⟩ :: others

@[simp] theorem pieces_nil {α : Type} [DecidableEq α] (newline : α) :
    pieces newline [] = [] := rfl

/-- A newline at the front closes an empty piece. -/
theorem pieces_newline_cons {α : Type} [DecidableEq α] (newline : α) (rest : List α) :
    pieces newline (newline :: rest) = ⟨[], true⟩ :: pieces newline rest := by
  simp [pieces]

/-- Drops one carriage return at the end, if there is one. -/
def dropCarriageReturn (line : List Char) : List Char :=
  if line.getLast? = some '\r' then line.dropLast else line

/-- The line that a piece of text stands for: a carriage return right before the newline belongs
to the line ending, one at the end of an unterminated line does not. -/
def Piece.line (piece : Piece Char) : List Char :=
  if piece.ended then dropCarriageReturn piece.content else piece.content

/-- The lines of a text, without their endings. -/
def lines (text : String) : List String :=
  (pieces '\n' text.toList).map fun piece => String.ofList piece.line

end ArchAudit.Text
