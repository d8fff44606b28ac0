import ArchAudit.Proofs.ScanFindings
import ArchAudit.Proofs.SourceText

/-!
# Styles of line endings

A line can end in a newline or in a carriage return and a newline, and the last line of a file can
have no ending at all.  Carriage returns are dropped in two places: one where a text is cut into
lines, and any number where the lines are joined into statements.  So a text has the same findings
in every style, whatever other carriage returns it holds.
-/

namespace ArchAudit

namespace Text

/-- A text with a carriage return in front of every newline. -/
def withReturns (text : List Char) : List Char :=
  text.flatMap fun c => if c = '\n' then ['\r', '\n'] else [c]

/-- The piece of a line with a carriage return in front of its newline, if it has one. -/
def Piece.withReturn (piece : Piece Char) : Piece Char :=
  ⟨if piece.ended then piece.content ++ ['\r'] else piece.content, piece.ended⟩

/-- The piece of a line that surely has its newline. -/
def Piece.close {α : Type} (piece : Piece α) : Piece α :=
  ⟨piece.content, true⟩

theorem withReturns_of_not_mem
    {text : List Char}
    (absent : '\n' ∉ text) :
    withReturns text = text := by
  have unchanged :
      ∀ c ∈ text, (if c = '\n' then ['\r', '\n'] else [c]) = [c] := by
    intro c member
    have different : c ≠ '\n' := fun same => absent (same ▸ member)
    rw [if_neg different]
  rw [withReturns, List.flatMap_congr unchanged, List.flatMap_singleton']

theorem withReturns_newline
    {content : List Char}
    (absent : '\n' ∉ content)
    (rest : List Char) :
    withReturns (content ++ '\n' :: rest) =
      (content ++ ['\r']) ++ '\n' :: withReturns rest := by
  have front := withReturns_of_not_mem absent
  rw [withReturns] at front
  rw [withReturns, List.flatMap_append, front, List.flatMap_cons, if_pos rfl, withReturns]
  simp

theorem Cut.withReturns
    {text : List Char} {cutPieces : List (Piece Char)}
    (cut : Cut '\n' text cutPieces) :
    Cut '\n' (withReturns text) (cutPieces.map Piece.withReturn) := by
  induction cut with
  | nil => exact .nil
  | unfinished nonempty absent =>
      rw [withReturns_of_not_mem absent]
      exact .unfinished nonempty absent
  | @complete content _ _ absent _ inductionHypothesis =>
      have stillAbsent : '\n' ∉ content ++ ['\r'] := by
        intro member
        rcases List.mem_append.mp member with inContent | isReturn
        · exact absent inContent
        · exact absurd (List.mem_singleton.mp isReturn) (by decide)
      rw [withReturns_newline absent]
      exact .complete stillAbsent inductionHypothesis

/-- A newline behind a text that does not end in one closes the last line and opens no other. -/
theorem Cut.append_newline
    {α : Type} {newline : α} {text : List α} {cutPieces : List (Piece α)}
    (cut : Cut newline text cutPieces)
    (nonempty : text ≠ [])
    (unterminated : text.getLast? ≠ some newline) :
    Cut newline (text ++ [newline]) (cutPieces.map Piece.close) := by
  induction cut with
  | nil => exact (nonempty rfl).elim
  | unfinished _ absent => exact .complete absent .nil
  | @complete content rest others absent _ inductionHypothesis =>
      have restNonempty : rest ≠ [] := by
        intro restEmpty
        apply unterminated
        rw [restEmpty, List.getLast?_append_cons, List.getLast?_singleton]
      have restUnterminated : rest.getLast? ≠ some newline := by
        intro restTerminated
        apply unterminated
        rw [List.getLast?_append_cons, List.getLast?_cons, restTerminated]
        rfl
      rw [List.append_assoc, List.cons_append]
      exact .complete absent (inductionHypothesis restNonempty restUnterminated)

/-- What the folder sees of a line is its content without the ending. -/
theorem dropLineEnding_line_eq_content (piece : Piece Char) :
    Continuation.dropLineEnding piece.line = Continuation.dropLineEnding piece.content := by
  rw [dropLineEnding_line, dropLineEnding_dropCarriageReturn]

theorem dropLineEnding_line_withReturn (piece : Piece Char) :
    Continuation.dropLineEnding piece.withReturn.line =
      Continuation.dropLineEnding piece.line := by
  rw [dropLineEnding_line_eq_content, dropLineEnding_line_eq_content, Piece.withReturn]
  cases piece.ended with
  | false => rfl
  | true =>
      rw [if_pos rfl, Continuation.dropLineEnding, dropEndWhile_concat]
      rfl

theorem dropLineEnding_line_close (piece : Piece Char) :
    Continuation.dropLineEnding piece.close.line =
      Continuation.dropLineEnding piece.line := by
  rw [dropLineEnding_line_eq_content, dropLineEnding_line_eq_content]
  rfl

theorem lines_eq_map_of_cut
    {text : List Char} {cutPieces : List (Piece Char)}
    (cut : Cut '\n' text cutPieces) :
    lines (String.ofList text) = cutPieces.map fun piece => String.ofList piece.line := by
  rw [lines, String.toList_ofList, cut.eq_pieces]

end Text

namespace Scan

/-- Two texts whose lines correspond and differ in their endings only have the same findings. -/
theorem ofText_of_cut_map
    {first second : List Char}
    {restyle : Text.Piece Char → Text.Piece Char}
    (same : ∀ piece,
      Continuation.dropLineEnding (restyle piece).line =
        Continuation.dropLineEnding piece.line)
    (cut : Text.Cut '\n' second ((Text.pieces '\n' first).map restyle))
    (table : Table) (filePath : String) :
    ofText table filePath (String.ofList second) =
      ofText table filePath (String.ofList first) := by
  have firstLines := Text.lines_eq_map_of_cut (Text.pieces_cut '\n' first)
  have secondLines := Text.lines_eq_map_of_cut cut
  rw [List.map_map] at secondLines
  rw [ofText, ofText, firstLines, secondLines]
  apply ofLines_map_of_dropLineEnding_eq
  intro piece
  rw [Function.comp_apply, String.toList_ofList, String.toList_ofList]
  exact same piece

/-- A single empty line is nothing to find anything in. -/
theorem ofText_newline (table : Table) (filePath : String) :
    ofText table filePath "\n" = ofText table filePath "" := by
  rfl

/-- The findings of a text stay the same in every field if a carriage return is put in front of
every newline, and if a last line without its newline is given one. -/
theorem line_endings_irrelevant (table : Table) (filePath text : String) :
    ofText table filePath (String.ofList (Text.withReturns text.toList)) =
        ofText table filePath text ∧
      (text.toList.getLast? ≠ some '\n' →
        ofText table filePath (text ++ "\n") = ofText table filePath text) := by
  constructor
  · have cut := (Text.pieces_cut '\n' text.toList).withReturns
    have sameFindings :=
      ofText_of_cut_map Text.dropLineEnding_line_withReturn cut table filePath
    rwa [String.ofList_toList] at sameFindings
  · intro unterminated
    by_cases empty : text.toList = []
    · have textEmpty : text = "" := String.toList_eq_nil_iff.mp empty
      subst textEmpty
      exact ofText_newline table filePath
    · have cut := (Text.pieces_cut '\n' text.toList).append_newline empty unterminated
      have sameFindings :=
        ofText_of_cut_map Text.dropLineEnding_line_close cut table filePath
      rwa [String.ofList_append, String.ofList_toList] at sameFindings

/-- A script in mixed styles: an ended line with two carriage returns, a continued line with blanks
behind its marker, and a last line with a carriage return and no newline. -/
def mixedScript : String :=
  "find_package(MKL)\r\r\noptions(-O2 \\ \n -mavx)\r"

theorem line_endings_irrelevant_mixed :
    (ofText sampleTable "CMakeLists.txt"
        (String.ofList (Text.withReturns mixedScript.toList))).map Finding.id =
          ["A001-CMakeLists.txt:2", "A002-CMakeLists.txt:4"] ∧
      mixedScript.toList.getLast? ≠ some '\n' ∧
      (ofText sampleTable "CMakeLists.txt" (mixedScript ++ "\n")).map Finding.id =
        ["A001-CMakeLists.txt:2", "A002-CMakeLists.txt:4"] := by
  obtain ⟨returned, closed⟩ := line_endings_irrelevant sampleTable "CMakeLists.txt" mixedScript
  have unterminated : mixedScript.toList.getLast? ≠ some '\n' := by decide +kernel
  have found :
      (ofText sampleTable "CMakeLists.txt" mixedScript).map Finding.id =
        ["A001-CMakeLists.txt:2", "A002-CMakeLists.txt:4"] := by
    decide +kernel
  refine ⟨?_, unterminated, ?_⟩
  · rw [returned]
    exact found
  · rw [closed unterminated]
    exact found

end Scan

end ArchAudit
