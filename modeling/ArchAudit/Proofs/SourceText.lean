import ArchAudit.Proofs.MalformedBytes
import ArchAudit.Proofs.Trimming
import ArchAudit.Scan

/-!
# Scanning bytes and scanning text

A file can be scanned from its bytes, each line cut off and decoded on its own, or from the text
that all its bytes decode to.  The two ways strip a line ending differently: at the end of a file
without a final newline only the first drops a carriage return.  The folder of continued lines drops
it anyway, so both ways find the same.
-/

namespace ArchAudit

/-! ## Lines that differ in their endings -/

/-- The folder does not look at the ending of a line. -/
theorem Continuation.feed_of_dropLineEnding_eq
    {first second : String}
    (same : dropLineEnding first.toList = dropLineEnding second.toList)
    (pending : Continuation) (lineNumber : Nat) :
    pending.feed lineNumber first = pending.feed lineNumber second := by
  simp only [feed, same]

namespace Scan

/-- Two readings of the same pieces give the same findings if they differ in line endings only. -/
theorem ofLines_map_of_dropLineEnding_eq
    {α : Type} {first second : α → String}
    (same : ∀ piece,
      Continuation.dropLineEnding (first piece).toList =
        Continuation.dropLineEnding (second piece).toList)
    (table : Table) (filePath : String) (linePieces : List α) :
    ofLines table filePath (linePieces.map first) =
      ofLines table filePath (linePieces.map second) := by
  have stepSame :
      (fun (scan : Scan) piece => scan.feed table filePath (first piece)) =
        fun scan piece => scan.feed table filePath (second piece) := by
    funext scan piece
    unfold feed
    rw [Continuation.feed_of_dropLineEnding_eq (same piece)]
  rw [ofLines, ofLines, run, run, List.foldl_map, List.foldl_map, stepSame]

end Scan

/-! ## Lines of a source and lines of its text -/

theorem Text.dropLineEnding_line (piece : Text.Piece Char) :
    Continuation.dropLineEnding piece.line =
      Continuation.dropLineEnding (Text.dropCarriageReturn piece.content) := by
  unfold Text.Piece.line
  split
  · rfl
  · rw [Text.dropLineEnding_dropCarriageReturn]

theorem Source.lines_complete (bytes : List UInt8) :
    (Source.complete bytes).lines.map PhysicalLine.text =
      (Text.pieces 10 bytes).map fun piece =>
        String.ofList (Text.dropCarriageReturn (Text.Utf8.decodeLossy piece.content)) := by
  simp [lines, pieces, complete, PhysicalLine.ofBytes]

theorem Text.lines_decodeLossy (bytes : List UInt8) :
    Text.lines (String.ofList (Text.Utf8.decodeLossy bytes)) =
      (Text.pieces 10 bytes).map fun piece =>
        String.ofList (Text.Piece.line ⟨Text.Utf8.decodeLossy piece.content, piece.ended⟩) := by
  rw [lines, String.toList_ofList, Utf8.pieces_decodeLossy, List.map_map]
  rfl

namespace Scan

theorem ofSource_complete (table : Table) (filePath : String) (bytes : List UInt8) :
    ofSource table filePath (.complete bytes) =
      (ofText table filePath (String.ofList (Text.Utf8.decodeLossy bytes)), none) := by
  have linesSame :
      ofLines table filePath ((Source.complete bytes).lines.map PhysicalLine.text) =
        ofText table filePath (String.ofList (Text.Utf8.decodeLossy bytes)) := by
    rw [ofText, Source.lines_complete, Text.lines_decodeLossy]
    apply ofLines_map_of_dropLineEnding_eq
    intro piece
    rw [String.toList_ofList, String.toList_ofList, Text.dropLineEnding_line]
  rw [ofSource, linesSame]
  rfl

/-- A file that is read to its end has the findings of the lossy decoding of its bytes, and a text
has the findings of its bytes. -/
theorem ofSource_eq_ofText (table : Table) (filePath : String) :
    (∀ bytes : List UInt8,
      (∀ text, Text.Utf8.Lossy bytes text ↔ text = Text.Utf8.decodeLossy bytes) ∧
        ofSource table filePath (.complete bytes) =
          (ofText table filePath (String.ofList (Text.Utf8.decodeLossy bytes)), none)) ∧
      ∀ text : String,
        ofSource table filePath (.ofText text) = (ofText table filePath text, none) := by
  constructor
  · intro bytes
    exact ⟨Text.Utf8.lossy_iff_decodeLossy bytes, ofSource_complete table filePath bytes⟩
  · intro text
    rw [Source.ofText, ofSource_complete, Text.Utf8.decodeLossy_encode, String.ofList_toList]

end Scan

end ArchAudit
