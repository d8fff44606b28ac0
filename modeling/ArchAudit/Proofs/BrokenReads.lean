import ArchAudit.Proofs.FindingIds
import ArchAudit.Proofs.SourceText
import Mathlib.Data.List.DropRight

/-!
# Reads that break off

A read can fail at any byte, in the middle of a line or of a continued statement.  What has been
found by then is what the finished statements of the finished lines give, and it stays at the front
of what is found if the file goes on in whatever way and is read to its end.
-/

namespace ArchAudit

theorem rdropWhile_append_cons
    {α : Type} {test : α → Bool} {item : α}
    (stops : ¬ test item = true)
    (front rest : List α) :
    (front ++ item :: rest).rdropWhile test = front ++ item :: rest.rdropWhile test := by
  induction rest using List.reverseRecOn with
  | nil => rw [List.rdropWhile_concat_neg test front item stops, List.rdropWhile_nil]
  | append_singleton others last inductionHypothesis =>
      rw [← List.cons_append, ← List.append_assoc, List.rdropWhile_concat, inductionHypothesis,
        List.rdropWhile_concat]
      split
      · rfl
      · rw [List.append_assoc, List.cons_append]

/-! ## Lines that were read in full -/

namespace Text

variable {α : Type} [DecidableEq α]

/-- What stands up to the last newline, with that newline. -/
def upToNewline (newline : α) (text : List α) : List α :=
  text.rdropWhile fun c => c ≠ newline

theorem upToNewline_of_not_mem
    {newline : α} {text : List α}
    (absent : newline ∉ text) :
    upToNewline newline text = [] := by
  apply List.rdropWhile_eq_nil_iff.mpr
  intro c member
  have different : c ≠ newline := fun same => absent (same ▸ member)
  exact decide_eq_true different

theorem upToNewline_append_newline (newline : α) (content rest : List α) :
    upToNewline newline (content ++ newline :: rest) =
      content ++ newline :: upToNewline newline rest :=
  rdropWhile_append_cons (by simp) content rest

theorem Cut.filter_ended
    {newline : α} {text : List α} {cutPieces : List (Piece α)}
    (cut : Cut newline text cutPieces) :
    cutPieces.filter Piece.ended = pieces newline (upToNewline newline text) := by
  induction cut with
  | nil => rfl
  | unfinished _ absent =>
      -- the line that the failure cuts short has no newline
      rw [upToNewline_of_not_mem absent]
      rfl
  | complete absent _ inductionHypothesis =>
      rw [upToNewline_append_newline, pieces_of_complete absent, ← inductionHypothesis]
      rfl

/-- The pieces up to the last newline do not depend on what follows. -/
theorem Cut.pieces_prefix_append
    {newline : α} {text : List α} {cutPieces : List (Piece α)}
    (cut : Cut newline text cutPieces)
    (more : List α) :
    pieces newline (upToNewline newline text) <+: pieces newline (text ++ more) := by
  induction cut with
  | nil => exact List.nil_prefix
  | unfinished _ absent =>
      rw [upToNewline_of_not_mem absent]
      exact List.nil_prefix
  | complete absent _ inductionHypothesis =>
      rw [upToNewline_append_newline, pieces_of_complete absent, List.append_assoc,
        List.cons_append, pieces_of_complete absent]
      exact (List.prefix_cons_inj _).mpr inductionHypothesis

end Text

namespace Source

/-- A read that fails behind some bytes. -/
def broken (bytes : List UInt8) (failure : FileError) : Source :=
  ⟨bytes, some failure⟩

theorem pieces_broken (bytes : List UInt8) (failure : FileError) :
    (broken bytes failure).pieces = Text.pieces 10 (Text.upToNewline 10 bytes) := by
  have endedOnly :
      (fun piece : Text.Piece UInt8 => piece.ended || (some failure).isNone) =
        Text.Piece.ended := by
    funext piece
    exact Bool.or_false piece.ended
  rw [pieces, broken, endedOnly]
  exact (Text.pieces_cut 10 bytes).filter_ended

theorem lines_broken (bytes : List UInt8) (failure : FileError) :
    (broken bytes failure).lines.map PhysicalLine.text =
      Text.lines (String.ofList (Text.Utf8.decodeLossy (Text.upToNewline 10 bytes))) := by
  rw [lines, pieces_broken, List.map_map, Text.lines_decodeLossy]
  apply List.map_congr_left
  intro piece member
  have ended : piece.ended = true := by
    rw [← (Text.pieces_cut 10 bytes).filter_ended] at member
    exact (List.mem_filter.mp member).2
  simp [PhysicalLine.ofBytes, Text.Piece.line, ended]

theorem lines_broken_prefix (bytes more : List UInt8) (failure : FileError) :
    (broken bytes failure).lines.map PhysicalLine.text <+:
      (complete (bytes ++ more)).lines.map PhysicalLine.text := by
  have piecesPrefix :
      (broken bytes failure).pieces <+: (complete (bytes ++ more)).pieces := by
    rw [pieces_broken]
    simpa [pieces, complete] using (Text.pieces_cut 10 bytes).pieces_prefix_append more
  exact (piecesPrefix.map _).map _

end Source

/-! ## Statements that were finished -/

namespace Folding

/-- The physical lines up to the last one that is not continued. -/
def upToPlain (lines : List String) : List String :=
  lines.rdropWhile fun raw => IsContinued raw

theorem upToPlain_of_continued
    {continued : List String}
    (allContinued : ∀ line ∈ continued, IsContinued line) :
    upToPlain continued = [] := by
  apply List.rdropWhile_eq_nil_iff.mpr
  intro line member
  exact decide_eq_true (allContinued line member)

theorem upToPlain_append_plain
    {last : String}
    (lastPlain : ¬ IsContinued last)
    (front rest : List String) :
    upToPlain (front ++ last :: rest) = front ++ last :: upToPlain rest :=
  rdropWhile_append_cons (by simpa using lastPlain) front rest

/-- Before the input ends, the folder has emitted the statements of the lines up to the last one
that is not continued. -/
theorem Grouped.run_closed
    {lines : List String} {lineGroups : List (List String)}
    (grouped : Grouped lines lineGroups)
    (count : Nat) :
    (Continuation.closed.run count lines).2 = numbered count (groups (upToPlain lines)) := by
  induction grouped generalizing count with
  | nil => rfl
  | unfinished nonempty allContinued =>
      -- an open statement stays pending and is not emitted
      rw [upToPlain_of_continued allContinued,
        Continuation.run_closed_of_continued nonempty allContinued]
      rfl
  | @complete continued rest last _ allContinued lastPlain _ inductionHypothesis =>
      rw [upToPlain_append_plain lastPlain, groups_of_complete allContinued lastPlain,
        List.append_cons, Continuation.run_append,
        Continuation.run_closed_of_complete allContinued lastPlain, numbered]
      simp only [inductionHypothesis, List.singleton_append]

theorem run_closed_eq_statements (lines : List String) :
    (Continuation.closed.run 0 lines).2 = statements (upToPlain lines) :=
  (groups_grouped lines).run_closed 0

end Folding

/-! ## Findings of a read that breaks off -/

namespace Scan

open Folding

section Compiled

variable {vocabulary : Vocabulary} {table : Table}
variable (compiled : Table.compile vocabulary = .ok table)
variable (filePath : String)

include compiled

theorem run_findings_of_compile (lines : List String) :
    (run table filePath lines).findings =
      (visible (statements (upToPlain lines))).flatMap
        (statementFindings vocabulary filePath) := by
  rw [run, foldl_feed_of_compile compiled, ← run_closed_eq_statements]
  rfl

theorem run_findings_prefix_ofLines_append (lines more : List String) :
    (run table filePath lines).findings <+: ofLines table filePath (lines ++ more) := by
  have kept :
      (run table filePath lines).findings <+: (run table filePath (lines ++ more)).findings := by
    rw [run, run, List.foldl_append, foldl_feed_of_compile compiled filePath _ more]
    exact List.prefix_append _ _
  exact kept.trans (run_findings_begin_ofLines compiled filePath (lines ++ more))

omit compiled in
theorem ofSource_broken (table : Table) (bytes : List UInt8) (failure : FileError) :
    ofSource table filePath (.broken bytes failure) =
      ((run table filePath
        ((Source.broken bytes failure).lines.map PhysicalLine.text)).findings, some failure) :=
  rfl

theorem ofSource_broken_prefix (bytes more : List UInt8) (failure : FileError) :
    (ofSource table filePath (.broken bytes failure)).1 <+:
      (ofSource table filePath (.complete (bytes ++ more))).1 := by
  obtain ⟨later, lines_eq⟩ := Source.lines_broken_prefix bytes more failure
  have whole :
      (ofSource table filePath (.complete (bytes ++ more))).1 =
        ofLines table filePath
          ((Source.broken bytes failure).lines.map PhysicalLine.text ++ later) := by
    rw [lines_eq]
    rfl
  rw [whole, ofSource_broken]
  exact run_findings_prefix_ofLines_append compiled filePath _ later

end Compiled

/-- A read that breaks off reports its failure.  Up to then it has found what the statements that
the finished lines complete have in them, and nothing about the file as a whole; and this is the
front of what is found in a file that begins with the same bytes and is read to its end. -/
theorem broken_read_findings
    {vocabulary : Vocabulary} {table : Table}
    (compiled : Table.compile vocabulary = .ok table)
    (filePath : String) (bytes more : List UInt8) (failure : FileError) :
    ofSource table filePath (.broken bytes failure) =
        ((visible (statements (upToPlain
            (Text.lines (String.ofList
              (Text.Utf8.decodeLossy (Text.upToNewline 10 bytes))))))).flatMap
          (statementFindings vocabulary filePath), some failure) ∧
      (∀ finding ∈ (ofSource table filePath (.broken bytes failure)).1,
        isImmediate finding = true) ∧
      (ofSource table filePath (.broken bytes failure)).1 <+:
        (ofSource table filePath (.complete (bytes ++ more))).1 ∧
      (ofSource table filePath (.complete (bytes ++ more))).2 = none := by
  have found := ofSource_broken filePath table bytes failure
  rw [Source.lines_broken, run_findings_of_compile compiled] at found
  refine ⟨found, ?_, ofSource_broken_prefix compiled filePath bytes more failure, ?_⟩
  · intro finding member
    simp only [found, List.mem_flatMap] at member
    obtain ⟨line, _, findingMember⟩ := member
    exact isImmediate_of_mem_statementFindings findingMember
  · rw [ofSource_complete]

/-- A script that stops in the middle of a continued statement. -/
def stoppedScript : List UInt8 :=
  Text.Utf8.encode "find_package(MKL)\noptions(-O2 \\\n -mavx"

def resumedScript : List UInt8 :=
  Text.Utf8.encode "2)\nif(CMAKE_SYSTEM_PROCESSOR MATCHES x86_64)"

/-- Only the library on the first line is found, also if the next bytes complete the option. -/
theorem broken_read_findings_sample :
    Table.compile sampleVocabulary = .ok sampleTable ∧
      (ofSource sampleTable "CMakeLists.txt"
        (.broken stoppedScript (.interrupted "disk failure"))).2 =
          some (.interrupted "disk failure") ∧
      (ofSource sampleTable "CMakeLists.txt"
        (.broken stoppedScript (.interrupted "disk failure"))).1.map Finding.id =
          ["A001-CMakeLists.txt:2"] ∧
      ["A001-CMakeLists.txt:2"] <+:
        (ofSource sampleTable "CMakeLists.txt"
          (.complete (stoppedScript ++ resumedScript))).1.map Finding.id := by
  obtain ⟨found, _, front, _⟩ :=
    broken_read_findings compile_sampleVocabulary "CMakeLists.txt" stoppedScript resumedScript
      (.interrupted "disk failure")
  have foundIds :
      (ofSource sampleTable "CMakeLists.txt"
        (.broken stoppedScript (.interrupted "disk failure"))).1.map Finding.id =
          ["A001-CMakeLists.txt:2"] := by
    decide +kernel
  refine ⟨compile_sampleVocabulary, congrArg Prod.snd found, foundIds, ?_⟩
  rw [← foundIds]
  exact front.map Finding.id

end Scan

end ArchAudit
