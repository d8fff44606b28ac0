import ArchAudit.Command.Run
import ArchAudit.Proofs.ScanFindings

/-!
# Scanning files into one sink

A scanner finds things while it reads, and the read can fail at any byte.  A file adds to the sink
either everything that was found in it or nothing, so the sink holds the findings of the files that
were read to their ends, one file after the other.
-/

namespace ArchAudit

/-- A scan reports the failure of the read and no other. -/
theorem Scan.ofSource_failure (table : Table) (filePath : String) (source : Source) :
    (ofSource table filePath source).2 = source.failure := by
  unfold ofSource
  cases source.failure with
  | none => rfl
  | some failure => rfl

namespace Scanner

/-- What scanning a file gives before it is known whether it counts: the findings, also those in
front of a failure, and the failure to open or to scan the file. -/
def attempt
    (scanner : Scanner)
    (system : FileSystem)
    (script : Run.Script) :
    List Finding × Option FileError :=
  match system.read script.path with
  | .error failure => ([], some failure)
  | .ok source => scanner.scan script.shownPath source

/-- Scans files one after the other into one sink: the findings in the sink at the end, and how each
call ended. -/
def scanFiles
    (scanner : Scanner)
    (system : FileSystem) :
    List Finding → List Run.Script → List Finding × List (Option FileError)
  | sink, [] => (sink, [])
  | sink, script :: scripts =>
      let call := scanner.scanFile system script.path script.shownPath sink
      let later := scanFiles scanner system call.1 scripts
      (later.1, call.2 :: later.2)

/-! ## One file -/

section Call

variable (scanner : Scanner) (system : FileSystem) (script : Run.Script)

/-- A call reports how its attempt ended, and adds what was found only if it ended well. -/
theorem scanFile_eq (sink : List Finding) :
    scanner.scanFile system script.path script.shownPath sink =
      (if (scanner.attempt system script).2 = none then
          sink ++ (scanner.attempt system script).1
        else sink,
        (scanner.attempt system script).2) := by
  cases opened : system.read script.path with
  | error failure => simp [scanFile, attempt, opened]
  | ok source =>
      have attempted :
          scanner.attempt system script = scanner.scan script.shownPath source := by
        simp only [attempt, opened]
      rw [attempted]
      simp only [scanFile, opened]
      obtain ⟨found, outcome⟩ := scanner.scan script.shownPath source
      cases outcome with
      | none => rfl
      | some failure => rfl

theorem scanFile_failure (sink : List Finding) :
    (scanner.scanFile system script.path script.shownPath sink).2 =
      (scanner.attempt system script).2 := by
  rw [scanFile_eq]

end Call

/-! ## Many files -/

/-- The files that were scanned without a failure. -/
def finished
    (scanner : Scanner)
    (system : FileSystem)
    (scripts : List Run.Script) :
    List Run.Script :=
  scripts.filter fun script => (scanner.attempt system script).2 = none

theorem scanFiles_eq
    (scanner : Scanner) (system : FileSystem) (sink : List Finding) (scripts : List Run.Script) :
    scanner.scanFiles system sink scripts =
      (sink ++ (scanner.finished system scripts).flatMap
          fun script => (scanner.attempt system script).1,
        scripts.map fun script => (scanner.attempt system script).2) := by
  induction scripts generalizing sink with
  | nil => simp [scanFiles, finished]
  | cons script others inductionHypothesis =>
      rw [scanFiles, scanFile_eq, inductionHypothesis, finished, finished]
      by_cases succeeded : (scanner.attempt system script).2 = none
      · simp [succeeded]
      · simp [succeeded]

/-! ## Build scripts -/

/-- What a build script holds is never the reason for a failure. -/
theorem attempt_cmake_failure_iff
    {table : Table} {system : FileSystem} {script : Run.Script} {failure : FileError} :
    ((cmake table).attempt system script).2 = some failure ↔
      system.read script.path = .error failure ∨
        ∃ bytes, system.read script.path = .ok ⟨bytes, some failure⟩ := by
  unfold attempt
  cases system.read script.path with
  | error cause => simp
  | ok source =>
      have reported := Scan.ofSource_failure table script.shownPath source
      cases source with
      | mk bytes outcome => simp [cmake, reported]

/-- A call that fails leaves the sink as it was, and one that succeeds adds what was found in its
file; so after any calls the sink holds what it held before and then the findings of the files that
were scanned to their ends, in order.  The scan of a build script fails only where its file cannot
be opened or read. -/
theorem scanFile_all_or_nothing (scanner : Scanner) (system : FileSystem) :
    (∀ (script : Run.Script) (sink : List Finding),
      (scanner.scanFile system script.path script.shownPath sink).2 =
          (scanner.attempt system script).2 ∧
        ((scanner.scanFile system script.path script.shownPath sink).2 ≠ none →
          (scanner.scanFile system script.path script.shownPath sink).1 = sink) ∧
        ((scanner.scanFile system script.path script.shownPath sink).2 = none →
          (scanner.scanFile system script.path script.shownPath sink).1 =
            sink ++ (scanner.attempt system script).1)) ∧
      (∀ sink scripts,
        scanner.scanFiles system sink scripts =
          (sink ++ (scanner.finished system scripts).flatMap
              fun script => (scanner.attempt system script).1,
            scripts.map fun script => (scanner.attempt system script).2)) ∧
      ∀ (table : Table) (script : Run.Script) (sink : List Finding) (failure : FileError),
        ((cmake table).scanFile system script.path script.shownPath sink).2 = some failure ↔
          system.read script.path = .error failure ∨
            ∃ bytes, system.read script.path = .ok ⟨bytes, some failure⟩ := by
  refine ⟨?_, scanner.scanFiles_eq system, ?_⟩
  · intro script sink
    refine ⟨scanner.scanFile_failure system script sink, ?_, ?_⟩
    · intro failed
      rw [scanFile_failure] at failed
      rw [scanFile_eq, if_neg failed]
    · intro succeeded
      rw [scanFile_failure] at succeeded
      rw [scanFile_eq, if_pos succeeded]
  · intro table script sink failure
    rw [scanFile_failure]
    exact attempt_cmake_failure_iff

/-- A scanner that finds something in every file and then fails. -/
def hasty : Scanner where
  name := "hasty"
  accepts := fun _ => true
  scan := fun shownPath _ =>
    ([.ofIssue (.archSpecificLibrary "MKL") shownPath 2 "line 1" none],
      some (.interrupted "truncated"))

/-- A build script that is not well-formed text, in a directory. -/
def sampleSystem : FileSystem :=
  (FileSystem.fresh "work").place "sub/CMakeLists.txt"
    (Text.Utf8.encode "find_package(MKL) # " ++ [0xE9, 10])

/-- The hasty scanner leaves the sink empty; of a missing file, a directory and a script only the
script adds to it. -/
theorem scanFile_all_or_nothing_sample :
    (hasty.attempt sampleSystem ⟨"sub/CMakeLists.txt", "a"⟩).1 ≠ [] ∧
      (hasty.scanFile sampleSystem "sub/CMakeLists.txt" "a" []).1 = [] ∧
      ((cmake Scan.sampleTable).scanFiles sampleSystem []
        [⟨"none", "a"⟩, ⟨"sub", "b"⟩, ⟨"sub/CMakeLists.txt", "c"⟩]).2 =
          [some .notFound, some .isDirectory, none] ∧
      ((cmake Scan.sampleTable).scanFiles sampleSystem []
        [⟨"none", "a"⟩, ⟨"sub", "b"⟩, ⟨"sub/CMakeLists.txt", "c"⟩]).1.map Finding.id =
          ["A001-c:2"] := by
  obtain ⟨reported, unchanged, _⟩ :=
    (scanFile_all_or_nothing hasty sampleSystem).1 ⟨"sub/CMakeLists.txt", "a"⟩ []
  have scanned := (scanFile_all_or_nothing (cmake Scan.sampleTable) sampleSystem).2.1 []
    [⟨"none", "a"⟩, ⟨"sub", "b"⟩, ⟨"sub/CMakeLists.txt", "c"⟩]
  refine ⟨by decide +kernel, unchanged ?_, ?_, ?_⟩
  · rw [reported]
    decide +kernel
  · rw [scanned]
    decide +kernel
  · rw [scanned]
    decide +kernel

end Scanner

end ArchAudit
