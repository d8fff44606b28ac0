import ArchAudit.Proofs.PathFollowing
import Mathlib.Data.List.DropRight

/-!
# Reading and writing files

What is read at a path depends on the place to which the path leads.  A file that was written at a
path is read there again, and whether it can be written does not depend on other files.
-/

namespace ArchAudit

/-- What can be read at a place, be it only a failure. -/
def Occupant.source? : Occupant → Option Source
  | .nothing => none
  | .folder => some ⟨[], some .isDirectory⟩
  | .file content => some content

/-- Two attempts with the same result, if any, both succeed with it or both fail. -/
theorem cases_of_toOption_eq
    {ε α : Type} {first second : Except ε α}
    (same : first.toOption = second.toOption) :
    (∃ result, first = .ok result ∧ second = .ok result) ∨
      ∃ firstFailure secondFailure, first = .error firstFailure ∧ second = .error secondFailure := by
  cases first with
  | error firstFailure =>
      cases second with
      | error secondFailure => exact .inr ⟨firstFailure, secondFailure, rfl, rfl⟩
      | ok result => cases same
  | ok result =>
      cases second with
      | error secondFailure => cases same
      | ok other =>
          cases same
          exact .inl ⟨result, rfl, rfl⟩

namespace FileSystem

open Directory

/-! ## Reading -/

theorem read_of_resolve
    {system : FileSystem} {path : String} {names : List String}
    (resolved : system.resolve path = .ok names) :
    (system.read path).toOption = (system.root.occupant names).source? := by
  unfold read lookup occupant
  rw [resolved]
  cases found : system.root.at? names with
  | none => simp [found, Occupant.ofFound, Occupant.source?, Except.toOption]
  | some entry =>
      cases entry with
      | file content => simp [found, Occupant.ofFound, Occupant.source?, Except.toOption]
      | folder entries => simp [found, Occupant.ofFound, Occupant.source?, Except.toOption]

theorem read_of_unresolved
    {system : FileSystem} {path : String} {failure : FileError}
    (unresolved : system.resolve path = .error failure) :
    (system.read path).toOption = none := by
  simp only [read, lookup, unresolved, Except.toOption]

/-- A path that leads, in neither of two file systems, to a place where they may differ. -/
def Avoids
    (mayDiffer : List String → Prop)
    (first second : FileSystem)
    (path : String) :
    Prop :=
  ∀ names, first.resolve path = .ok names ∨ second.resolve path = .ok names → ¬ mayDiffer names

theorem Avoids.symm
    {mayDiffer : List String → Prop} {first second : FileSystem} {path : String}
    (avoids : Avoids mayDiffer first second path) :
    Avoids mayDiffer second first path :=
  fun names reached => avoids names reached.symm

theorem avoids_of_resolve
    {mayDiffer : List String → Prop} {first second : FileSystem}
    {path : String} {names : List String}
    (inFirst : first.resolve path = .ok names)
    (inSecond : second.resolve path = .ok names)
    (forbidden : ¬ mayDiffer names) :
    Avoids mayDiffer first second path := by
  intro reached reaches
  have isNames : reached = names := by
    rcases reaches with reachedFirst | reachedSecond
    · exact Except.ok.inj (reachedFirst.symm.trans inFirst)
    · exact Except.ok.inj (reachedSecond.symm.trans inSecond)
  rwa [isNames]

/-- Such a path gives the same to read in both, or cannot be opened in either. -/
theorem read_of_avoids
    {mayDiffer : List String → Prop} {first second : FileSystem} {path : String}
    (differ : DifferOnlyAt mayDiffer first second)
    (avoids : Avoids mayDiffer first second path) :
    (first.read path).toOption = (second.read path).toOption := by
  cases resolved : first.resolve path with
  | ok names =>
      have same := differ.root.occupant_eq (avoids names (.inl resolved))
      rw [read_of_resolve resolved, read_of_resolve (resolve_of_differ differ resolved same), same]
  | error failure =>
      cases resolvedThere : second.resolve path with
      | error failureThere =>
          rw [read_of_unresolved resolved, read_of_unresolved resolvedThere]
      | ok names =>
          have same := differ.root.occupant_eq (avoids names (.inr resolvedThere))
          have resolvedHere := resolve_of_differ differ.symm resolvedThere same.symm
          rw [resolved] at resolvedHere
          cases resolvedHere

/-! ## Writing -/

/-- A file can be written under a name in a directory: the path leads there, and no directory stands
under the name. -/
structure Writable
    (system : FileSystem)
    (path : String)
    (names : List String)
    (name : String) :
    Prop where
  faultless : pathFault? path = none
  reached : ∃ front,
    Path.pieces path = front ++ [name] ∧
      followAll system.root (system.origin path) front = .ok names
  named : isName name = true
  short : name.utf8ByteSize ≤ nameLimit
  isFolder : system.root.occupant names = .folder
  free : system.root.occupant (names ++ [name]) ≠ .folder

/-- The file system with a file under a name in a directory. -/
def withFile
    (system : FileSystem)
    (names : List String)
    (name : String)
    (content : Source) :
    FileSystem :=
  { system with root := Directory.putFile content name names system.root }

theorem differOnlyAt_withFile
    {system : FileSystem} {names : List String} {name : String}
    (isFolder : system.root.occupant names = .folder)
    (free : system.root.occupant (names ++ [name]) ≠ .folder)
    (content : Source) :
    DifferOnlyAt (· = names ++ [name]) system (system.withFile names name content) :=
  ⟨rfl, differOnlyAt_putFile isFolder free content⟩

theorem writeAt_of_folder
    {system : FileSystem} {start pieces names : List String} {entries : Directory}
    (followed : followAll system.root start pieces = .ok names)
    (found : system.root.at? names = some (.folder entries))
    (name : String) (slashed : Bool) (content : Source) :
    writeAt system start pieces name slashed content =
      if slashed then .error .isDirectory
      else if nameLimit < name.utf8ByteSize then .error .nameTooLong
      else if system.root.occupant (names ++ [name]) = .folder then .error .isDirectory
      else .ok (system.withFile names name content) := by
  rw [occupant_concat_of_folder found]
  simp only [writeAt, followed, found]
  cases entries.entry? name with
  | none => simp [Occupant.ofFound, withFile]
  | some held =>
      cases held with
      | file old => simp [Occupant.ofFound, withFile]
      | folder below => simp [Occupant.ofFound]

theorem writeAt_eq_ok_iff
    {system after : FileSystem} {start pieces : List String} {name : String} {slashed : Bool}
    {content : Source} :
    writeAt system start pieces name slashed content = .ok after ↔
      slashed = false ∧ name.utf8ByteSize ≤ nameLimit ∧
        ∃ names, followAll system.root start pieces = .ok names ∧
          system.root.occupant names = .folder ∧
          system.root.occupant (names ++ [name]) ≠ .folder ∧
          after = system.withFile names name content := by
  constructor
  · intro written
    cases followed : followAll system.root start pieces with
    | error failure => simp [writeAt, followed] at written
    | ok names =>
        cases found : system.root.at? names with
        | none => simp [writeAt, followed, found] at written
        | some entry =>
            cases entry with
            | file held => simp [writeAt, followed, found] at written
            | folder entries =>
                rw [writeAt_of_folder followed found] at written
                split_ifs at written with behindSlash tooLong occupied
                cases written
                exact ⟨Bool.eq_false_iff.mpr behindSlash, Nat.le_of_not_lt tooLong, names, rfl,
                  occupant_eq_folder_iff.mpr ⟨entries, found⟩, occupied, rfl⟩
  · rintro ⟨rfl, short, names, followed, isFolder, free, rfl⟩
    obtain ⟨entries, found⟩ := occupant_eq_folder_iff.mp isFolder
    rw [writeAt_of_folder followed found, if_neg (by simp), if_neg (Nat.not_lt.mpr short),
      if_neg free]

/-- The pieces without the empty ones at the end. -/
theorem pieces_unslashed
    {pieces : List String}
    (unslashed : pieces.getLast? ≠ some "") :
    (pieces.reverse.dropWhile fun piece => piece = "").reverse = pieces := by
  have shape : pieces.rdropWhile (fun piece => decide (piece = "")) = pieces := by
    rw [List.rdropWhile_eq_self_iff]
    intro nonempty isEmpty
    apply unslashed
    rw [List.getLast?_eq_some_getLast nonempty]
    exact congrArg some (of_decide_eq_true isEmpty)
  exact shape

/-- A write succeeds exactly where a file can be written, and then puts the file there. -/
theorem write_eq_ok_iff
    {system after : FileSystem} {path : String} {content : Source} :
    system.write path content = .ok after ↔
      ∃ names name, Writable system path names name ∧
        after = system.withFile names name content := by
  constructor
  · intro written
    unfold write at written
    cases fault : pathFault? path with
    | some cause => simp [fault] at written
    | none =>
        simp only [fault] at written
        split at written
        · contradiction
        · contradiction
        · next name noFault lastPiece =>
            split_ifs at written with named
            · obtain ⟨unslashed, short, names, followed, isFolder, free, rfl⟩ :=
                writeAt_eq_ok_iff.mp written
              have notSlashed : (Path.pieces path).getLast? ≠ some "" :=
                of_decide_eq_false unslashed
              rw [pieces_unslashed notSlashed] at lastPiece followed
              have pieces_eq : Path.pieces path = (Path.pieces path).dropLast ++ [name] :=
                (List.dropLast_append_getLast? name lastPiece).symm
              exact ⟨names, name,
                ⟨fault, ⟨_, pieces_eq, followed⟩, named, short, isFolder, free⟩, rfl⟩
            · split at written
              · cases written
              · cases written
  · rintro ⟨names, name, writable, rfl⟩
    obtain ⟨front, pieces_eq, followed⟩ := writable.reached
    have notEmpty := (isName_iff.mp writable.named).1
    have notSlashed : (Path.pieces path).getLast? ≠ some "" := by
      rw [pieces_eq, List.getLast?_concat]
      simpa using notEmpty
    unfold write
    simp only [writable.faultless, pieces_unslashed notSlashed]
    rw [pieces_eq, List.getLast?_concat, List.dropLast_concat]
    simp only [writable.named, if_true]
    rw [writeAt_eq_ok_iff]
    exact ⟨by simpa using notEmpty, writable.short, names, followed, writable.isFolder,
      writable.free, rfl⟩

theorem Writable.differOnlyAt
    {system : FileSystem} {path name : String} {names : List String}
    (writable : Writable system path names name) (content : Source) :
    DifferOnlyAt (· = names ++ [name]) system (system.withFile names name content) :=
  differOnlyAt_withFile writable.isFolder writable.free content

theorem Writable.occupant_withFile
    {system : FileSystem} {path name : String} {names : List String}
    (writable : Writable system path names name) (content : Source) :
    (system.withFile names name content).root.occupant (names ++ [name]) = .file content := by
  rw [withFile, occupant_putFile writable.isFolder writable.free, if_pos rfl]

/-- The path of a file that was written leads to that file. -/
theorem Writable.resolve_withFile
    {system : FileSystem} {path name : String} {names : List String}
    (writable : Writable system path names name) (content : Source) :
    (system.withFile names name content).resolve path = .ok (names ++ [name]) := by
  obtain ⟨front, pieces_eq, followed⟩ := writable.reached
  have differ := writable.differOnlyAt content
  have folderThere := differ.root.folder writable.isFolder
  have frontThere :
      followAll (system.withFile names name content).root (system.origin path) front =
        .ok names :=
    followAll_of_differ differ.root followed (writable.isFolder.trans folderThere.symm)
  have present :
      (system.withFile names name content).root.occupant (names ++ [name]) ≠ .nothing := by
    rw [writable.occupant_withFile]
    simp
  have step :
      follow (system.withFile names name content).root names name = .ok (names ++ [name]) :=
    follow_eq_ok_iff.mpr ⟨folderThere, .down writable.named writable.short present⟩
  rw [resolve_eq_ok_iff, pieces_eq]
  refine ⟨writable.faultless, followAll_append_eq_ok_iff.mpr ⟨names, frontThere, ?_⟩⟩
  exact followAll_cons_eq_ok_iff.mpr ⟨names ++ [name], step, rfl⟩

theorem Writable.read_withFile
    {system : FileSystem} {path name : String} {names : List String}
    (writable : Writable system path names name) (content : Source) :
    (system.withFile names name content).read path = .ok content := by
  have given :
      ((system.withFile names name content).read path).toOption =
        (Except.ok content : Except FileError Source).toOption := by
    rw [read_of_resolve (writable.resolve_withFile content), writable.occupant_withFile]
    rfl
  rcases cases_of_toOption_eq given with ⟨source, opened, same⟩ | ⟨_, _, _, failed⟩
  · rw [opened, same]
  · cases failed

/-- Whether a file can be written does not depend on other files. -/
theorem Writable.of_differ
    {mayDiffer : List String → Prop} {first second : FileSystem}
    {path name : String} {names : List String}
    (writable : Writable first path names name)
    (differ : DifferOnlyAt mayDiffer first second) :
    Writable second path names name := by
  obtain ⟨front, pieces_eq, followed⟩ := writable.reached
  have folderThere := differ.root.folder writable.isFolder
  have frontThere :=
    followAll_of_differ differ.root followed (writable.isFolder.trans folderThere.symm)
  rw [differ.origin_eq] at frontThere
  refine ⟨writable.faultless, ⟨front, pieces_eq, frontThere⟩, writable.named, writable.short,
    folderThere, ?_⟩
  intro occupied
  exact writable.free (differ.symm.root.folder occupied)

end FileSystem

end ArchAudit
