import ArchAudit.FileSystem.Basic

/-!
# Places in a tree of directories

A tree is described by what stands at each place in it: nothing, a directory, or a file with its
content.  In these terms two trees can be compared whatever the order of their entries, and putting
a file into a directory changes one place and no other.  In a well-formed tree the entries of a
directory have names of their own.
-/

namespace ArchAudit

/-- What stands at a place. -/
inductive Occupant where
  | nothing
  | folder
  | file (content : Source)
deriving DecidableEq, Repr

def Occupant.ofFound : Option Entry → Occupant
  | none => nothing
  | some (.folder _) => folder
  | some (.file content) => file content

namespace Directory

/-- What stands at the place that a list of names leads to. -/
def occupant (directory : Directory) (names : List String) : Occupant :=
  .ofFound (directory.at? names)

/-- Two trees that differ in files only, and only where they may: at such a place one of them can
hold a file and the other one none, or another one. -/
def DifferOnlyAt (mayDiffer : List String → Prop) (first second : Directory) : Prop :=
  ∀ names,
    first.occupant names = second.occupant names ∨
      (mayDiffer names ∧ first.occupant names ≠ .folder ∧ second.occupant names ≠ .folder)

theorem DifferOnlyAt.symm
    {mayDiffer : List String → Prop} {first second : Directory}
    (differ : DifferOnlyAt mayDiffer first second) :
    DifferOnlyAt mayDiffer second first := by
  intro names
  rcases differ names with same | ⟨allowed, firstPlain, secondPlain⟩
  · exact .inl same.symm
  · exact .inr ⟨allowed, secondPlain, firstPlain⟩

theorem DifferOnlyAt.occupant_eq
    {mayDiffer : List String → Prop} {first second : Directory} {names : List String}
    (differ : DifferOnlyAt mayDiffer first second)
    (forbidden : ¬ mayDiffer names) :
    first.occupant names = second.occupant names := by
  rcases differ names with same | ⟨allowed, _⟩
  · exact same
  · exact (forbidden allowed).elim

theorem DifferOnlyAt.folder
    {mayDiffer : List String → Prop} {first second : Directory} {names : List String}
    (differ : DifferOnlyAt mayDiffer first second)
    (isFolder : first.occupant names = .folder) :
    second.occupant names = .folder := by
  rcases differ names with same | ⟨_, firstPlain, _⟩
  · rw [← same]
    exact isFolder
  · exact (firstPlain isFolder).elim

/-! ## Lookups below a directory -/

theorem occupant_eq_folder_iff {directory : Directory} {names : List String} :
    directory.occupant names = .folder ↔
      ∃ entries, directory.at? names = some (.folder entries) := by
  unfold occupant
  cases directory.at? names with
  | none => simp [Occupant.ofFound]
  | some entry =>
      cases entry with
      | file content => simp [Occupant.ofFound]
      | folder entries => simp [Occupant.ofFound]

@[simp]
theorem occupant_nil (directory : Directory) : directory.occupant [] = .folder := by
  simp [occupant, at?, Occupant.ofFound]

theorem at?_cons_of_folder
    {directory entries : Directory} {name : String}
    (found : directory.entry? name = some (.folder entries))
    (names : List String) :
    directory.at? (name :: names) = entries.at? names := by
  rw [at?, found]

theorem at?_cons_of_file
    {directory : Directory} {content : Source} {name : String}
    (found : directory.entry? name = some (.file content))
    (names : List String) :
    directory.at? (name :: names) = if names.isEmpty then some (.file content) else none := by
  rw [at?, found]

theorem at?_cons_of_none
    {directory : Directory} {name : String}
    (found : directory.entry? name = none)
    (names : List String) :
    directory.at? (name :: names) = none := by
  rw [at?, found]

/-- What a directory holds under a name decides everything below that name. -/
theorem occupant_cons_of_entry?_eq
    {first second : Directory} {name : String}
    (same : first.entry? name = second.entry? name)
    (names : List String) :
    first.occupant (name :: names) = second.occupant (name :: names) := by
  rw [occupant, occupant, at?, at?, same]

theorem occupant_cons_of_folder
    {directory entries : Directory} {name : String}
    (found : directory.entry? name = some (.folder entries))
    (names : List String) :
    directory.occupant (name :: names) = entries.occupant names := by
  rw [occupant, at?_cons_of_folder found, occupant]

theorem occupant_cons_of_file
    {directory : Directory} {content : Source} {name : String}
    (found : directory.entry? name = some (.file content))
    (names : List String) :
    directory.occupant (name :: names) = if names = [] then .file content else .nothing := by
  rw [occupant, at?_cons_of_file found]
  cases names with
  | nil => rfl
  | cons next others => rfl

theorem occupant_cons_of_none
    {directory : Directory} {name : String}
    (found : directory.entry? name = none)
    (names : List String) :
    directory.occupant (name :: names) = .nothing := by
  rw [occupant, at?_cons_of_none found, Occupant.ofFound]

/-- A place in a directory that is found under a name. -/
theorem exists_folder_of_at?_cons
    {directory entries : Directory} {name : String} {names : List String}
    (found : directory.at? (name :: names) = some (.folder entries)) :
    ∃ below, directory.entry? name = some (.folder below) ∧
      below.at? names = some (.folder entries) := by
  cases entry : directory.entry? name with
  | none =>
      rw [at?_cons_of_none entry] at found
      exact absurd found (by simp)
  | some held =>
      cases held with
      | file content =>
          rw [at?_cons_of_file entry] at found
          split at found <;> simp at found
      | folder below =>
          rw [at?_cons_of_folder entry] at found
          exact ⟨below, rfl, found⟩

theorem at?_append_of_folder
    {directory entries : Directory} {front : List String}
    (found : directory.at? front = some (.folder entries))
    (rest : List String) :
    directory.at? (front ++ rest) = entries.at? rest := by
  induction front generalizing directory with
  | nil =>
      rw [at?] at found
      cases found
      rfl
  | cons name names inductionHypothesis =>
      obtain ⟨below, entry, foundBelow⟩ := exists_folder_of_at?_cons found
      rw [List.cons_append, at?_cons_of_folder entry]
      exact inductionHypothesis foundBelow

theorem occupant_append_of_folder
    {directory entries : Directory} {front : List String}
    (found : directory.at? front = some (.folder entries))
    (rest : List String) :
    directory.occupant (front ++ rest) = entries.occupant rest := by
  rw [occupant, at?_append_of_folder found, occupant]

theorem at?_singleton (directory : Directory) (name : String) :
    directory.at? [name] = directory.entry? name := by
  cases entry : directory.entry? name with
  | none => exact at?_cons_of_none entry []
  | some held =>
      cases held with
      | file content => exact at?_cons_of_file entry []
      | folder entries => rw [at?_cons_of_folder entry, at?]

theorem occupant_concat_of_folder
    {directory entries : Directory} {front : List String}
    (found : directory.at? front = some (.folder entries))
    (name : String) :
    directory.occupant (front ++ [name]) = .ofFound (entries.entry? name) := by
  rw [occupant_append_of_folder found, occupant, at?_singleton]

/-- Trees that differ below a directory only, seen from that directory. -/
theorem DifferOnlyAt.below
    {mayDiffer : List String → Prop} {first second firstEntries secondEntries : Directory}
    {front : List String}
    (differ : DifferOnlyAt mayDiffer first second)
    (firstFound : first.at? front = some (.folder firstEntries))
    (secondFound : second.at? front = some (.folder secondEntries)) :
    DifferOnlyAt (fun names => mayDiffer (front ++ names)) firstEntries secondEntries := by
  intro names
  rw [← occupant_append_of_folder firstFound, ← occupant_append_of_folder secondFound]
  exact differ (front ++ names)

/-! ## Putting a file into a tree -/

theorem entry?_setFile (directory : Directory) (wanted : String) (source : Source)
    (name : String) :
    entry? (directory.setFile wanted source) name =
      if name = wanted then some (.file source) else directory.entry? name := by
  induction directory with
  | empty =>
      by_cases same : name = wanted
      · simp [setFile, entry?, same]
      · simp [setFile, entry?, same, Ne.symm same]
  | file other content others inductionHypothesis =>
      by_cases replaced : other = wanted
      · subst replaced
        by_cases same : other = name
        · simp [setFile, entry?, same]
        · simp [setFile, entry?, same, Ne.symm same]
      · by_cases same : other = name
        · subst same
          simp [setFile, entry?, replaced]
        · simp [setFile, entry?, replaced, same, inductionHypothesis]
  | folder other entries others _ inductionHypothesis =>
      by_cases replaced : other = wanted
      · subst replaced
        by_cases same : other = name
        · simp [setFile, entry?, same]
        · simp [setFile, entry?, same, Ne.symm same]
      · by_cases same : other = name
        · subst same
          simp [setFile, entry?, replaced]
        · simp [setFile, entry?, replaced, same, inductionHypothesis]

theorem entry?_changeFolder_of_ne
    {wanted name : String}
    (different : name ≠ wanted)
    (change : Directory → Directory) (directory : Directory) :
    entry? (changeFolder change directory wanted) name = directory.entry? name := by
  induction directory with
  | empty => simp [changeFolder, entry?, different.symm]
  | file other content others inductionHypothesis =>
      by_cases changed : other = wanted
      · subst changed
        simp [changeFolder, entry?, different.symm]
      · simp [changeFolder, entry?, changed, inductionHypothesis]
  | folder other entries others _ inductionHypothesis =>
      by_cases changed : other = wanted
      · subst changed
        simp [changeFolder, entry?, different.symm]
      · simp [changeFolder, entry?, changed, inductionHypothesis]

theorem entry?_changeFolder_self
    {directory entries : Directory} {wanted : String}
    (found : directory.entry? wanted = some (.folder entries))
    (change : Directory → Directory) :
    entry? (changeFolder change directory wanted) wanted = some (.folder (change entries)) := by
  induction directory with
  | empty => simp [ entry?] at found
  | file other content others inductionHypothesis =>
      by_cases same : other = wanted
      · simp [ entry?, same] at found
      · simp only [ entry?, if_neg same] at found
        simp only [changeFolder, entry?, if_neg same]
        exact inductionHypothesis found
  | folder other below others _ inductionHypothesis =>
      by_cases same : other = wanted
      · simp only [ entry?, if_pos same, Option.some.injEq, Entry.folder.injEq] at found
        simp [changeFolder, entry?, same, found]
      · simp only [ entry?, if_neg same] at found
        simp only [changeFolder, entry?, if_neg same]
        exact inductionHypothesis found

theorem occupant_setFile
    {directory : Directory} {wanted : String}
    (free : directory.occupant [wanted] ≠ .folder)
    (source : Source) (names : List String) :
    (directory.setFile wanted source).occupant names =
      if names = [wanted] then .file source else directory.occupant names := by
  cases names with
  | nil => simp
  | cons name rest =>
      by_cases same : name = wanted
      · subst same
        have put : entry? (directory.setFile name source) name = some (.file source) := by
          rw [entry?_setFile, if_pos rfl]
        rw [occupant_cons_of_file put]
        by_cases atEnd : rest = []
        · simp [atEnd]
        · -- a file stood here or nothing did, so there was nothing below either
          have nothingBelow : directory.occupant (name :: rest) = .nothing := by
            cases entry : directory.entry? name with
            | none => exact occupant_cons_of_none entry rest
            | some held =>
                cases held with
                | file content => rw [occupant_cons_of_file entry, if_neg atEnd]
                | folder entries =>
                    rw [occupant_cons_of_folder entry] at free
                    exact (free (occupant_nil entries)).elim
          simp [atEnd, nothingBelow]
      · have kept : entry? (directory.setFile wanted source) name = directory.entry? name := by
          rw [entry?_setFile, if_neg same]
        rw [occupant_cons_of_entry?_eq kept, if_neg (by simp [same])]

/-- A file that is put into a directory stands there, and all other places stay as they are. -/
theorem occupant_putFile
    {directory : Directory} {folderNames : List String} {name : String}
    (isFolder : directory.occupant folderNames = .folder)
    (free : directory.occupant (folderNames ++ [name]) ≠ .folder)
    (source : Source) (names : List String) :
    (putFile source name folderNames directory).occupant names =
      if names = folderNames ++ [name] then .file source else directory.occupant names := by
  induction folderNames generalizing directory names with
  | nil =>
      rw [List.nil_append] at free
      rw [List.nil_append, putFile]
      exact occupant_setFile free source names
  | cons folderName others inductionHypothesis =>
      obtain ⟨entries, found⟩ := occupant_eq_folder_iff.mp isFolder
      obtain ⟨below, entry, foundBelow⟩ := exists_folder_of_at?_cons found
      rw [List.cons_append, occupant_cons_of_folder entry] at free
      rw [putFile, List.cons_append]
      cases names with
      | nil => simp
      | cons first rest =>
          by_cases same : first = folderName
          · subst same
            have changed :=
              entry?_changeFolder_self entry (putFile source name others)
            rw [occupant_cons_of_folder changed, occupant_cons_of_folder entry,
              inductionHypothesis (occupant_eq_folder_iff.mpr ⟨entries, foundBelow⟩) free]
            simp
          · have kept :=
              entry?_changeFolder_of_ne same (putFile source name others) directory
            rw [occupant_cons_of_entry?_eq kept, if_neg (by simp [same])]

theorem differOnlyAt_putFile
    {directory : Directory} {folderNames : List String} {name : String}
    (isFolder : directory.occupant folderNames = .folder)
    (free : directory.occupant (folderNames ++ [name]) ≠ .folder)
    (source : Source) :
    DifferOnlyAt (· = folderNames ++ [name]) directory
      (putFile source name folderNames directory) := by
  intro names
  rw [occupant_putFile isFolder free]
  by_cases same : names = folderNames ++ [name]
  · subst same
    right
    rw [if_pos rfl]
    exact ⟨rfl, free, by simp⟩
  · left
    rw [if_neg same]

/-! ## Well-formed trees -/

/-- A name that an entry can have: it stands for one piece of a path, and for an entry of its own. -/
def IsEntryName (name : String) : Prop :=
  FileSystem.isName name = true ∧ '/' ∉ name.toList

instance : DecidablePred IsEntryName :=
  fun name => inferInstanceAs (Decidable (FileSystem.isName name = true ∧ '/' ∉ name.toList))

/-- The entries of each directory have names, and no two of them the same. -/
def WellFormed : Directory → Prop
  | empty => True
  | file name _ others => IsEntryName name ∧ others.entry? name = none ∧ others.WellFormed
  | folder name entries others =>
    IsEntryName name ∧ others.entry? name = none ∧ entries.WellFormed ∧ others.WellFormed

/-- Well-formedness can be checked. -/
def decideWellFormed : (directory : Directory) → Decidable directory.WellFormed
  | empty => inferInstanceAs (Decidable True)
  | file name _ others =>
    have := decideWellFormed others
    inferInstanceAs
      (Decidable (IsEntryName name ∧ others.entry? name = none ∧ others.WellFormed))
  | folder name entries others =>
    have := decideWellFormed entries
    have := decideWellFormed others
    inferInstanceAs
      (Decidable
        (IsEntryName name ∧ others.entry? name = none ∧ entries.WellFormed ∧ others.WellFormed))

instance : DecidablePred WellFormed :=
  decideWellFormed

theorem WellFormed.entry
    {directory : Directory} {name : String} {entry : Entry}
    (wellFormed : directory.WellFormed)
    (found : directory.entry? name = some entry) :
    IsEntryName name ∧ ∀ entries, entry = .folder entries → entries.WellFormed := by
  induction directory with
  | empty => simp [ entry?] at found
  | file other content others inductionHypothesis =>
      obtain ⟨named, _, othersWellFormed⟩ := wellFormed
      by_cases same : other = name
      · subst same
        simp only [ entry?, if_true, Option.some.injEq] at found
        subst found
        exact ⟨named, fun entries isFolder => by cases isFolder⟩
      · simp only [ entry?, if_neg same] at found
        exact inductionHypothesis othersWellFormed found
  | folder other below others _ inductionHypothesis =>
      obtain ⟨named, _, belowWellFormed, othersWellFormed⟩ := wellFormed
      by_cases same : other = name
      · subst same
        simp only [ entry?, if_true, Option.some.injEq] at found
        subst found
        exact ⟨named, fun entries isFolder => by cases isFolder; exact belowWellFormed⟩
      · simp only [ entry?, if_neg same] at found
        exact inductionHypothesis othersWellFormed found

theorem WellFormed.at?
    {directory entries : Directory} {names : List String}
    (wellFormed : directory.WellFormed)
    (found : directory.at? names = some (.folder entries)) :
    entries.WellFormed := by
  induction names generalizing directory with
  | nil =>
      rw [Directory.at?] at found
      cases found
      exact wellFormed
  | cons name others inductionHypothesis =>
      obtain ⟨below, entry, foundBelow⟩ := exists_folder_of_at?_cons found
      exact inductionHypothesis ((wellFormed.entry entry).2 below rfl) foundBelow

/-- The names that lead to something are names of entries. -/
theorem WellFormed.named
    {directory : Directory} {names : List String}
    (wellFormed : directory.WellFormed)
    (present : directory.occupant names ≠ .nothing) :
    ∀ name ∈ names, IsEntryName name := by
  induction names generalizing directory with
  | nil => simp
  | cons first others inductionHypothesis =>
      intro name member
      cases found : directory.entry? first with
      | none =>
          rw [occupant_cons_of_none found] at present
          exact (present rfl).elim
      | some held =>
          obtain ⟨firstNamed, belowWellFormed⟩ := wellFormed.entry found
          rcases List.mem_cons.mp member with isFirst | isLater
          · rw [isFirst]
            exact firstNamed
          · cases held with
            | file content =>
                rw [occupant_cons_of_file found, if_neg (List.ne_nil_of_mem isLater)] at present
                exact (present rfl).elim
            | folder entries =>
                rw [occupant_cons_of_folder found] at present
                exact inductionHypothesis (belowWellFormed entries rfl) present name isLater

end Directory

end ArchAudit
