import ArchAudit.FileSystem.Basic
import ArchAudit.Proofs.Places
import ArchAudit.Proofs.Splitting

/-!
# Following paths

A path is followed from directory to directory.  Where it leads depends on what stands at the places
on the way and on nothing else, so a path leads to the same place in two trees that differ in files
elsewhere.
-/

namespace ArchAudit

/-! ## The pieces of a path -/

namespace Path

theorem pieces_append_slash (first second : String) :
    pieces (first ++ "/" ++ second) = pieces first ++ pieces second := by
  rw [pieces, Text.splitText, String.toList_append, String.toList_append, List.append_assoc,
    show "/".toList = ['/'] from rfl, List.singleton_append, Text.splitList_append_cons,
    List.map_append]
  rfl

theorem pieces_ofNames
    {names : List String}
    (nonempty : names ≠ [])
    (slashless : ∀ name ∈ names, '/' ∉ name.toList) :
    pieces (ofNames names) = names :=
  Text.splitText_intercalate rfl nonempty slashless

/-- A path below a directory begins with the pieces of the directory's path, but for an empty one
behind a slash at the end. -/
theorem pieces_below
    {names : List String}
    (nonempty : names ≠ [])
    (slashless : ∀ name ∈ names, '/' ∉ name.toList)
    (path : String) :
    ∃ front, pieces (below path names) = front ++ names ∧
      (pieces path = front ∨ pieces path = front ++ [""]) := by
  have below_names := pieces_ofNames nonempty slashless
  by_cases slashed : path.toList.getLast? = some '/'
  · obtain ⟨folder, rfl⟩ : ∃ folder : String, path = folder ++ "/" := by
      refine ⟨String.ofList path.toList.dropLast, ?_⟩
      rw [← String.toList_inj, String.toList_append, String.toList_ofList]
      exact (List.dropLast_append_getLast? '/' slashed).symm
    refine ⟨pieces folder, ?_, .inr ?_⟩
    · rw [below, if_pos slashed, pieces_append_slash, below_names]
    · have behind := pieces_append_slash folder ""
      rwa [String.append_empty] at behind
  · refine ⟨pieces path, ?_, .inl rfl⟩
    rw [below, if_neg slashed, pieces_append_slash, below_names]

theorem isAbsolute_append
    {path : String}
    (nonempty : path ≠ "")
    (behind : String) :
    isAbsolute (path ++ behind) = isAbsolute path := by
  have listNonempty : path.toList ≠ [] := by
    intro isNil
    exact nonempty (String.toList_eq_nil_iff.mp isNil)
  rw [isAbsolute, isAbsolute, String.toList_append, List.head?_append_of_ne_nil _ listNonempty]

theorem isAbsolute_below
    {path : String}
    (nonempty : path ≠ "")
    (names : List String) :
    isAbsolute (below path names) = isAbsolute path := by
  unfold below
  split
  · exact isAbsolute_append nonempty _
  · rw [String.append_assoc]
    exact isAbsolute_append nonempty _

end Path

namespace FileSystem

open Directory

/-! ## Following pieces -/

/-- Where a piece of a path leads from a directory. -/
inductive Leads (root : Directory) (names : List String) : String → List String → Prop
  | stay {piece : String} :
      piece = "" ∨ piece = "." →
      Leads root names piece names
  | up {piece : String} :
      piece = ".." →
      Leads root names piece names.dropLast
  | down {piece : String} :
      isName piece = true →
      piece.utf8ByteSize ≤ nameLimit →
      root.occupant (names ++ [piece]) ≠ .nothing →
      Leads root names piece (names ++ [piece])

theorem isName_iff {piece : String} :
    isName piece = true ↔ piece ≠ "" ∧ piece ≠ "." ∧ piece ≠ ".." := by
  simp [isName, and_assoc]

theorem follow_of_folder
    {root entries : Directory} {names : List String}
    (found : root.at? names = some (.folder entries))
    (piece : String) :
    follow root names piece =
      if piece = "" ∨ piece = "." then .ok names
      else if piece = ".." then .ok names.dropLast
      else if nameLimit < piece.utf8ByteSize then .error .nameTooLong
      else if root.occupant (names ++ [piece]) ≠ .nothing then .ok (names ++ [piece])
      else .error .notFound := by
  have present :
      (entries.entry? piece).isSome = true ↔ root.occupant (names ++ [piece]) ≠ .nothing := by
    rw [occupant_concat_of_folder found]
    cases entries.entry? piece with
    | none => simp [Occupant.ofFound]
    | some held =>
        cases held with
        | file content => simp [Occupant.ofFound]
        | folder below => simp [Occupant.ofFound]
  simp only [follow, found, present]

/-- A piece can be followed from a directory, to the place where it leads. -/
theorem follow_eq_ok_iff
    {root : Directory} {names next : List String} {piece : String} :
    follow root names piece = .ok next ↔
      root.occupant names = .folder ∧ Leads root names piece next := by
  constructor
  · intro followed
    cases found : root.at? names with
    | none => simp [follow, found] at followed
    | some entry =>
        cases entry with
        | file content => simp [follow, found] at followed
        | folder entries =>
            refine ⟨occupant_eq_folder_iff.mpr ⟨entries, found⟩, ?_⟩
            rw [follow_of_folder found] at followed
            split_ifs at followed with stays goesUp tooLong present
            · cases followed
              exact .stay stays
            · cases followed
              exact .up goesUp
            · cases followed
              rw [not_or] at stays
              exact .down (isName_iff.mpr ⟨stays.1, stays.2, goesUp⟩) (Nat.le_of_not_lt tooLong)
                present
  · rintro ⟨isFolder, leads⟩
    obtain ⟨entries, found⟩ := occupant_eq_folder_iff.mp isFolder
    rw [follow_of_folder found]
    cases leads with
    | stay stays => rw [if_pos stays]
    | up goesUp =>
        subst goesUp
        simp
    | down named short present =>
        obtain ⟨notEmpty, notDot, notDots⟩ := isName_iff.mp named
        rw [if_neg (by simp [notEmpty, notDot]), if_neg notDots, if_neg (Nat.not_lt.mpr short),
          if_pos present]

theorem followAll_cons_eq_ok_iff
    {root : Directory} {names last : List String} {piece : String} {pieces : List String} :
    followAll root names (piece :: pieces) = .ok last ↔
      ∃ next, follow root names piece = .ok next ∧ followAll root next pieces = .ok last := by
  rw [followAll]
  cases follow root names piece with
  | error failure => simp
  | ok next => simp

theorem followAll_append_eq_ok_iff
    {root : Directory} {names last : List String} {front rest : List String} :
    followAll root names (front ++ rest) = .ok last ↔
      ∃ middle, followAll root names front = .ok middle ∧ followAll root middle rest = .ok last := by
  induction front generalizing names with
  | nil => simp [followAll]
  | cons piece pieces inductionHypothesis =>
      rw [List.cons_append, followAll_cons_eq_ok_iff]
      constructor
      · rintro ⟨next, followed, others⟩
        obtain ⟨middle, toMiddle, fromMiddle⟩ := inductionHypothesis.mp others
        exact ⟨middle, followAll_cons_eq_ok_iff.mpr ⟨next, followed, toMiddle⟩, fromMiddle⟩
      · rintro ⟨middle, toMiddle, fromMiddle⟩
        obtain ⟨next, followed, others⟩ := followAll_cons_eq_ok_iff.mp toMiddle
        exact ⟨next, followed, inductionHypothesis.mpr ⟨middle, others, fromMiddle⟩⟩

/-- Names of entries lead down, one after the other. -/
theorem followAll_names
    {root : Directory} {names last : List String} {pieces : List String}
    (named : ∀ piece ∈ pieces, isName piece = true)
    (followed : followAll root names pieces = .ok last) :
    last = names ++ pieces := by
  induction pieces generalizing names with
  | nil =>
      rw [followAll] at followed
      cases followed
      rw [List.append_nil]
  | cons piece others inductionHypothesis =>
      obtain ⟨next, step, rest⟩ := followAll_cons_eq_ok_iff.mp followed
      have isNext : next = names ++ [piece] := by
        obtain ⟨notEmpty, notDot, notDots⟩ :=
          isName_iff.mp (named piece List.mem_cons_self)
        cases (follow_eq_ok_iff.mp step).2 with
        | stay stays =>
            rcases stays with isEmpty | isDot
            · exact (notEmpty isEmpty).elim
            · exact (notDot isDot).elim
        | up goesUp => exact (notDots goesUp).elim
        | down _ _ _ => rfl
      subst isNext
      have namedOthers : ∀ piece ∈ others, isName piece = true :=
        fun other member => named other (List.mem_cons_of_mem piece member)
      rw [inductionHypothesis namedOthers rest, List.append_assoc, List.singleton_append]

/-! ## Paths in two trees -/

/-- In trees that differ in files only, a path leads to the same place in both if the same stands at
that place. -/
theorem followAll_of_differ
    {mayDiffer : List String → Prop} {first second : Directory}
    {names last : List String} {pieces : List String}
    (differ : DifferOnlyAt mayDiffer first second)
    (followed : followAll first names pieces = .ok last)
    (same : first.occupant last = second.occupant last) :
    followAll second names pieces = .ok last := by
  induction pieces generalizing names with
  | nil => exact followed
  | cons piece others inductionHypothesis =>
      obtain ⟨next, step, rest⟩ := followAll_cons_eq_ok_iff.mp followed
      obtain ⟨isFolder, leads⟩ := follow_eq_ok_iff.mp step
      have leadsThere : Leads second names piece next := by
        cases leads with
        | stay stays => exact .stay stays
        | up goesUp => exact .up goesUp
        | down named short present =>
            -- a place on the way is a directory; the last place is the same in both trees
            have sameNext :
                first.occupant (names ++ [piece]) = second.occupant (names ++ [piece]) := by
              cases others with
              | nil =>
                  rw [followAll] at rest
                  cases rest
                  exact same
              | cons following later =>
                  obtain ⟨_, nextStep, _⟩ := followAll_cons_eq_ok_iff.mp rest
                  have nextFolder := (follow_eq_ok_iff.mp nextStep).1
                  rw [nextFolder, differ.folder nextFolder]
            rw [sameNext] at present
            exact .down named short present
      have stepThere : follow second names piece = .ok next :=
        follow_eq_ok_iff.mpr ⟨differ.folder isFolder, leadsThere⟩
      exact followAll_cons_eq_ok_iff.mpr ⟨next, stepThere, inductionHypothesis rest⟩

/-- Two file systems that differ in files only, and only where they may. -/
structure DifferOnlyAt (mayDiffer : List String → Prop) (first second : FileSystem) : Prop where
  workingDirectory : first.workingDirectory = second.workingDirectory
  root : Directory.DifferOnlyAt mayDiffer first.root second.root

theorem DifferOnlyAt.symm
    {mayDiffer : List String → Prop} {first second : FileSystem}
    (differ : DifferOnlyAt mayDiffer first second) :
    DifferOnlyAt mayDiffer second first :=
  ⟨differ.workingDirectory.symm, differ.root.symm⟩

theorem DifferOnlyAt.origin_eq
    {mayDiffer : List String → Prop} {first second : FileSystem}
    (differ : DifferOnlyAt mayDiffer first second) (path : String) :
    first.origin path = second.origin path := by
  rw [origin, origin, differ.workingDirectory]

theorem resolve_eq_ok_iff
    {system : FileSystem} {path : String} {names : List String} :
    system.resolve path = .ok names ↔
      pathFault? path = none ∧
        followAll system.root (system.origin path) (Path.pieces path) = .ok names := by
  unfold resolve
  cases pathFault? path with
  | none => simp
  | some fault => simp

theorem resolve_of_differ
    {mayDiffer : List String → Prop} {first second : FileSystem}
    {path : String} {names : List String}
    (differ : DifferOnlyAt mayDiffer first second)
    (resolved : first.resolve path = .ok names)
    (same : first.root.occupant names = second.root.occupant names) :
    second.resolve path = .ok names := by
  obtain ⟨faultless, followed⟩ := resolve_eq_ok_iff.mp resolved
  rw [differ.origin_eq] at followed
  exact resolve_eq_ok_iff.mpr ⟨faultless, followAll_of_differ differ.root followed same⟩

/-! ## Paths below a directory -/

/-- An empty piece leads nowhere else. -/
theorem followAll_empty
    {root : Directory} {names last : List String}
    (followed : followAll root names [""] = .ok last) :
    last = names := by
  obtain ⟨next, step, rest⟩ := followAll_cons_eq_ok_iff.mp followed
  rw [followAll] at rest
  cases rest
  cases (follow_eq_ok_iff.mp step).2 with
  | stay _ => rfl
  | up goesUp => exact absurd goesUp (by decide)
  | down named _ _ => exact absurd rfl (isName_iff.mp named).1

/-- A path below a directory leads to the place below it, if it leads anywhere. -/
theorem resolve_below
    {system : FileSystem} {path : String} {base names last : List String}
    (pathNonempty : path ≠ "")
    (resolved : system.resolve path = .ok base)
    (nonempty : names ≠ [])
    (named : ∀ name ∈ names, IsEntryName name)
    (resolvedBelow : system.resolve (Path.below path names) = .ok last) :
    last = base ++ names := by
  obtain ⟨_, followed⟩ := resolve_eq_ok_iff.mp resolved
  obtain ⟨_, followedBelow⟩ := resolve_eq_ok_iff.mp resolvedBelow
  obtain ⟨front, pieces_eq, frontOf⟩ :=
    Path.pieces_below nonempty (fun name member => (named name member).2) path
  rw [origin, Path.isAbsolute_below pathNonempty, ← origin, pieces_eq] at followedBelow
  obtain ⟨middle, toMiddle, fromMiddle⟩ := followAll_append_eq_ok_iff.mp followedBelow
  have atBase : middle = base := by
    rcases frontOf with isFront | isSlashed
    · rw [isFront, toMiddle] at followed
      exact Except.ok.inj followed
    · rw [isSlashed] at followed
      obtain ⟨place, toPlace, stays⟩ := followAll_append_eq_ok_iff.mp followed
      rw [toMiddle] at toPlace
      cases toPlace
      exact (followAll_empty stays).symm
  subst atBase
  exact followAll_names (fun name member => (named name member).1) fromMiddle

end FileSystem

end ArchAudit
