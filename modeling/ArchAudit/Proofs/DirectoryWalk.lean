import ArchAudit.FileSystem.Walk
import ArchAudit.Proofs.Places
import Mathlib.Data.List.Basic
import Mathlib.Data.List.Nodup

/-!
# What a walk collects

The files that a walk collects are described by what stands at each place of the tree, without the
recursion of the walk: a wanted file is collected unless a directory on the way to it is left out or
the walk does not go so deep.  Each file is collected once, and the order of the result is that of
the paths, so trees that agree place by place give the same result.
-/

namespace ArchAudit

/-! ## The order of paths -/

namespace Path

theorem compareNames_eq_iff {first second : List Char} :
    compareNames first second = .eq ↔ first = second := by
  induction first generalizing second with
  | nil =>
      cases second with
      | nil => simp [compareNames]
      | cons b bs => simp [compareNames]
  | cons a as inductionHypothesis =>
      cases second with
      | nil => simp [compareNames]
      | cons b bs =>
          rw [compareNames]
          by_cases less : a.toNat < b.toNat
          · have different : a ≠ b := fun same => absurd less (by simp [same])
            simp [less, different]
          · by_cases greater : b.toNat < a.toNat
            · have different : a ≠ b := fun same => absurd greater (by simp [same])
              simp [less, greater, different]
            · have same : a = b := Char.toNat_inj.mp (by omega)
              simp [same, inductionHypothesis]

theorem compareNames_swap (first second : List Char) :
    (compareNames first second).swap = compareNames second first := by
  induction first generalizing second with
  | nil =>
      cases second with
      | nil => rfl
      | cons b bs => rfl
  | cons a as inductionHypothesis =>
      cases second with
      | nil => rfl
      | cons b bs =>
          rw [compareNames, compareNames]
          by_cases less : a.toNat < b.toNat
          · have notGreater : ¬ b.toNat < a.toNat := by omega
            simp [less, notGreater]
          · by_cases greater : b.toNat < a.toNat
            · simp [less, greater]
            · simp [less, greater, inductionHypothesis]

theorem compareNames_cons_eq_lt_iff {a b : Char} {as bs : List Char} :
    compareNames (a :: as) (b :: bs) = .lt ↔
      a.toNat < b.toNat ∨ a.toNat = b.toNat ∧ compareNames as bs = .lt := by
  rw [compareNames]
  by_cases less : a.toNat < b.toNat
  · simp [less]
  · by_cases greater : b.toNat < a.toNat
    · have different : a.toNat ≠ b.toNat := by omega
      simp [less, greater, different]
    · have same : a.toNat = b.toNat := by omega
      simp [same]

theorem compareNames_lt_trans
    {first second third : List Char}
    (firstLess : compareNames first second = .lt)
    (secondLess : compareNames second third = .lt) :
    compareNames first third = .lt := by
  induction first generalizing second third with
  | nil =>
      cases third with
      | nil =>
          cases second with
          | nil => exact firstLess
          | cons b bs => simp [compareNames] at secondLess
      | cons c cs => rfl
  | cons a as inductionHypothesis =>
      cases second with
      | nil => simp [compareNames] at firstLess
      | cons b bs =>
          cases third with
          | nil => simp [compareNames] at secondLess
          | cons c cs =>
              rw [compareNames_cons_eq_lt_iff] at firstLess secondLess ⊢
              rcases firstLess with less | ⟨same, asLess⟩
              · rcases secondLess with alsoLess | ⟨alsoSame, _⟩
                · exact .inl (Nat.lt_trans less alsoLess)
                · exact .inl (alsoSame ▸ less)
              · rcases secondLess with alsoLess | ⟨alsoSame, bsLess⟩
                · exact .inl (same ▸ alsoLess)
                · exact .inr ⟨same.trans alsoSame, inductionHypothesis asLess bsLess⟩

theorem le_antisymm
    {first second : List String}
    (forward : le first second = true)
    (backward : le second first = true) :
    first = second := by
  induction first generalizing second with
  | nil =>
      cases second with
      | nil => rfl
      | cons b bs => simp [le] at backward
  | cons a as inductionHypothesis =>
      cases second with
      | nil => simp [le] at forward
      | cons b bs =>
          rw [le] at forward backward
          rw [← compareNames_swap] at backward
          cases order : compareNames a.toList b.toList with
          | lt => simp [order] at backward
          | gt => simp [order] at forward
          | eq =>
              have sameName : a = b := String.toList_inj.mp (compareNames_eq_iff.mp order)
              simp only [order, Ordering.swap] at forward backward
              rw [sameName, inductionHypothesis forward backward]

theorem le_total (first second : List String) :
    (le first second || le second first) = true := by
  induction first generalizing second with
  | nil => rfl
  | cons a as inductionHypothesis =>
      cases second with
      | nil => rfl
      | cons b bs =>
          rw [le, le, ← compareNames_swap]
          cases compareNames b.toList a.toList with
          | lt => rfl
          | gt => rfl
          | eq => exact inductionHypothesis bs

theorem le_trans
    (first second third : List String)
    (forward : le first second = true)
    (onward : le second third = true) :
    le first third = true := by
  induction first generalizing second third with
  | nil => rfl
  | cons a as inductionHypothesis =>
      cases second with
      | nil => simp [le] at forward
      | cons b bs =>
          cases third with
          | nil => simp [le] at onward
          | cons c cs =>
              rw [le] at forward onward ⊢
              cases firstOrder : compareNames a.toList b.toList with
              | gt => simp [firstOrder] at forward
              | eq =>
                  rw [compareNames_eq_iff.mp firstOrder]
                  cases secondOrder : compareNames b.toList c.toList with
                  | gt => simp [secondOrder] at onward
                  | lt => rfl
                  | eq =>
                      simp only [firstOrder, secondOrder] at forward onward
                      exact inductionHypothesis bs cs forward onward
              | lt =>
                  cases secondOrder : compareNames b.toList c.toList with
                  | gt => simp [secondOrder] at onward
                  | lt => rw [compareNames_lt_trans firstOrder secondOrder]
                  | eq => rw [← compareNames_eq_iff.mp secondOrder, firstOrder]

/-- Sorted lists of different paths are the same if they have the same members. -/
theorem eq_of_sorted_of_mem_iff
    {first second : List (List String)}
    (firstSorted : first.Pairwise fun earlier later => le earlier later = true)
    (secondSorted : second.Pairwise fun earlier later => le earlier later = true)
    (firstNodup : first.Nodup)
    (secondNodup : second.Nodup)
    (sameMembers : ∀ names, names ∈ first ↔ names ∈ second) :
    first = second := by
  have permutation : first.Perm second :=
    (List.perm_ext_iff_of_nodup firstNodup secondNodup).mpr sameMembers
  exact permutation.eq_of_pairwise (fun _ _ _ _ => le_antisymm) firstSorted secondSorted

end Path

namespace Directory

/-! ## Wanted files, place by place -/

section Wanted

variable (wanted : String → Bool) (recursive : Bool)

theorem nil_not_mem_wantedFiles (directory : Directory) :
    [] ∉ wantedFiles wanted recursive directory := by
  induction directory with
  | empty => simp [wantedFiles]
  | file name content others inductionHypothesis =>
      rw [wantedFiles, List.mem_append, not_or]
      refine ⟨?_, inductionHypothesis⟩
      split <;> simp
  | folder name entries others _ inductionHypothesis =>
      rw [wantedFiles, List.mem_append, not_or]
      refine ⟨?_, inductionHypothesis⟩
      split <;> simp

/-- The first name decides what can be collected behind it. -/
theorem cons_mem_wantedFiles_iff
    {directory : Directory}
    (wellFormed : directory.WellFormed)
    (name : String) (rest : List String) :
    name :: rest ∈ wantedFiles wanted recursive directory ↔
      match directory.entry? name with
      | none => False
      | some (.file _) => rest = [] ∧ wanted name = true
      | some (.folder entries) =>
        recursive = true ∧ isPruned name entries = false ∧
          rest ∈ wantedFiles wanted recursive entries := by
  induction directory with
  | empty => simp [wantedFiles, entry?]
  | file other content others inductionHypothesis =>
      obtain ⟨_, absent, othersWellFormed⟩ := wellFormed
      have behind := inductionHypothesis othersWellFormed
      rw [wantedFiles, List.mem_append, behind]
      by_cases same : other = name
      · subst same
        simp only [absent, entry?, if_true, or_false]
        split
        · next isWanted => simp [isWanted]
        · next unwanted => simp [unwanted]
      · have notHere :
            name :: rest ∉ (if wanted other = true then [[other]] else []) := by
          split
          · simp [Ne.symm same]
          · simp
        simp only [ entry?, if_neg same, notHere, false_or]
  | folder other below others _ inductionHypothesis =>
      obtain ⟨_, absent, _, othersWellFormed⟩ := wellFormed
      have behind := inductionHypothesis othersWellFormed
      rw [wantedFiles, List.mem_append, behind]
      by_cases same : other = name
      · subst same
        simp only [absent, entry?, if_true, or_false]
        split
        · next entered =>
            rw [Bool.and_eq_true, Bool.not_eq_true'] at entered
            simp [entered.1, entered.2]
        · next leftOut =>
            rw [Bool.and_eq_true, Bool.not_eq_true', not_and] at leftOut
            simp only [List.not_mem_nil, false_iff, not_and]
            intro deep entered
            exact (leftOut deep entered).elim
      · have notHere :
            name :: rest ∉
              (if (recursive && !isPruned other below) = true then
                (wantedFiles wanted recursive below).map (other :: ·)
              else []) := by
          split
          · simp [same]
          · simp
        simp only [ entry?, if_neg same, notHere, false_or]

/-- A directory that a walk leaves out. -/
def IsHidden (directory : Directory) (names : List String) : Prop :=
  names.getLast? = some ".git" ∨ ∃ content, directory.occupant (names ++ [cacheName]) = .file content

/-- A file that a walk is to collect: every directory on the way is entered. -/
structure IsWanted (directory : Directory) (names : List String) : Prop where
  isFile : ∃ content, directory.occupant names = .file content
  named : ∃ name, names.getLast? = some name ∧ wanted name = true
  reached : ∀ front, front ≠ [] → front <+: names → front ≠ names → ¬ directory.IsHidden front
  near : recursive = true ∨ names.length = 1

theorem holdsFile_iff {directory : Directory} {name : String} :
    directory.holdsFile name = true ↔ ∃ content, directory.occupant [name] = .file content := by
  rw [holdsFile, occupant, at?_singleton]
  cases directory.entry? name with
  | none => simp [Occupant.ofFound]
  | some held =>
      cases held with
      | file content => simp [Occupant.ofFound]
      | folder entries => simp [Occupant.ofFound]

theorem isHidden_singleton_iff
    {directory entries : Directory} {name : String}
    (found : directory.entry? name = some (.folder entries)) :
    directory.IsHidden [name] ↔ isPruned name entries = true := by
  rw [IsHidden, isPruned, Bool.or_eq_true, holdsFile_iff, List.singleton_append,
    occupant_cons_of_folder found]
  simp

theorem isHidden_cons_iff
    {directory entries : Directory} {name : String} {names : List String}
    (found : directory.entry? name = some (.folder entries))
    (nonempty : names ≠ []) :
    directory.IsHidden (name :: names) ↔ entries.IsHidden names := by
  rw [IsHidden, IsHidden, List.cons_append, occupant_cons_of_folder found,
    List.getLast?_cons_of_ne_nil nonempty]

/-- A wanted file below a directory is wanted in that directory, and the directory is entered. -/
theorem isWanted_cons_iff
    {directory entries : Directory} {name : String}
    (found : directory.entry? name = some (.folder entries))
    (rest : List String) :
    IsWanted wanted recursive directory (name :: rest) ↔
      recursive = true ∧ isPruned name entries = false ∧
        IsWanted wanted recursive entries rest := by
  constructor
  · rintro ⟨isFile, named, reached, near⟩
    rw [occupant_cons_of_folder found] at isFile
    have nonempty : rest ≠ [] := by
      intro atEnd
      rw [atEnd, occupant_nil] at isFile
      obtain ⟨content, isFolder⟩ := isFile
      cases isFolder
    have deep : recursive = true := by
      rcases near with deep | short
      · exact deep
      · rw [List.length_cons] at short
        exact absurd (List.length_eq_zero_iff.mp (Nat.succ.inj short)) nonempty
    have entered : isPruned name entries = false := by
      rw [← Bool.not_eq_true, ← isHidden_singleton_iff found]
      exact reached [name] (by simp) (by simp) (by simpa using nonempty.symm)
    rw [List.getLast?_cons_of_ne_nil nonempty] at named
    refine ⟨deep, entered, isFile, named, ?_, .inl deep⟩
    intro front frontNonempty isFront notAll hidden
    rw [← isHidden_cons_iff found frontNonempty] at hidden
    exact reached (name :: front) (by simp) ((List.prefix_cons_inj name).mpr isFront)
      (by simpa using notAll) hidden
  · rintro ⟨deep, entered, isFile, named, reached, _⟩
    have nonempty : rest ≠ [] := by
      intro atEnd
      obtain ⟨last, isLast, _⟩ := named
      rw [atEnd] at isLast
      cases isLast
    rw [← occupant_cons_of_folder found] at isFile
    rw [← List.getLast?_cons_of_ne_nil (x := name) nonempty] at named
    refine ⟨isFile, named, ?_, .inl deep⟩
    intro front frontNonempty isFront notAll hidden
    cases front with
    | nil => exact frontNonempty rfl
    | cons first others =>
        obtain ⟨rfl, isFrontBelow⟩ := List.cons_prefix_cons.mp isFront
        by_cases only : others = []
        · subst only
          rw [isHidden_singleton_iff found, entered] at hidden
          cases hidden
        · rw [isHidden_cons_iff found only] at hidden
          exact reached others only isFrontBelow (by simpa using notAll) hidden

theorem isWanted_singleton_iff
    {directory : Directory} {name : String} {content : Source}
    (found : directory.entry? name = some (.file content))
    (rest : List String) :
    IsWanted wanted recursive directory (name :: rest) ↔ rest = [] ∧ wanted name = true := by
  constructor
  · rintro ⟨isFile, named, _, _⟩
    rw [occupant_cons_of_file found] at isFile
    have atEnd : rest = [] := by
      by_contra more
      rw [if_neg more] at isFile
      obtain ⟨_, isNothing⟩ := isFile
      cases isNothing
    subst atEnd
    obtain ⟨last, isLast, isWanted⟩ := named
    cases isLast
    exact ⟨rfl, isWanted⟩
  · rintro ⟨rfl, isWanted⟩
    have isFile := occupant_cons_of_file found []
    rw [if_pos rfl] at isFile
    refine ⟨⟨content, isFile⟩, ⟨name, rfl, isWanted⟩, ?_, .inr rfl⟩
    intro front frontNonempty isFront notAll
    cases front with
    | nil => exact (frontNonempty rfl).elim
    | cons first others =>
        obtain ⟨rfl, isFrontBehind⟩ := List.cons_prefix_cons.mp isFront
        rw [List.prefix_nil.mp isFrontBehind] at notAll
        exact (notAll rfl).elim

theorem mem_wantedFiles_iff
    {directory : Directory}
    (wellFormed : directory.WellFormed)
    (names : List String) :
    names ∈ wantedFiles wanted recursive directory ↔
      IsWanted wanted recursive directory names := by
  induction names generalizing directory with
  | nil =>
      constructor
      · intro member
        exact (nil_not_mem_wantedFiles wanted recursive directory member).elim
      · rintro ⟨⟨content, isFile⟩, _⟩
        rw [occupant_nil] at isFile
        cases isFile
  | cons name rest inductionHypothesis =>
      rw [cons_mem_wantedFiles_iff wanted recursive wellFormed]
      cases found : directory.entry? name with
      | none =>
          refine iff_of_false id ?_
          rintro ⟨⟨content, isFile⟩, _⟩
          rw [occupant_cons_of_none found] at isFile
          cases isFile
      | some held =>
          cases held with
          | file content => rw [isWanted_singleton_iff wanted recursive found]
          | folder entries =>
              have entriesWellFormed := (wellFormed.entry found).2 entries rfl
              rw [isWanted_cons_iff wanted recursive found,
                ← inductionHypothesis entriesWellFormed]

theorem nodup_wantedFiles
    {directory : Directory}
    (wellFormed : directory.WellFormed) :
    (wantedFiles wanted recursive directory).Nodup := by
  -- what stands first in the tree has a name of its own, so it is not collected again behind it
  have notBehind :
      ∀ {others : Directory} {name : String} {rest : List String},
        others.WellFormed → others.entry? name = none →
          name :: rest ∉ wantedFiles wanted recursive others := by
    intro others name rest othersWellFormed absent member
    rw [cons_mem_wantedFiles_iff wanted recursive othersWellFormed, absent] at member
    exact member
  induction directory with
  | empty => simp [wantedFiles]
  | file name content others inductionHypothesis =>
      obtain ⟨_, absent, othersWellFormed⟩ := wellFormed
      rw [wantedFiles, List.nodup_append]
      refine ⟨?_, inductionHypothesis othersWellFormed, ?_⟩
      · split <;> simp
      · intro here hereMember behind behindMember same
        subst same
        split at hereMember
        · rw [List.mem_singleton.mp hereMember] at behindMember
          exact notBehind othersWellFormed absent behindMember
        · simp at hereMember
  | folder name entries others entriesHypothesis othersHypothesis =>
      obtain ⟨_, absent, entriesWellFormed, othersWellFormed⟩ := wellFormed
      rw [wantedFiles, List.nodup_append]
      refine ⟨?_, othersHypothesis othersWellFormed, ?_⟩
      · split
        · exact (entriesHypothesis entriesWellFormed).map (List.cons_injective)
        · exact List.nodup_nil
      · intro here hereMember behind behindMember same
        subst same
        split at hereMember
        · obtain ⟨rest, _, rfl⟩ := List.mem_map.mp hereMember
          exact notBehind othersWellFormed absent behindMember
        · simp at hereMember

end Wanted

/-! ## The collected files -/

section Collected

variable (wanted : String → Bool) (recursive : Bool) (ignored : String → Bool)

theorem mem_collect_iff
    {directory : Directory}
    (wellFormed : directory.WellFormed)
    (names : List String) :
    names ∈ collect wanted recursive ignored directory ↔
      IsWanted wanted recursive directory names ∧ ignored (Path.ofNames names) = false := by
  rw [collect, List.mem_mergeSort, List.mem_filter, mem_wantedFiles_iff wanted recursive wellFormed,
    Bool.not_eq_true']

theorem nodup_collect
    {directory : Directory}
    (wellFormed : directory.WellFormed) :
    (collect wanted recursive ignored directory).Nodup := by
  rw [collect, (List.mergeSort_perm _ _).nodup_iff]
  exact (nodup_wantedFiles wanted recursive wellFormed).filter _

theorem sorted_collect (directory : Directory) :
    (collect wanted recursive ignored directory).Pairwise
      fun earlier later => Path.le earlier later = true :=
  List.pairwise_mergeSort Path.le_trans Path.le_total _

/-! ## Trees that differ in files -/

variable {mayDiffer : List String → Prop} {first second : Directory}

theorem IsHidden.of_differ
    {names : List String}
    (differ : DifferOnlyAt mayDiffer first second)
    (cacheKept : ¬ mayDiffer (names ++ [cacheName]))
    (hidden : first.IsHidden names) :
    second.IsHidden names := by
  rcases hidden with isGit | holdsCache
  · exact .inl isGit
  · rw [differ.occupant_eq cacheKept] at holdsCache
    exact .inr holdsCache

theorem IsWanted.of_differ
    {names : List String}
    (differ : DifferOnlyAt mayDiffer first second)
    (cachesKept : ∀ front, ¬ mayDiffer (front ++ [cacheName]))
    (kept : ¬ mayDiffer names)
    (isWanted : IsWanted wanted recursive first names) :
    IsWanted wanted recursive second names := by
  obtain ⟨isFile, named, reached, near⟩ := isWanted
  rw [differ.occupant_eq kept] at isFile
  refine ⟨isFile, named, ?_, near⟩
  intro front frontNonempty isFront notAll hidden
  exact reached front frontNonempty isFront notAll
    (hidden.of_differ differ.symm (cachesKept front))

/-- Where two trees do not differ, a walk collects the same files in both. -/
theorem filter_collect_of_differ
    (firstWellFormed : first.WellFormed)
    (secondWellFormed : second.WellFormed)
    (differ : DifferOnlyAt mayDiffer first second)
    (cachesKept : ∀ front, ¬ mayDiffer (front ++ [cacheName]))
    {keeps : List String → Bool}
    (keepsSame : ∀ names, keeps names = true → ¬ mayDiffer names) :
    (collect wanted recursive ignored first).filter keeps =
      (collect wanted recursive ignored second).filter keeps := by
  apply Path.eq_of_sorted_of_mem_iff
  · exact (sorted_collect wanted recursive ignored first).filter keeps
  · exact (sorted_collect wanted recursive ignored second).filter keeps
  · exact (nodup_collect wanted recursive ignored firstWellFormed).filter keeps
  · exact (nodup_collect wanted recursive ignored secondWellFormed).filter keeps
  · intro names
    rw [List.mem_filter, List.mem_filter, mem_collect_iff wanted recursive ignored firstWellFormed,
      mem_collect_iff wanted recursive ignored secondWellFormed]
    constructor
    · rintro ⟨⟨isWanted, notIgnored⟩, isKept⟩
      have kept := keepsSame names isKept
      exact ⟨⟨isWanted.of_differ wanted recursive differ cachesKept kept, notIgnored⟩, isKept⟩
    · rintro ⟨⟨isWanted, notIgnored⟩, isKept⟩
      have kept := keepsSame names isKept
      exact ⟨⟨isWanted.of_differ wanted recursive differ.symm cachesKept kept, notIgnored⟩, isKept⟩

end Collected

end Directory

end ArchAudit
