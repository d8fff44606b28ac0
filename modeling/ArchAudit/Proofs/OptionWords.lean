import ArchAudit.Proofs.ArgumentChecks
import Mathlib.Data.List.Induction

/-!
# Words of options

An option can be written with its value attached to it or in a word of its own, behind any other
options.  However it is written, reading its words adds the option with this value to the command,
if the checks allow it.
-/

namespace ArchAudit.Arguments

/-! ## Words in the form of an option -/

theorem forall_ne_equals
    {name : List Char}
    (absent : '=' ∉ name) :
    ∀ c ∈ name, decide (c ≠ '=') = true := by
  intro c member
  apply decide_eq_true
  rintro rfl
  exact absent member

theorem splitEquals_of_not_mem
    {word : List Char}
    (absent : '=' ∉ word) :
    splitEquals word = (word, none) := by
  have dropped : word.dropWhile (· ≠ '=') = [] := by
    rw [← List.append_nil word, List.dropWhile_append_of_pos (forall_ne_equals absent)]
    rfl
  simp only [splitEquals, dropped]

theorem splitEquals_append
    {name : List Char}
    (absent : '=' ∉ name)
    (value : List Char) :
    splitEquals (name ++ '=' :: value) = (name, some value) := by
  have dropped : (name ++ '=' :: value).dropWhile (· ≠ '=') = '=' :: value := by
    rw [List.dropWhile_append_of_pos (forall_ne_equals absent)]
    rfl
  have taken : (name ++ '=' :: value).takeWhile (· ≠ '=') = name := by
    rw [List.takeWhile_append_of_pos (forall_ne_equals absent)]
    simp
  simp only [splitEquals, dropped, taken]

theorem ofWord?_long
    {name : String}
    (absent : '=' ∉ name.toList) :
    OptionWord.ofWord? ("--" ++ name) = some (.long name none) := by
  have letters : ("--" ++ name).toList = '-' :: '-' :: name.toList := by
    rw [String.toList_append]
    rfl
  simp [OptionWord.ofWord?, letters, splitEquals_of_not_mem absent]

theorem ofWord?_attached
    {name : String}
    (absent : '=' ∉ name.toList)
    (value : String) :
    OptionWord.ofWord? ("--" ++ name ++ "=" ++ value) = some (.long name (some value)) := by
  have letters :
      ("--" ++ name ++ "=" ++ value).toList =
        '-' :: '-' :: (name.toList ++ '=' :: value.toList) := by
    simp only [String.toList_append, List.append_assoc]
    rfl
  simp [OptionWord.ofWord?, letters, splitEquals_append absent]

theorem ofWord?_of_head?_ne
    {word : String}
    (undashed : word.toList.head? ≠ some '-') :
    OptionWord.ofWord? word = none := by
  unfold OptionWord.ofWord?
  split
  · next shape => simp [shape] at undashed
  · next shape => simp [shape] at undashed
  · rfl

theorem equals_not_mem_longName
    {parameter : Parameter} {name : String}
    (named : parameter.longName? = some name) :
    '=' ∉ name.toList := by
  revert named
  cases parameter <;> simp [Parameter.longName?] <;> rintro rfl <;> decide

theorem takeOptionWord_long
    {parameter : Parameter} {name : String}
    (named : parameter.longName? = some name)
    (draft : Draft) (attached : Option String) :
    takeOptionWord .scan draft (.long name attached) = takeOption draft parameter attached := by
  cases parameter <;> cases named <;> cases attached <;> rfl

/-! ## Arguments that are settled -/

theorem add_eq_ok
    {draft : Draft} {parameter : Parameter} {value : String}
    (first : parameter.isRepeatable = true ∨ draft.has parameter = false)
    (valid : isValidValue parameter value = true) :
    add draft parameter value = .ok ⟨draft.given ++ [(parameter, value)], none⟩ := by
  have noConflict : (!parameter.isRepeatable && draft.has parameter) = false := by
    rcases first with repeatable | absent
    · rw [repeatable]
      rfl
    · rw [absent, Bool.and_false]
  simp [add, noConflict, valid]

theorem add_eq_conflict
    {draft : Draft} {parameter : Parameter}
    (single : parameter.isRepeatable = false)
    (present : draft.has parameter = true)
    (value : String) :
    add draft parameter value = .error .argumentConflict := by
  simp [add, single, present]

theorem eq_of_add_eq_ok
    {draft next : Draft} {parameter : Parameter} {value : String}
    (added : add draft parameter value = .ok next) :
    next = ⟨draft.given ++ [(parameter, value)], none⟩ := by
  unfold add at added
  split at added
  · cases added
  · split at added
    · cases added
    · cases added
      rfl

theorem pathTaken_of_settle
    {draft settled : Draft}
    (settles : settle draft = .ok settled) :
    pathTaken draft = settled.has .path := by
  unfold settle at settles
  split at settles
  · next nothing =>
      cases settles
      simp [pathTaken, nothing]
  · cases settles
  · next parameter value waiting =>
      rw [eq_of_add_eq_ok settles]
      simp [pathTaken, waiting, Draft.has]

/-! ## One option -/

/-- One use of an option: its value, which is empty if the option takes none, and whether the value
is attached to the option or stands in a word of its own. -/
structure Occurrence where
  parameter : Parameter
  value : String
  attached : Bool
deriving DecidableEq, Repr

namespace Occurrence

def words (occurrence : Occurrence) : List String :=
  let name := "--" ++ occurrence.parameter.longName?.getD ""
  if occurrence.parameter.takesValue then
    if occurrence.attached then [name ++ "=" ++ occurrence.value] else [name, occurrence.value]
  else [name]

def argument (occurrence : Occurrence) : Parameter × String :=
  (occurrence.parameter, occurrence.value)

/-- An option as it may be written: a value that begins with a dash has to be attached. -/
structure Readable (occurrence : Occurrence) : Prop where
  isOption : occurrence.parameter ≠ .path
  unvalued : occurrence.parameter.takesValue = false → occurrence.value = ""
  undashed : occurrence.attached = false → occurrence.value.toList.head? ≠ some '-'

instance : DecidablePred Readable :=
  fun occurrence =>
    decidable_of_iff
      (occurrence.parameter ≠ .path ∧
        (occurrence.parameter.takesValue = false → occurrence.value = "") ∧
        (occurrence.attached = false → occurrence.value.toList.head? ≠ some '-'))
      ⟨fun ⟨isOption, unvalued, undashed⟩ => ⟨isOption, unvalued, undashed⟩,
        fun readable => ⟨readable.isOption, readable.unvalued, readable.undashed⟩⟩

end Occurrence

theorem exists_longName
    {parameter : Parameter}
    (isOption : parameter ≠ .path) :
    ∃ name, parameter.longName? = some name := by
  cases parameter with
  | path => exact (isOption rfl).elim
  | noRecursive | format | output | severity | exclude | only | vocabulary | ignore =>
      exact ⟨_, rfl⟩

/-- A word with a long name is read as the option of that name. -/
theorem readWords_option
    {word : String} {parameter : Parameter} {name : String} {attached : Option String}
    (named : parameter.longName? = some name)
    (shape : OptionWord.ofWord? word = some (.long name attached))
    (draft : Draft) (rest : List String) :
    readWords .scan draft (word :: rest) =
      match takeOption draft parameter attached with
      | .error failure => .error failure
      | .ok next => readWords .scan next rest := by
  have notDashes : word ≠ "--" := by
    rintro rfl
    have isEmpty : name = "" := by
      have short : OptionWord.ofWord? "--" = some (.long "" none) := by decide
      rw [short] at shape
      cases shape
      rfl
    rw [isEmpty] at named
    revert named
    cases parameter <;> decide
  have read := readWords_cons .scan draft word rest
  rw [if_neg notDashes, readWord, shape] at read
  simp only [takeOptionWord_long named] at read
  exact read

/-- A word that does not look like an option is the value of the option that waits for one. -/
theorem readWords_value
    {value : String}
    (undashed : value.toList.head? ≠ some '-')
    (given : List (Parameter × String)) (parameter : Parameter) (rest : List String) :
    readWords .scan ⟨given, some (parameter, none)⟩ (value :: rest) =
      readWords .scan ⟨given, some (parameter, some value)⟩ rest := by
  have notDashes : value ≠ "--" := by
    rintro rfl
    exact undashed (by decide)
  rw [readWords_cons, if_neg notDashes, readWord, ofWord?_of_head?_ne undashed]
  rfl

/-- An option is checked at once, or waits with its value for what follows. -/
theorem readWords_occurrence_cases
    {occurrence : Occurrence} {draft settled : Draft}
    (readable : occurrence.Readable)
    (settles : settle draft = .ok settled)
    (rest : List String) :
    (readWords .scan draft (occurrence.words ++ rest) =
        match add settled occurrence.parameter occurrence.value with
        | .error failure => .error failure
        | .ok next => readWords .scan next rest) ∨
      readWords .scan draft (occurrence.words ++ rest) =
        readWords .scan
          ⟨settled.given, some (occurrence.parameter, some occurrence.value)⟩ rest := by
  obtain ⟨name, named⟩ := exists_longName readable.isOption
  have absent := equals_not_mem_longName named
  have written : occurrence.parameter.longName?.getD "" = name := by rw [named]; rfl
  simp only [Occurrence.words, written]
  cases takes : occurrence.parameter.takesValue with
  | false =>
      left
      have taken :
          takeOption draft occurrence.parameter none = add settled occurrence.parameter "" := by
        simp only [takeOption, takes, settleThen, settles]
      rw [readable.unvalued takes, ← taken]
      exact readWords_option named (ofWord?_long absent) draft rest
  | true =>
      cases isAttached : occurrence.attached with
      | true =>
          left
          have taken :
              takeOption draft occurrence.parameter (some occurrence.value) =
                add settled occurrence.parameter occurrence.value := by
            simp only [takeOption, takes, settleThen, settles]
          rw [← taken]
          exact readWords_option named (ofWord?_attached absent occurrence.value) draft rest
      | false =>
          right
          have taken :
              takeOption draft occurrence.parameter none =
                .ok ⟨settled.given, some (occurrence.parameter, none)⟩ := by
            simp only [takeOption, takes, settleThen, settles]
          refine (readWords_option named (ofWord?_long absent) draft _).trans ?_
          rw [taken]
          exact readWords_value (readable.undashed isAttached) settled.given _ rest

/-- An option that passes the checks is settled sooner or later. -/
theorem readWords_occurrence
    {occurrence : Occurrence} {draft settled next : Draft}
    (readable : occurrence.Readable)
    (settles : settle draft = .ok settled)
    (added : add settled occurrence.parameter occurrence.value = .ok next)
    (rest : List String) :
    ∃ later,
      readWords .scan draft (occurrence.words ++ rest) = readWords .scan later rest ∧
        settle later = .ok next := by
  rcases readWords_occurrence_cases readable settles rest with atOnce | waiting
  · rw [added] at atOnce
    refine ⟨next, atOnce, ?_⟩
    rw [eq_of_add_eq_ok added]
    rfl
  · exact ⟨_, waiting, added⟩

/-- An option that does not pass them is refused at the end of the options at the latest. -/
theorem readWords_occurrence_refused
    {occurrence : Occurrence} {draft settled : Draft} {failure : UsageError}
    (readable : occurrence.Readable)
    (settles : settle draft = .ok settled)
    (pathless : settled.has .path = false)
    (refused : add settled occurrence.parameter occurrence.value = .error failure)
    (path : String) :
    readWords .scan draft (occurrence.words ++ ["--", path]) = .error failure := by
  rcases readWords_occurrence_cases readable settles ["--", path] with atOnce | waiting
  · rw [atOnce, refused]
  · have notTaken :
        pathTaken ⟨settled.given, some (occurrence.parameter, some occurrence.value)⟩ = false := by
      have sameHas : Draft.has ⟨settled.given, none⟩ .path = false := pathless
      simpa [pathTaken, Draft.has, readable.isOption] using sameHas
    have unsettled :
        settle ⟨settled.given, some (occurrence.parameter, some occurrence.value)⟩ =
          .error failure := refused
    rw [waiting, readWords_cons, if_pos rfl, readTrailing, takePositional, notTaken,
      if_pos ⟨by decide, rfl⟩, settleThen, unsettled]

/-! ## All options -/

/-- The values given for an option, first one first. -/
def valuesOf (occurrences : List Occurrence) (parameter : Parameter) : List String :=
  (occurrences.filter fun occurrence => occurrence.parameter = parameter).map Occurrence.value

/-- The arguments that options add to a command. -/
def draftOf (occurrences : List Occurrence) : Draft :=
  ⟨occurrences.map Occurrence.argument, none⟩

theorem values_draftOf (occurrences : List Occurrence) (parameter : Parameter) :
    (draftOf occurrences).values parameter = valuesOf occurrences parameter := by
  simp only [Draft.values, draftOf, valuesOf, List.filter_map, List.map_map]
  rfl

theorem valuesOf_append
    (earlier later : List Occurrence) (parameter : Parameter) :
    valuesOf (earlier ++ later) parameter =
      valuesOf earlier parameter ++ valuesOf later parameter := by
  simp only [valuesOf, List.filter_append, List.map_append]

theorem mem_valuesOf
    {occurrence : Occurrence} {occurrences : List Occurrence}
    (member : occurrence ∈ occurrences) :
    occurrence.value ∈ valuesOf occurrences occurrence.parameter :=
  List.mem_map_of_mem (List.mem_filter.mpr ⟨member, decide_eq_true rfl⟩)

theorem valuesOf_path
    {occurrences : List Occurrence}
    (readable : ∀ occurrence ∈ occurrences, occurrence.Readable) :
    valuesOf occurrences .path = [] := by
  rw [valuesOf, List.map_eq_nil_iff, List.filter_eq_nil_iff]
  intro occurrence member isPath
  exact (readable occurrence member).isOption (of_decide_eq_true isPath)

theorem Draft.has_eq_false_iff {draft : Draft} {parameter : Parameter} :
    draft.has parameter = false ↔ draft.values parameter = [] := by
  simp [Draft.has, Draft.values]

/-- Options that pass the checks are all settled, each with its own value. -/
theorem readWords_occurrences
    {occurrences : List Occurrence}
    (readable : ∀ occurrence ∈ occurrences, occurrence.Readable)
    (valid :
      ∀ occurrence ∈ occurrences, isValidValue occurrence.parameter occurrence.value = true)
    (single :
      ∀ parameter, parameter.isRepeatable = false →
        (valuesOf occurrences parameter).length ≤ 1)
    (rest : List String) :
    ∃ later,
      readWords .scan .empty (occurrences.flatMap Occurrence.words ++ rest) =
          readWords .scan later rest ∧
        settle later = .ok (draftOf occurrences) := by
  -- the last option is taken off, since it is checked against those in front of it
  induction occurrences using List.reverseRecOn generalizing rest with
  | nil => exact ⟨.empty, rfl, rfl⟩
  | append_singleton earlier last inductionHypothesis =>
      have singleEarlier :
          ∀ parameter, parameter.isRepeatable = false →
            (valuesOf earlier parameter).length ≤ 1 := by
        intro parameter once
        have total := single parameter once
        rw [valuesOf_append, List.length_append] at total
        omega
      obtain ⟨draft, readEarlier, settles⟩ :=
        inductionHypothesis
          (fun occurrence member => readable occurrence (List.mem_append_left _ member))
          (fun occurrence member => valid occurrence (List.mem_append_left _ member))
          singleEarlier (last.words ++ rest)
      have lastMember : last ∈ earlier ++ [last] := by simp
      have first :
          last.parameter.isRepeatable = true ∨
            (draftOf earlier).has last.parameter = false := by
        cases once : last.parameter.isRepeatable with
        | true => exact .inl rfl
        | false =>
            right
            have total := single last.parameter once
            have own := List.length_pos_of_mem (mem_valuesOf (List.mem_singleton_self last))
            rw [valuesOf_append, List.length_append] at total
            rw [Draft.has_eq_false_iff, values_draftOf, ← List.length_eq_zero_iff]
            omega
      obtain ⟨later, readLast, settlesLast⟩ :=
        readWords_occurrence (readable last lastMember) settles
          (add_eq_ok first (valid last lastMember)) rest
      refine ⟨later, ?_, ?_⟩
      · rw [List.flatMap_append, List.append_assoc, List.flatMap_singleton, readEarlier, readLast]
      · rw [settlesLast, draftOf, draftOf, List.map_append]
        rfl

/-- The path behind two dashes is taken as it stands, even if it looks like an option. -/
theorem readWords_path
    {draft settled : Draft} {path : String}
    (settles : settle draft = .ok settled)
    (pathless : settled.has .path = false)
    (nonempty : path ≠ "") :
    readWords .scan draft ["--", path] = .ok ⟨settled.given ++ [(.path, path)], none⟩ := by
  have notTaken : pathTaken draft = false := by rw [pathTaken_of_settle settles, pathless]
  have added :
      settle ⟨settled.given, some (.path, some path)⟩ =
        .ok ⟨settled.given ++ [(.path, path)], none⟩ :=
    add_eq_ok (.inr pathless) (by simpa [isValidValue] using nonempty)
  rw [readWords_cons, if_pos rfl, readTrailing, takePositional, notTaken,
    if_pos ⟨by decide, rfl⟩, settleThen, settles]
  exact added

end ArchAudit.Arguments
