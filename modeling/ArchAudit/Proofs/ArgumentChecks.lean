import ArchAudit.Command.Arguments

/-!
# Checked arguments

Every argument of a command line is checked before it counts.  No word that is read afterwards takes
a checked argument back or adds an unchecked one, so the values in a command are values that can be
given; in particular, the path of a scan is never empty.
-/

namespace ArchAudit.Arguments

/-- The values that count are values that can be given. -/
def Draft.Checked (draft : Draft) : Prop :=
  ∀ argument ∈ draft.given, isValidValue argument.1 argument.2 = true

theorem Draft.checked_empty : Draft.empty.Checked := by
  intro argument member
  cases member

/-! ## One word -/

theorem settleThen_eq_ok_iff
    {α : Type} {draft : Draft} {next : Draft → Except UsageError α} {result : α} :
    settleThen draft next = .ok result ↔
      ∃ settled, settle draft = .ok settled ∧ next settled = .ok result := by
  unfold settleThen
  cases settle draft with
  | error failure => simp
  | ok settled => simp

theorem checked_of_add
    {draft next : Draft} {parameter : Parameter} {value : String}
    (checked : draft.Checked)
    (added : add draft parameter value = .ok next) :
    next.Checked := by
  unfold add at added
  split at added
  · cases added
  · split at added
    · cases added
    · next valid =>
        cases added
        intro argument member
        rcases List.mem_append.mp member with earlier | isLast
        · exact checked argument earlier
        · rw [List.mem_singleton.mp isLast]
          simpa using valid

theorem checked_of_settle
    {draft next : Draft}
    (checked : draft.Checked)
    (settled : settle draft = .ok next) :
    next.Checked := by
  unfold settle at settled
  split at settled
  · cases settled
    exact checked
  · cases settled
  · exact checked_of_add checked settled

theorem checked_of_takeOption
    {draft next : Draft} {parameter : Parameter} {attached : Option String}
    (checked : draft.Checked)
    (taken : takeOption draft parameter attached = .ok next) :
    next.Checked := by
  unfold takeOption at taken
  split at taken
  · cases taken
  · obtain ⟨settled, isSettled, added⟩ := settleThen_eq_ok_iff.mp taken
    exact checked_of_add (checked_of_settle checked isSettled) added
  · obtain ⟨settled, isSettled, added⟩ := settleThen_eq_ok_iff.mp taken
    exact checked_of_add (checked_of_settle checked isSettled) added
  · obtain ⟨settled, isSettled, awaits⟩ := settleThen_eq_ok_iff.mp taken
    have settledChecked := checked_of_settle checked isSettled
    cases awaits
    exact settledChecked

theorem checked_of_takePositional
    {command : CommandName} {taken : Bool} {draft next : Draft} {word : String}
    (checked : draft.Checked)
    (placed : takePositional command taken draft word = .ok next) :
    next.Checked := by
  unfold takePositional at placed
  split at placed
  · obtain ⟨settled, isSettled, awaits⟩ := settleThen_eq_ok_iff.mp placed
    have settledChecked := checked_of_settle checked isSettled
    cases awaits
    exact settledChecked
  · cases placed

theorem checked_of_takeOptionWord
    {command : CommandName} {draft next : Draft} {word : OptionWord}
    (checked : draft.Checked)
    (taken : takeOptionWord command draft word = .ok next) :
    next.Checked := by
  unfold takeOptionWord at taken
  split at taken
  · cases taken
  · obtain ⟨settled, _, refused⟩ := settleThen_eq_ok_iff.mp taken
    cases refused
  · split at taken
    · split at taken
      · exact checked_of_takeOption checked taken
      · cases taken
    · split at taken
      · exact checked_of_takeOption checked taken
      · cases taken

/-- Takes one word in front of two dashes. -/
def readWord (command : CommandName) (draft : Draft) (word : String) : Except UsageError Draft :=
  match OptionWord.ofWord? word, awaited? draft with
  | some option, _ => takeOptionWord command draft option
  | none, some parameter => .ok { draft with pending := some (parameter, some word) }
  | none, none => takePositional command (pathTaken draft) draft word

theorem checked_of_readWord
    {command : CommandName} {draft next : Draft} {word : String}
    (checked : draft.Checked)
    (read : readWord command draft word = .ok next) :
    next.Checked := by
  unfold readWord at read
  split at read
  · exact checked_of_takeOptionWord checked read
  · cases read
    exact checked
  · exact checked_of_takePositional checked read

/-! ## All words -/

theorem readWords_cons
    (command : CommandName) (draft : Draft) (word : String) (words : List String) :
    readWords command draft (word :: words) =
      if word = "--" then readTrailing command draft words
      else
        match readWord command draft word with
        | .error failure => .error failure
        | .ok next => readWords command next words := by
  rw [readWords]
  rfl

theorem checked_of_readTrailing
    {command : CommandName} {draft result : Draft} {words : List String}
    (checked : draft.Checked)
    (read : readTrailing command draft words = .ok result) :
    result.Checked := by
  induction words generalizing draft with
  | nil => exact checked_of_settle checked read
  | cons word others inductionHypothesis =>
      rw [readTrailing] at read
      split at read
      · cases read
      · next next placed =>
          exact inductionHypothesis (checked_of_takePositional checked placed) read

theorem checked_of_readWords
    {command : CommandName} {draft result : Draft} {words : List String}
    (checked : draft.Checked)
    (read : readWords command draft words = .ok result) :
    result.Checked := by
  induction words generalizing draft with
  | nil => exact checked_of_settle checked read
  | cons word others inductionHypothesis =>
      rw [readWords_cons] at read
      split at read
      · exact checked_of_readTrailing checked read
      · split at read
        · cases read
        · next next stepped =>
            exact inductionHypothesis (checked_of_readWord checked stepped) read

/-! ## The path of a scan -/

theorem scanOptions_of_parse
    {arguments : List String} {options : ScanOptions}
    (parsed : parse arguments = .ok (.scan options)) :
    ∃ draft, draft.Checked ∧ scanOptions draft = .ok options := by
  unfold parse at parsed
  split at parsed
  · cases parsed
  · split at parsed
    · cases parsed
    · split at parsed
      · cases parsed
      · split at parsed
        · next command _ =>
            unfold parseCommand at parsed
            split at parsed
            · cases parsed
            · next draft read =>
                refine ⟨draft, checked_of_readWords Draft.checked_empty read, ?_⟩
                cases command with
                | scan =>
                    simp only [toCommand] at parsed
                    split at parsed
                    · cases parsed
                    · next made =>
                        cases parsed
                        exact made
                | list => cases parsed
                | vocabulary => cases parsed
                | version => cases parsed
        · split at parsed
          · cases parsed
          · cases parsed

theorem path_nonempty_of_parse
    {arguments : List String} {options : ScanOptions}
    (parsed : parse arguments = .ok (.scan options)) :
    options.path ≠ "" := by
  obtain ⟨draft, checked, made⟩ := scanOptions_of_parse parsed
  unfold scanOptions at made
  split at made
  · cases made
  · next path isFirst =>
      cases made
      have given : path ∈ draft.values .path := List.mem_of_head? isFirst
      obtain ⟨argument, member, rfl⟩ := List.mem_map.mp given
      obtain ⟨isGiven, isPath⟩ := List.mem_filter.mp member
      have valid := checked argument isGiven
      rw [of_decide_eq_true isPath] at valid
      simpa [isValidValue] using valid

end ArchAudit.Arguments
