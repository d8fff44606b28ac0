import ArchAudit.Proofs.EscapeCodes

/-!
# Replacements one after the other

A text can be escaped by replacing one character after the other, each in the whole text.  A text
put in for one character must then hold no character that is replaced later, or it is escaped
twice.  If the percent sign comes first, the result is that of escaping every character once, which
holds no character that ends a line or a property and is undone by decoding.
-/

namespace ArchAudit.Report

/-! ## Replacing in the whole text -/

def replaceAll (replaced : Char) (replacement : List Char) (text : List Char) : List Char :=
  text.flatMap fun c => if c = replaced then replacement else [c]

/-- Replaces one character after the other, each in the result of the one before. -/
def replaceEach : List (Char × List Char) → List Char → List Char
  | [], text => text
  | (replaced, replacement) :: later, text =>
      replaceEach later (replaceAll replaced replacement text)

/-- Whether no replacement puts in a character that is replaced later. -/
def ReplacesOnce (steps : List (Char × List Char)) : Prop :=
  steps.Pairwise fun earlier later => later.1 ∉ earlier.2

instance : DecidablePred ReplacesOnce :=
  fun steps => inferInstanceAs
    (Decidable (steps.Pairwise fun earlier later => later.1 ∉ earlier.2))

theorem replaceAll_of_not_mem
    {replaced : Char} {text : List Char}
    (absent : replaced ∉ text)
    (replacement : List Char) :
    replaceAll replaced replacement text = text := by
  induction text with
  | nil => rfl
  | cons c rest inductionHypothesis =>
      obtain ⟨different, restAbsent⟩ := List.ne_and_not_mem_of_not_mem_cons absent
      rw [replaceAll, List.flatMap_cons, if_neg different.symm, List.singleton_append]
      exact congrArg (c :: ·) (inductionHypothesis restAbsent)

theorem replaceEach_of_not_mem
    {steps : List (Char × List Char)} {text : List Char}
    (absent : ∀ step ∈ steps, step.1 ∉ text) :
    replaceEach steps text = text := by
  induction steps with
  | nil => rfl
  | cons step later inductionHypothesis =>
      obtain ⟨stepAbsent, laterAbsent⟩ := List.forall_mem_cons.mp absent
      rw [replaceEach, replaceAll_of_not_mem stepAbsent]
      exact inductionHypothesis laterAbsent

theorem replaceEach_append
    (steps : List (Char × List Char)) (first second : List Char) :
    replaceEach steps (first ++ second) =
      replaceEach steps first ++ replaceEach steps second := by
  induction steps generalizing first second with
  | nil => rfl
  | cons step later inductionHypothesis =>
      rw [replaceEach, replaceAll, List.flatMap_append]
      exact inductionHypothesis _ _

theorem lookup_cons_of_ne
    {c replaced : Char}
    (different : c ≠ replaced)
    (replacement : List Char) (later : List (Char × List Char)) :
    ((replaced, replacement) :: later).lookup c = later.lookup c := by
  rw [List.lookup_cons, beq_false_of_ne different]

theorem replaceEach_singleton
    {steps : List (Char × List Char)}
    (once : ReplacesOnce steps)
    (c : Char) :
    replaceEach steps [c] = (steps.lookup c).getD [c] := by
  induction steps with
  | nil => rfl
  | cons step later inductionHypothesis =>
      obtain ⟨replaced, replacement⟩ := step
      obtain ⟨keptHere, keptLater⟩ := List.pairwise_cons.mp once
      by_cases same : c = replaced
      · have stays : replaceEach later replacement = replacement :=
          replaceEach_of_not_mem keptHere
        simp [replaceEach, replaceAll, same, stays]
      · have unchanged : replaceAll replaced replacement [c] = [c] :=
          replaceAll_of_not_mem (by simpa using Ne.symm same) replacement
        rw [replaceEach, unchanged, lookup_cons_of_ne same]
        exact inductionHypothesis keptLater

/-- Replacing one character after the other is the same as replacing every character once. -/
theorem replaceEach_eq_flatMap
    {steps : List (Char × List Char)}
    (once : ReplacesOnce steps)
    (text : List Char) :
    replaceEach steps text = text.flatMap fun c => (steps.lookup c).getD [c] := by
  induction text with
  | nil => exact replaceEach_of_not_mem (fun _ _ => List.not_mem_nil)
  | cons c rest inductionHypothesis =>
      rw [← List.singleton_append, replaceEach_append, replaceEach_singleton once,
        inductionHypothesis, List.flatMap_append, List.flatMap_singleton]

-- with the percent sign last, a newline and its code become the same text
example :
    replaceEach [('\n', "%0A".toList), ('%', "%25".toList)] "\n".toList =
      replaceEach [('\n', "%0A".toList), ('%', "%25".toList)] "%0A".toList := by
  decide

/-! ## Escaping by replacements -/

def messageSteps : List (Char × List Char) :=
  [('%', "%25".toList), ('\r', "%0D".toList), ('\n', "%0A".toList)]

def propertySteps : List (Char × List Char) :=
  messageSteps ++ [(':', "%3A".toList), (',', "%2C".toList)]

theorem escapeMessageChar_eq_lookup (c : Char) :
    escapeMessageChar c = (messageSteps.lookup c).getD [c] := by
  by_cases isPercent : c = '%'
  · rw [isPercent]
    decide
  · by_cases isReturn : c = '\r'
    · rw [isReturn]
      decide
    · by_cases isNewline : c = '\n'
      · rw [isNewline]
        decide
      · rw [escapeMessageChar, if_neg isPercent, if_neg isReturn, if_neg isNewline, messageSteps,
          lookup_cons_of_ne isPercent, lookup_cons_of_ne isReturn, lookup_cons_of_ne isNewline,
          List.lookup_nil, Option.getD_none]

theorem escapePropertyChar_eq_lookup (c : Char) :
    escapePropertyChar c = (propertySteps.lookup c).getD [c] := by
  by_cases isColon : c = ':'
  · rw [isColon]
    decide
  · by_cases isComma : c = ','
    · rw [isComma]
      decide
    · have unlisted : [(':', "%3A".toList), (',', "%2C".toList)].lookup c = none := by
        rw [lookup_cons_of_ne isColon, lookup_cons_of_ne isComma, List.lookup_nil]
      rw [propertySteps, List.lookup_append, unlisted, Option.or_none,
        ← escapeMessageChar_eq_lookup, escapePropertyChar, if_neg isColon, if_neg isComma]

theorem escapeMessage_eq_replaceEach (text : String) :
    (escapeMessage text).toList = replaceEach messageSteps text.toList := by
  have once : ReplacesOnce messageSteps := by decide
  rw [replaceEach_eq_flatMap once, escapeMessage, String.toList_ofList]
  exact List.flatMap_congr fun c _ => escapeMessageChar_eq_lookup c

theorem escapeProperty_eq_replaceEach (text : String) :
    (escapeProperty text).toList = replaceEach propertySteps text.toList := by
  have once : ReplacesOnce propertySteps := by decide
  rw [replaceEach_eq_flatMap once, escapeProperty, String.toList_ofList]
  exact List.flatMap_congr fun c _ => escapePropertyChar_eq_lookup c

/-- The escapes of a text, made by replacing one character after the other, hold no character that
ends a line or, in a property, the property; and decoding them in one pass gives the text back. -/
theorem escapes_safe_and_invertible (text : String) :
    ((escapeMessage text).toList = replaceEach messageSteps text.toList ∧
        '\r' ∉ (escapeMessage text).toList ∧
        '\n' ∉ (escapeMessage text).toList ∧
        String.ofList (decode messageCodes (escapeMessage text).toList) = text) ∧
      (escapeProperty text).toList = replaceEach propertySteps text.toList ∧
        '\r' ∉ (escapeProperty text).toList ∧
        '\n' ∉ (escapeProperty text).toList ∧
        ':' ∉ (escapeProperty text).toList ∧
        ',' ∉ (escapeProperty text).toList ∧
        String.ofList (decode propertyCodes (escapeProperty text).toList) = text := by
  refine ⟨⟨escapeMessage_eq_replaceEach text, ?_, ?_, ?_⟩,
    escapeProperty_eq_replaceEach text, ?_, ?_, ?_, ?_, ?_⟩
  · exact not_mem_escapeMessage (by decide) text
  · exact not_mem_escapeMessage (by decide) text
  · rw [decode_escapeMessage, String.ofList_toList]
  · exact not_mem_escapeProperty (by decide) text
  · exact not_mem_escapeProperty (by decide) text
  · exact not_mem_escapeProperty (by decide) text
  · exact not_mem_escapeProperty (by decide) text
  · rw [decode_escapeProperty, String.ofList_toList]

end ArchAudit.Report
