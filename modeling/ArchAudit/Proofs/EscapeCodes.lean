import ArchAudit.Report.Workflow
import Mathlib.Data.List.Infix

/-!
# Escape codes

In a workflow annotation a percent sign and two characters behind it can stand for another
character.  Codes are decoded in one pass from the left, and a percent sign that begins no code
stands for itself.  Escaping is undone by decoding; a text that was not escaped is left alone by
decoding exactly if no code occurs in it.
-/

namespace ArchAudit.Report

/-- Codes: the two characters behind the percent sign, and what the code stands for. -/
abbrev CodeTable :=
  List ((Char × Char) × Char)

/-- The codes in a message. -/
def messageCodes : CodeTable :=
  [(('2', '5'), '%'), (('0', 'D'), '\r'), (('0', 'A'), '\n')]

/-- The codes in the value of a property. -/
def propertyCodes : CodeTable :=
  messageCodes ++ [(('3', 'A'), ':'), (('2', 'C'), ',')]

/-- Replaces codes from the left to the right. -/
def decode (codes : CodeTable) : List Char → List Char
  | '%' :: first :: second :: rest =>
      match codes.lookup (first, second) with
      | some c => c :: decode codes rest
      | none => '%' :: decode codes (first :: second :: rest)
  | c :: rest => c :: decode codes rest
  | [] => []

/-! ## Decoding an escaped text -/

/-- Whether an escape of single characters is undone by some codes. -/
def UndoneBy (codes : CodeTable) (escape : Char → List Char) : Prop :=
  ∀ c, (c ≠ '%' ∧ escape c = [c]) ∨
    ∃ first second, escape c = ['%', first, second] ∧ codes.lookup (first, second) = some c

theorem decode_cons_of_ne
    {c : Char}
    (different : c ≠ '%')
    (codes : CodeTable) (rest : List Char) :
    decode codes (c :: rest) = c :: decode codes rest := by
  rw [decode]
  intro first second others isPercent
  exact absurd isPercent different

theorem decode_code
    {codes : CodeTable} {first second c : Char}
    (known : codes.lookup (first, second) = some c)
    (rest : List Char) :
    decode codes ('%' :: first :: second :: rest) = c :: decode codes rest := by
  rw [decode, known]

theorem decode_escape
    {codes : CodeTable} {escape : Char → List Char}
    (undone : UndoneBy codes escape)
    (text : List Char) :
    decode codes (text.flatMap escape) = text := by
  induction text with
  | nil => rw [List.flatMap_nil, decode]
  | cons c rest inductionHypothesis =>
      rw [List.flatMap_cons]
      rcases undone c with ⟨different, escapeEq⟩ | ⟨first, second, escapeEq, known⟩
      · rw [escapeEq, List.singleton_append, decode_cons_of_ne different, inductionHypothesis]
      · rw [escapeEq]
        change decode codes ('%' :: first :: second :: rest.flatMap escape) = c :: rest
        rw [decode_code known, inductionHypothesis]

theorem escapeMessageChar_undoneBy : UndoneBy messageCodes escapeMessageChar := by
  intro c
  unfold escapeMessageChar
  split
  · next isPercent => exact .inr ⟨'2', '5', rfl, by rw [isPercent]; decide⟩
  · next notPercent =>
      split
      · next isReturn => exact .inr ⟨'0', 'D', rfl, by rw [isReturn]; decide⟩
      · split
        · next isNewline => exact .inr ⟨'0', 'A', rfl, by rw [isNewline]; decide⟩
        · exact .inl ⟨notPercent, rfl⟩

theorem lookup_propertyCodes
    {digits : Char × Char} {c : Char}
    (known : messageCodes.lookup digits = some c) :
    propertyCodes.lookup digits = some c := by
  rw [propertyCodes, List.lookup_append, known, Option.some_or]

theorem escapePropertyChar_undoneBy : UndoneBy propertyCodes escapePropertyChar := by
  intro c
  unfold escapePropertyChar
  split
  · next isColon => exact .inr ⟨'3', 'A', rfl, by rw [isColon]; decide⟩
  · split
    · next isComma => exact .inr ⟨'2', 'C', rfl, by rw [isComma]; decide⟩
    · rcases escapeMessageChar_undoneBy c with plain | ⟨first, second, escapeEq, known⟩
      · exact .inl plain
      · exact .inr ⟨first, second, escapeEq, lookup_propertyCodes known⟩

theorem decode_escapeMessage (text : String) :
    decode messageCodes (escapeMessage text).toList = text.toList := by
  rw [escapeMessage, String.toList_ofList, decode_escape escapeMessageChar_undoneBy]

theorem decode_escapeProperty (text : String) :
    decode propertyCodes (escapeProperty text).toList = text.toList := by
  rw [escapeProperty, String.toList_ofList, decode_escape escapePropertyChar_undoneBy]

/-! ## Characters that do not occur in an escaped text -/

theorem not_mem_escapeMessage
    {mark : Char}
    (isMark : mark ∈ ['\r', '\n'])
    (text : String) :
    mark ∉ (escapeMessage text).toList := by
  rw [escapeMessage, String.toList_ofList]
  intro member
  obtain ⟨c, _, escaped⟩ := List.mem_flatMap.mp member
  unfold escapeMessageChar at escaped
  grind

theorem newline_not_mem_escapeMessage (text : String) :
    '\n' ∉ (escapeMessage text).toList :=
  not_mem_escapeMessage (by decide) text

theorem not_mem_escapeProperty
    {mark : Char}
    (isMark : mark ∈ ['\r', '\n', ':', ','])
    (text : String) :
    mark ∉ (escapeProperty text).toList := by
  rw [escapeProperty, String.toList_ofList]
  intro member
  obtain ⟨c, _, escaped⟩ := List.mem_flatMap.mp member
  unfold escapePropertyChar escapeMessageChar at escaped
  grind

/-! ## Decoding a text that was not escaped -/

theorem length_decode_le (codes : CodeTable) (text : List Char) :
    (decode codes text).length ≤ text.length := by
  fun_induction decode codes text with
  | case1 first second rest c known inductionHypothesis =>
      simp only [List.length_cons]
      omega
  | case2 first second rest unknown inductionHypothesis =>
      simp only [List.length_cons] at inductionHypothesis ⊢
      omega
  | case3 c rest noCode inductionHypothesis =>
      simp only [List.length_cons]
      omega
  | case4 => exact Nat.le_refl _

/-- Whether one of the codes stands at the front of a text. -/
def BeginsWithCode (codes : CodeTable) (text : List Char) : Prop :=
  ∃ first second c, codes.lookup (first, second) = some c ∧ ['%', first, second] <+: text

/-- Whether one of the codes occurs somewhere in a text. -/
def HoldsCode (codes : CodeTable) (text : List Char) : Prop :=
  ∃ first second c, codes.lookup (first, second) = some c ∧ ['%', first, second] <:+: text

theorem holdsCode_cons_iff (codes : CodeTable) (c : Char) (rest : List Char) :
    HoldsCode codes (c :: rest) ↔
      BeginsWithCode codes (c :: rest) ∨ HoldsCode codes rest := by
  simp only [HoldsCode, BeginsWithCode, List.infix_cons_iff, and_or_left, exists_or]

theorem not_holdsCode_nil (codes : CodeTable) :
    ¬ HoldsCode codes [] := by
  rintro ⟨first, second, c, _, occurs⟩
  exact absurd (List.infix_nil.mp occurs) (List.cons_ne_nil _ _)

/-- Decoding changes a text exactly if a code occurs in it. -/
theorem decode_eq_self_iff (codes : CodeTable) (text : List Char) :
    decode codes text = text ↔ ¬ HoldsCode codes text := by
  fun_induction decode codes text with
  | case1 first second rest c known _ =>
      have holds : HoldsCode codes ('%' :: first :: second :: rest) :=
        ⟨first, second, c, known, ⟨[], rest, rfl⟩⟩
      -- a code is longer than the character it stands for, and nothing behind it grows
      have shorter := length_decode_le codes rest
      refine iff_of_false ?_ (not_not_intro holds)
      intro same
      have lengths := congrArg List.length same
      simp only [List.length_cons] at lengths
      omega
  | case2 first second rest unknown inductionHypothesis =>
      have noneHere : ¬ BeginsWithCode codes ('%' :: first :: second :: rest) := by
        rintro ⟨left, right, meaning, known, others, same⟩
        obtain ⟨rfl, rfl⟩ : left = first ∧ right = second := by simp_all
        exact nomatch unknown.symm.trans known
      rw [List.cons_inj_right, inductionHypothesis, holdsCode_cons_iff codes '%',
        or_iff_right noneHere]
  | case3 c rest noCode inductionHypothesis =>
      have noneHere : ¬ BeginsWithCode codes (c :: rest) := by
        rintro ⟨first, second, meaning, _, others, same⟩
        exact noCode first second others (List.cons.inj same).1.symm (List.cons.inj same).2.symm
      rw [List.cons_inj_right, inductionHypothesis, holdsCode_cons_iff, or_iff_right noneHere]
  | case4 => exact iff_of_true rfl (not_holdsCode_nil codes)

theorem decode_of_not_mem
    {text : List Char}
    (absent : '%' ∉ text)
    (codes : CodeTable) :
    decode codes text = text := by
  rw [decode_eq_self_iff]
  rintro ⟨first, second, c, _, occurs⟩
  exact absent (occurs.subset List.mem_cons_self)

end ArchAudit.Report
