import ArchAudit.Proofs.Lines
import ArchAudit.Text.Utf8

/-!
# Decoding bytes line by line

A newline byte closes whatever the decoder holds and stands for itself, and no other bytes decode to
a newline.  Cutting bytes at newlines and decoding the pieces is therefore the same as decoding all
the bytes and cutting the text.  Decoding also gives back every text from its bytes.
-/

namespace ArchAudit.Text.Utf8

/-! ## One byte -/

/-- What holds of the decoder between two bytes: the next byte of a character is not an ASCII byte,
and the character is not an ASCII character. -/
def Pending.Sound : Pending → Prop
  | .idle => True
  | .within bits due low _ =>
      0x80 ≤ low ∧ 2 ≤ bits * 64 + (low - 0x80) ∧ (due ≤ 1 → 2 ≤ bits)

theorem start_ascii
    {byte : Nat}
    (ascii : byte < 0x80) :
    start byte = ([some (Char.ofNat byte)], .idle) := by
  rw [start, if_pos ascii]

theorem start_two
    {byte : Nat}
    (lower : 0xC2 ≤ byte)
    (upper : byte < 0xE0) :
    start byte = ([], .within (byte - 0xC0) 1 0x80 0xBF) := by
  rw [start, if_neg (by omega), if_neg (by omega), if_pos upper]

/-- The first byte of a character of three bytes: the second is bounded so that the character is
neither too small nor a surrogate. -/
theorem start_three
    {byte : Nat}
    (lower : 0xE0 ≤ byte)
    (upper : byte < 0xF0) :
    start byte =
      ([], .within (byte - 0xE0) 2 (if byte = 0xE0 then 0xA0 else 0x80)
        (if byte = 0xED then 0x9F else 0xBF)) := by
  rw [start, if_neg (by omega), if_neg (by omega), if_neg (by omega)]
  by_cases smallest : byte = 0xE0
  · simp [smallest]
  · by_cases surrogate : byte = 0xED
    · simp [surrogate]
    · simp [smallest, surrogate, upper]

/-- The first byte of a character of four bytes: the second is bounded so that the character is
neither too small nor too large. -/
theorem start_four
    {byte : Nat}
    (lower : 0xF0 ≤ byte)
    (upper : byte ≤ 0xF4) :
    start byte =
      ([], .within (byte - 0xF0) 3 (if byte = 0xF0 then 0x90 else 0x80)
        (if byte = 0xF4 then 0x8F else 0xBF)) := by
  rw [start, if_neg (by omega), if_neg (by omega), if_neg (by omega), if_neg (by omega),
    if_neg (by omega), if_neg (by omega)]
  by_cases smallest : byte = 0xF0
  · simp [smallest]
  · by_cases largest : byte = 0xF4
    · simp [largest]
    · rw [if_neg smallest, if_pos (by omega), if_neg smallest, if_neg largest]

theorem start_malformed
    {byte : Nat}
    (outside : (0x80 ≤ byte ∧ byte < 0xC2) ∨ 0xF4 < byte) :
    start byte = ([none], .idle) := by
  rcases outside with ⟨lower, upper⟩ | tooLarge
  · rw [start, if_neg (by omega), if_pos upper]
  · rw [start, if_neg (by omega), if_neg (by omega), if_neg (by omega), if_neg (by omega),
      if_neg (by omega), if_neg (by omega), if_neg (by omega), if_neg (by omega),
      if_neg (by omega)]

/-- What the first byte of a character can do. -/
theorem start_cases (byte : Nat) :
    (byte < 0x80 ∧ start byte = ([some (Char.ofNat byte)], .idle)) ∨
      start byte = ([none], .idle) ∨
      ∃ bits due low high,
        start byte = ([], .within bits due low high) ∧
          (Pending.within bits due low high).Sound := by
  by_cases ascii : byte < 0x80
  · exact .inl ⟨ascii, start_ascii ascii⟩
  by_cases early : byte < 0xC2
  · exact .inr (.inl (start_malformed (.inl ⟨by omega, early⟩)))
  by_cases two : byte < 0xE0
  · refine .inr (.inr ⟨_, _, _, _, start_two (by omega) two, ?_⟩)
    simp only [Pending.Sound]
    omega
  by_cases three : byte < 0xF0
  · refine .inr (.inr ⟨_, _, _, _, start_three (by omega) three, ?_⟩)
    simp only [Pending.Sound]
    split <;> omega
  by_cases four : byte ≤ 0xF4
  · refine .inr (.inr ⟨_, _, _, _, start_four (by omega) four, ?_⟩)
    simp only [Pending.Sound]
    split <;> omega
  · exact .inr (.inl (start_malformed (.inr (by omega))))

theorem step_last
    {bits due low high : Nat} {byte : UInt8}
    (inside : low ≤ byte.toNat ∧ byte.toNat ≤ high)
    (last : due ≤ 1) :
    step (.within bits due low high) byte =
      ([some (Char.ofNat (bits * 64 + (byte.toNat - 0x80)))], .idle) := by
  rw [step, if_pos inside, if_pos last]

theorem step_more
    {bits due low high : Nat} {byte : UInt8}
    (inside : low ≤ byte.toNat ∧ byte.toNat ≤ high)
    (more : ¬ due ≤ 1) :
    step (.within bits due low high) byte =
      ([], .within (bits * 64 + (byte.toNat - 0x80)) (due - 1) 0x80 0xBF) := by
  rw [step, if_pos inside, if_neg more]

theorem step_outside
    {bits due low high : Nat} {byte : UInt8}
    (outside : ¬ (low ≤ byte.toNat ∧ byte.toNat ≤ high)) :
    step (.within bits due low high) byte =
      (none :: (start byte.toNat).1, (start byte.toNat).2) := by
  rw [step, if_neg outside]

/-! ## The newline byte -/

theorem start_sound (byte : Nat) :
    (start byte).2.Sound := by
  rcases start_cases byte with ⟨_, ascii⟩ | malformed | ⟨bits, due, low, high, begun, sound⟩
  · rw [ascii]
    trivial
  · rw [malformed]
    trivial
  · rw [begun]
    exact sound

theorem step_sound
    {pending : Pending}
    (sound : pending.Sound)
    (byte : UInt8) :
    (step pending byte).2.Sound := by
  cases pending with
  | idle => exact start_sound byte.toNat
  | within bits due low high =>
      obtain ⟨lowBound, bitsBound, _⟩ := sound
      by_cases inside : low ≤ byte.toNat ∧ byte.toNat ≤ high
      · by_cases last : due ≤ 1
        · rw [step_last inside last]
          trivial
        · rw [step_more inside last]
          simp only [Pending.Sound]
          omega
      · rw [step_outside inside]
        exact start_sound byte.toNat

/-- A newline ends a malformed sequence, if one has begun, and stands for itself. -/
theorem step_newline
    {pending : Pending}
    (sound : pending.Sound) :
    step pending 10 = (flush pending ++ [some '\n'], .idle) := by
  cases pending with
  | idle => rfl
  | within bits due low high =>
      have outside : ¬ (low ≤ (10 : UInt8).toNat ∧ (10 : UInt8).toNat ≤ high) := by
        have lowBound := sound.1
        rintro ⟨lowLe, _⟩
        exact absurd (Nat.le_trans lowBound lowLe) (by decide)
      rw [step_outside outside]
      rfl

theorem run_newline
    {pending : Pending}
    (sound : pending.Sound)
    (bytes rest : List UInt8) :
    run pending (bytes ++ 10 :: rest) = run pending bytes ++ some '\n' :: run .idle rest := by
  induction bytes generalizing pending with
  | nil => simp [run, step_newline sound]
  | cons byte others inductionHypothesis =>
      rw [List.cons_append, run, inductionHypothesis (step_sound sound byte), run,
        List.append_assoc]

theorem toNat_ofNat_of_isValidChar
    {code : Nat}
    (valid : code.isValidChar) :
    (Char.ofNat code).val.toNat = code := by
  rw [Char.ofNat, dif_pos valid]
  rfl

theorem ofNat_ne_newline
    {code : Nat}
    (different : code ≠ 10) :
    Char.ofNat code ≠ '\n' := by
  intro same
  by_cases valid : code.isValidChar
  · have code_eq := congrArg (fun c : Char => c.val.toNat) same
    rw [toNat_ofNat_of_isValidChar valid] at code_eq
    exact different code_eq
  · rw [Char.ofNat, dif_neg valid] at same
    exact absurd same (by decide)

theorem newline_not_mem_start
    {byte : Nat}
    (different : byte ≠ 10) :
    some '\n' ∉ (start byte).1 := by
  rcases start_cases byte with ⟨_, ascii⟩ | malformed | ⟨bits, due, low, high, begun, _⟩
  · simp [ascii, (ofNat_ne_newline different).symm]
  · simp [malformed]
  · simp [begun]

theorem newline_not_mem_step
    {pending : Pending}
    (sound : pending.Sound)
    {byte : UInt8}
    (different : byte ≠ 10) :
    some '\n' ∉ (step pending byte).1 := by
  have codeDifferent : byte.toNat ≠ 10 := by
    intro same
    exact different (UInt8.toNat_inj.mp same)
  cases pending with
  | idle => exact newline_not_mem_start codeDifferent
  | within bits due low high =>
      obtain ⟨_, _, lastBound⟩ := sound
      by_cases inside : low ≤ byte.toNat ∧ byte.toNat ≤ high
      · by_cases last : due ≤ 1
        · have large : bits * 64 + (byte.toNat - 0x80) ≠ 10 := by
            have bitsBound := lastBound last
            omega
          rw [step_last inside last]
          simp [(ofNat_ne_newline large).symm]
        · rw [step_more inside last]
          exact List.not_mem_nil
      · rw [step_outside inside]
        simpa using newline_not_mem_start codeDifferent

theorem newline_not_mem_run
    {pending : Pending}
    (sound : pending.Sound)
    {bytes : List UInt8}
    (absent : 10 ∉ bytes) :
    some '\n' ∉ run pending bytes := by
  induction bytes generalizing pending with
  | nil => cases pending <;> simp [run, flush]
  | cons byte rest inductionHypothesis =>
      have headDifferent : byte ≠ 10 := by
        rintro rfl
        exact absent List.mem_cons_self
      have tailAbsent : 10 ∉ rest :=
        fun member => absent (List.mem_cons_of_mem byte member)
      rw [run, List.mem_append, not_or]
      exact ⟨newline_not_mem_step sound headDifferent,
        inductionHypothesis (step_sound sound byte) tailAbsent⟩

/-! ## Decoding the pieces of a byte string -/

/-- A character that has begun gives at least one item, whatever follows. -/
theorem run_within_ne_nil
    (bits due low high : Nat) (bytes : List UInt8) :
    run (.within bits due low high) bytes ≠ [] := by
  induction bytes generalizing bits due low high with
  | nil => simp [run, flush]
  | cons byte rest inductionHypothesis =>
      rw [run]
      by_cases inside : low ≤ byte.toNat ∧ byte.toNat ≤ high
      · by_cases last : due ≤ 1
        · simp [step_last inside last]
        · simpa [step_more inside last] using inductionHypothesis _ _ _ _
      · simp [step_outside inside]

theorem items_ne_nil
    {bytes : List UInt8}
    (nonempty : bytes ≠ []) :
    items bytes ≠ [] := by
  cases bytes with
  | nil => exact (nonempty rfl).elim
  | cons byte rest =>
      rw [items, run, step]
      rcases start_cases byte.toNat with
        ⟨_, ascii⟩ | malformed | ⟨bits, due, low, high, begun, _⟩
      · simp [ascii]
      · simp [malformed]
      · simpa [begun] using run_within_ne_nil bits due low high rest

theorem decodeLossy_newline (bytes rest : List UInt8) :
    decodeLossy (bytes ++ 10 :: rest) = decodeLossy bytes ++ '\n' :: decodeLossy rest := by
  have idleSound : Pending.idle.Sound := trivial
  simp [decodeLossy, items, run_newline idleSound]

theorem newline_not_mem_decodeLossy
    {bytes : List UInt8}
    (absent : 10 ∉ bytes) :
    '\n' ∉ decodeLossy bytes := by
  intro member
  obtain ⟨item, itemMember, decoded⟩ := List.mem_map.mp member
  cases item with
  | none => exact absurd decoded (by decide)
  | some c =>
      have idleSound : Pending.idle.Sound := trivial
      rw [Option.getD_some] at decoded
      subst decoded
      exact newline_not_mem_run idleSound absent itemMember

/-- Bytes that are cut at newlines decode to a text that is cut at newlines. -/
theorem cut_decodeLossy
    {bytes : List UInt8} {bytePieces : List (Piece UInt8)}
    (cut : Cut 10 bytes bytePieces) :
    Cut '\n' (decodeLossy bytes)
      (bytePieces.map fun piece => ⟨decodeLossy piece.content, piece.ended⟩) := by
  induction cut with
  | nil => exact .nil
  | @unfinished content nonempty absent =>
      have decodedNonempty : decodeLossy content ≠ [] := by
        intro empty
        exact items_ne_nil nonempty (List.map_eq_nil_iff.mp empty)
      exact .unfinished decodedNonempty (newline_not_mem_decodeLossy absent)
  | complete absent _ inductionHypothesis =>
      rw [decodeLossy_newline]
      exact .complete (newline_not_mem_decodeLossy absent) inductionHypothesis

theorem pieces_decodeLossy (bytes : List UInt8) :
    pieces '\n' (decodeLossy bytes) =
      (pieces 10 bytes).map fun piece => ⟨decodeLossy piece.content, piece.ended⟩ :=
  (cut_decodeLossy (pieces_cut 10 bytes)).eq_pieces.symm

/-! ## Decoding the bytes of a text -/

theorem run_more
    {bits due low high code : Nat}
    (inside : low ≤ code ∧ code ≤ high)
    (isByte : code < 256)
    (more : ¬ due ≤ 1)
    (rest : List UInt8) :
    run (.within bits due low high) (UInt8.ofNat code :: rest) =
      run (.within (bits * 64 + (code - 0x80)) (due - 1) 0x80 0xBF) rest := by
  have code_eq : (UInt8.ofNat code).toNat = code := UInt8.toNat_ofNat_of_lt' isByte
  rw [run, step_more (by rwa [code_eq]) more, code_eq]
  rfl

theorem run_last
    {bits low high code : Nat}
    (inside : low ≤ code ∧ code ≤ high)
    (isByte : code < 256)
    (rest : List UInt8) :
    run (.within bits 1 low high) (UInt8.ofNat code :: rest) =
      some (Char.ofNat (bits * 64 + (code - 0x80))) :: run .idle rest := by
  have code_eq : (UInt8.ofNat code).toNat = code := UInt8.toNat_ofNat_of_lt' isByte
  rw [run, step_last (by rwa [code_eq]) (Nat.le_refl 1), code_eq]
  rfl

theorem run_start
    {code : Nat} {emitted : List Item} {pending : Pending}
    (isByte : code < 256)
    (begun : start code = (emitted, pending))
    (rest : List UInt8) :
    run .idle (UInt8.ofNat code :: rest) = emitted ++ run pending rest := by
  have code_eq : (UInt8.ofNat code).toNat = code := UInt8.toNat_ofNat_of_lt' isByte
  rw [run, step, code_eq, begun]

/-- The bytes of a character decode to the character. -/
theorem run_utf8EncodeChar (c : Char) (rest : List UInt8) :
    run .idle (String.utf8EncodeChar c ++ rest) = some c :: run .idle rest := by
  have valid : c.val.toNat < 0xD800 ∨ (0xDFFF < c.val.toNat ∧ c.val.toNat < 0x110000) := c.valid
  have decoded : ∀ code, code = c.val.toNat → Char.ofNat code = c := by
    rintro code rfl
    exact Char.ofNat_toNat c
  dsimp only [String.utf8EncodeChar]
  by_cases one : c.val.toNat ≤ 0x7F
  · rw [if_pos one, List.singleton_append, run_start (by omega) (start_ascii (by omega)),
      decoded _ rfl]
    rfl
  by_cases two : c.val.toNat ≤ 0x7FF
  · rw [if_neg one, if_pos two]
    simp only [List.cons_append, List.nil_append]
    rw [run_start (by omega) (start_two (by omega) (by omega)), List.nil_append,
      run_last (by omega) (by omega), decoded _ (by omega)]
  by_cases three : c.val.toNat ≤ 0xFFFF
  · rw [if_neg one, if_neg two, if_pos three]
    simp only [List.cons_append, List.nil_append]
    rw [run_start (by omega) (start_three (by omega) (by omega)), List.nil_append,
      run_more (by split <;> split <;> omega) (by omega) (by omega),
      run_last (by omega) (by omega), decoded _ (by omega)]
  · rw [if_neg one, if_neg two, if_neg three]
    simp only [List.cons_append, List.nil_append]
    rw [run_start (by omega) (start_four (by omega) (by omega)), List.nil_append,
      run_more (by split <;> split <;> omega) (by omega) (by omega),
      run_more (by omega) (by omega) (by omega),
      run_last (by omega) (by omega), decoded _ (by omega)]

theorem items_encode (chars : List Char) :
    items (chars.flatMap String.utf8EncodeChar) = chars.map some := by
  induction chars with
  | nil => rfl
  | cons c rest inductionHypothesis =>
      rw [List.flatMap_cons, items, run_utf8EncodeChar, ← items, inductionHypothesis,
        List.map_cons]

/-- Every text is what its bytes decode to. -/
theorem decodeLossy_encode (text : String) :
    decodeLossy (encode text) = text.toList := by
  rw [decodeLossy, encode, items_encode, List.map_map]
  exact List.map_id text.toList

end ArchAudit.Text.Utf8
