import ArchAudit.Proofs.WordChoice
import Mathlib.Data.String.Basic

/-!
# The order of the words in a pattern

The words of a row stand in its pattern in a stable order: longer words first, measured in bytes,
and words of the same length as they stand in the list.  Empty words are left out.  There is
exactly one such order.
-/

namespace ArchAudit.Classifier

/-- The words that are not empty. -/
def filledWords (words : List String) : List String :=
  words.filter fun word => word ≠ ""

/-- The words of the given number of bytes. -/
def ofSize (bytes : Nat) (words : List String) : List String :=
  words.filter fun word => word.utf8ByteSize = bytes

structure IsStableOrder (words ordered : List String) : Prop where
  perm : ordered.Perm (filledWords words)
  longestFirst : ordered.Pairwise fun earlier later =>
    later.utf8ByteSize ≤ earlier.utf8ByteSize
  stable : ∀ bytes, ofSize bytes ordered = ofSize bytes (filledWords words)

theorem mem_ofSize {bytes : Nat} {words : List String} {word : String} :
    word ∈ ofSize bytes words ↔ word ∈ words ∧ word.utf8ByteSize = bytes := by
  rw [ofSize, List.mem_filter, decide_eq_true_eq]

theorem ofSize_cons_of_eq
    {bytes : Nat} {word : String}
    (sized : word.utf8ByteSize = bytes)
    (words : List String) :
    ofSize bytes (word :: words) = word :: ofSize bytes words :=
  List.filter_cons_of_pos (decide_eq_true sized)

theorem ofSize_cons_of_ne
    {bytes : Nat} {word : String}
    (otherwise : word.utf8ByteSize ≠ bytes)
    (words : List String) :
    ofSize bytes (word :: words) = ofSize bytes words :=
  List.filter_cons_of_neg (by simpa using otherwise)

/-! ## The order is stable -/

theorem size_toList (word : String) :
    Text.Utf8.size word.toList = word.utf8ByteSize := by
  have sameLength (text : List Char) : Text.Utf8.size text = String.utf8Len text := by
    induction text with
    | nil => rfl
    | cons c rest inductionHypothesis =>
        rw [Text.Utf8.size, String.utf8Len, inductionHypothesis, Nat.add_comm]
  rw [sameLength, ← String.utf8ByteSize_ofList, String.ofList_toList]

theorem orderedWords_perm (words : List String) :
    (orderedWords words).Perm (filledWords words) :=
  List.mergeSort_perm _ _

theorem ofSize_orderedWords (words : List String) (bytes : Nat) :
    ofSize bytes (orderedWords words) = ofSize bytes (filledWords words) := by
  have oneSize : (ofSize bytes (filledWords words)).Pairwise fun a b =>
      decide (Text.Utf8.size b.toList ≤ Text.Utf8.size a.toList) = true := by
    apply List.pairwise_of_forall_mem_list
    intro a aMember b bMember
    rw [size_toList, size_toList, (mem_ofSize.mp aMember).2, (mem_ofSize.mp bMember).2]
    exact decide_eq_true (Nat.le_refl bytes)
  -- words that are in order already come out of the sorting as they are, between the others
  have kept : (ofSize bytes (filledWords words)).Sublist (orderedWords words) :=
    List.sublist_mergeSort longer_trans longer_total oneSize List.filter_sublist
  have among :
      (ofSize bytes (filledWords words)).Sublist (ofSize bytes (orderedWords words)) := by
    have filtered := kept.filter fun word => word.utf8ByteSize = bytes
    simpa only [ofSize, List.filter_filter, Bool.and_self] using filtered
  have sameLength :
      (ofSize bytes (orderedWords words)).length = (ofSize bytes (filledWords words)).length :=
    ((orderedWords_perm words).filter _).length_eq
  exact (among.eq_of_length sameLength.symm).symm

theorem isStableOrder_orderedWords (words : List String) :
    IsStableOrder words (orderedWords words) where
  perm := orderedWords_perm words
  longestFirst := by
    have sorted := longestFirst_orderedWords words
    rw [LongestFirst, List.pairwise_map] at sorted
    simpa only [size_toList] using sorted
  stable := ofSize_orderedWords words

/-! ## There is no other -/

theorem mem_of_sameSizes
    {first second : List String}
    (sameSizes : ∀ bytes, ofSize bytes first = ofSize bytes second)
    {word : String}
    (member : word ∈ first) :
    word ∈ second := by
  have sized : word ∈ ofSize word.utf8ByteSize first := mem_ofSize.mpr ⟨member, rfl⟩
  rw [sameSizes] at sized
  exact (mem_ofSize.mp sized).1

/-- Where longer words come first, the order among words of one size decides the whole order. -/
theorem eq_of_sameSizes
    {first second : List String}
    (firstOrdered : first.Pairwise fun earlier later =>
      later.utf8ByteSize ≤ earlier.utf8ByteSize)
    (secondOrdered : second.Pairwise fun earlier later =>
      later.utf8ByteSize ≤ earlier.utf8ByteSize)
    (sameSizes : ∀ bytes, ofSize bytes first = ofSize bytes second) :
    first = second := by
  induction first generalizing second with
  | nil =>
      cases second with
      | nil => rfl
      | cons head tail =>
          have headMember : head ∈ [] :=
            mem_of_sameSizes (fun bytes => (sameSizes bytes).symm) List.mem_cons_self
          exact nomatch headMember
  | cons word rest inductionHypothesis =>
      have wordMember : word ∈ second := mem_of_sameSizes sameSizes List.mem_cons_self
      cases second with
      | nil => exact nomatch wordMember
      | cons head tail =>
          have headMember : head ∈ word :: rest :=
            mem_of_sameSizes (fun bytes => (sameSizes bytes).symm) List.mem_cons_self
          obtain ⟨wordLargest, restOrdered⟩ := List.pairwise_cons.mp firstOrdered
          obtain ⟨headLargest, tailOrdered⟩ := List.pairwise_cons.mp secondOrdered
          -- each head is the first word of the largest size, and that size is the same
          have sameSize : word.utf8ByteSize = head.utf8ByteSize := by
            rcases List.mem_cons.mp wordMember with same | inTail
            · rw [same]
            · rcases List.mem_cons.mp headMember with same | inRest
              · rw [same]
              · exact Nat.le_antisymm (headLargest word inTail) (wordLargest head inRest)
          have sameHeads := sameSizes head.utf8ByteSize
          rw [ofSize_cons_of_eq sameSize, ofSize_cons_of_eq rfl] at sameHeads
          obtain rfl := (List.cons.inj sameHeads).1
          have restSizes : ∀ bytes, ofSize bytes rest = ofSize bytes tail := by
            intro bytes
            have whole := sameSizes bytes
            by_cases sized : word.utf8ByteSize = bytes
            · rw [ofSize_cons_of_eq sized, ofSize_cons_of_eq sized] at whole
              exact (List.cons.inj whole).2
            · rwa [ofSize_cons_of_ne sized, ofSize_cons_of_ne sized] at whole
          rw [inductionHypothesis restOrdered tailOrdered restSizes]

theorem isStableOrder_iff {words candidate : List String} :
    IsStableOrder words candidate ↔ candidate = orderedWords words := by
  have ownOrder := isStableOrder_orderedWords words
  constructor
  · intro order
    apply eq_of_sameSizes order.longestFirst ownOrder.longestFirst
    intro bytes
    rw [order.stable, ownOrder.stable]
  · rintro rfl
    exact ownOrder

end ArchAudit.Classifier
