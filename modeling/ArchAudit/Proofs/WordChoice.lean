import ArchAudit.Proofs.ScanFindings

/-!
# The choice among words

The words of a row are tried one after the other, and the first that fits is taken, so their order
could matter.  It does not: of the words that stand at one place of a text the longest is taken,
measured in bytes, and no two different words of one length can stand at the same place.  A scan
depends on which words are listed and on nothing else about the lists.
-/

namespace ArchAudit

/-! ## Sizes of words at the front of a text -/

namespace Text.Utf8

theorem size_append (first second : List Char) :
    size (first ++ second) = size first + size second := by
  induction first with
  | nil => simp [size]
  | cons c rest inductionHypothesis =>
      rw [List.cons_append, size, size, inductionHypothesis, Nat.add_assoc]

theorem eq_nil_of_size_eq_zero
    {text : List Char}
    (empty : size text = 0) :
    text = [] := by
  cases text with
  | nil => rfl
  | cons c rest =>
      have positive : 0 < c.utf8Size := c.utf8Size_pos
      rw [size] at empty
      omega

theorem eq_of_begins_of_size_eq
    {first second : List Char}
    (begins : first <+: second)
    (sameSize : size first = size second) :
    first = second := by
  obtain ⟨rest, rfl⟩ := begins
  rw [size_append] at sameSize
  have restEmpty : rest = [] := eq_nil_of_size_eq_zero (by omega)
  rw [restEmpty, List.append_nil]

end Text.Utf8

/-! ## The longest word -/

namespace Classifier

open Text.Utf8 (size)

/-- Whether longer words come first. -/
def LongestFirst (words : List (List Char)) : Prop :=
  words.Pairwise fun earlier later => size later ≤ size earlier

/-- Whether a word is the longest of some words that stands at the front of a text and ends at a
word boundary. -/
structure IsLongestAt (words : List (List Char)) (text word : List Char) : Prop where
  member : word ∈ words
  stands : endsAtBoundary word text = true
  longest : ∀ other ∈ words, endsAtBoundary other text = true → size other ≤ size word

theorem begins_of_endsAtBoundary
    {word text : List Char}
    (stands : endsAtBoundary word text = true) :
    word <+: text := by
  obtain ⟨rest, found, _⟩ := (Option.any_eq_true _ _).mp stands
  exact ⟨rest, ((after?_eq_some_iff word text rest).mp found).symm⟩

/-- Two words of one length cannot both stand at the same place. -/
theorem eq_of_endsAtBoundary_of_size_eq
    {first second text : List Char}
    (firstStands : endsAtBoundary first text = true)
    (secondStands : endsAtBoundary second text = true)
    (sameSize : size first = size second) :
    first = second := by
  rcases List.prefix_or_prefix_of_prefix (begins_of_endsAtBoundary firstStands)
      (begins_of_endsAtBoundary secondStands) with firstBegins | secondBegins
  · exact Text.Utf8.eq_of_begins_of_size_eq firstBegins sameSize
  · exact (Text.Utf8.eq_of_begins_of_size_eq secondBegins sameSize.symm).symm

theorem IsLongestAt.unique
    {words : List (List Char)} {text first second : List Char}
    (firstLongest : IsLongestAt words text first)
    (secondLongest : IsLongestAt words text second) :
    first = second := by
  apply eq_of_endsAtBoundary_of_size_eq firstLongest.stands secondLongest.stands
  exact Nat.le_antisymm
    (secondLongest.longest first firstLongest.member firstLongest.stands)
    (firstLongest.longest second secondLongest.member secondLongest.stands)

theorem isLongestAt_of_wordAt?
    {words : List (List Char)} {text word : List Char}
    (ordered : LongestFirst words)
    (found : wordAt? words text = some word) :
    IsLongestAt words text word := by
  obtain ⟨stands, earlier, later, rfl, earlierFail⟩ := List.find?_eq_some_iff_append.mp found
  refine ⟨by simp, stands, ?_⟩
  intro other member otherStands
  have laterSmaller : ∀ behind ∈ later, size behind ≤ size word :=
    (List.pairwise_cons.mp (List.pairwise_append.mp ordered).2.1).1
  -- an earlier word would have been taken, and a later one is no longer
  rcases List.mem_append.mp member with early | late
  · have fails := earlierFail other early
    simp [otherStands] at fails
  · rcases List.mem_cons.mp late with rfl | behind
    · exact Nat.le_refl _
    · exact laterSmaller other behind

/-- Where longer words come first, the word that is taken is the longest that fits. -/
theorem wordAt?_eq_some_iff
    {words : List (List Char)}
    (ordered : LongestFirst words)
    (text word : List Char) :
    wordAt? words text = some word ↔ IsLongestAt words text word := by
  constructor
  · exact isLongestAt_of_wordAt? ordered
  · intro isLongest
    cases found : wordAt? words text with
    | none =>
        have nothing := List.find?_eq_none.mp found word isLongest.member
        exact absurd isLongest.stands nothing
    | some taken =>
        rw [(isLongestAt_of_wordAt? ordered found).unique isLongest]

/-! ### Lists with the same words -/

section SameMembers

variable {first second : List (List Char)}
variable (sameMembers : ∀ word, word ∈ first ↔ word ∈ second)

include sameMembers

theorem IsLongestAt.of_same_members
    {text word : List Char}
    (isLongest : IsLongestAt first text word) :
    IsLongestAt second text word where
  member := (sameMembers word).mp isLongest.member
  stands := isLongest.stands
  longest other member := isLongest.longest other ((sameMembers other).mpr member)

theorem wordAt?_of_same_members
    (firstOrdered : LongestFirst first)
    (secondOrdered : LongestFirst second) :
    wordAt? first = wordAt? second := by
  funext text
  apply Option.ext
  intro word
  rw [wordAt?_eq_some_iff firstOrdered, wordAt?_eq_some_iff secondOrdered]
  constructor
  · exact .of_same_members sameMembers
  · exact .of_same_members fun other => (sameMembers other).symm

theorem any_of_same_members (test : List Char → Bool) :
    first.any test = second.any test := by
  rw [Bool.eq_iff_iff, List.any_eq_true, List.any_eq_true]
  simp only [sameMembers]

theorem reachesWord_of_same_members :
    reachesWord first = reachesWord second := by
  funext text
  induction text with
  | nil => rw [reachesWord, reachesWord, any_of_same_members sameMembers]
  | cons c rest inductionHypothesis =>
      rw [reachesWord, reachesWord, any_of_same_members sameMembers, inductionHypothesis]

theorem conditionHit_of_same_members (keyword : List Char) :
    conditionHit keyword first = conditionHit keyword second := by
  funext text
  induction text with
  | nil => rw [conditionHit, conditionHit, reachesWord_of_same_members sameMembers]
  | cons c rest inductionHypothesis =>
      rw [conditionHit, conditionHit, reachesWord_of_same_members sameMembers,
        inductionHypothesis]

end SameMembers

theorem keywordHit?_of_wordAt?_eq
    {first second : List (List Char)}
    (same : wordAt? first = wordAt? second)
    {κ : Type} (keywords : List (κ × List Char)) :
    keywordHit? keywords first = keywordHit? keywords second := by
  have sameAt : keywordAt? keywords first = keywordAt? keywords second := by
    funext text
    rw [keywordAt?, keywordAt?, same]
  funext text
  induction text with
  | nil => rw [keywordHit?, keywordHit?, sameAt]
  | cons c rest inductionHypothesis =>
      rw [keywordHit?, keywordHit?, sameAt, inductionHypothesis]

/-! ### Words of a row -/

theorem mem_orderedWords (words : List String) (word : String) :
    word ∈ orderedWords words ↔ word ∈ words ∧ word ≠ "" := by
  simp [orderedWords]

theorem longer_trans
    (a b c : String)
    (first : decide (size b.toList ≤ size a.toList) = true)
    (second : decide (size c.toList ≤ size b.toList) = true) :
    decide (size c.toList ≤ size a.toList) = true := by
  simp only [decide_eq_true_eq] at first second ⊢
  exact Nat.le_trans second first

theorem longer_total (a b : String) :
    (decide (size b.toList ≤ size a.toList) || decide (size a.toList ≤ size b.toList)) = true := by
  simp only [Bool.or_eq_true, decide_eq_true_eq]
  exact Nat.le_total _ _

theorem longestFirst_orderedWords (words : List String) :
    LongestFirst ((orderedWords words).map String.toList) := by
  rw [LongestFirst, List.pairwise_map]
  have sorted :=
    List.pairwise_mergeSort longer_trans longer_total (words.filter fun word => word ≠ "")
  simpa only [orderedWords, decide_eq_true_eq] using sorted

theorem signal?_of_same_words
    {first second : List String}
    (sameWords : ∀ word, word ≠ "" → (word ∈ first ↔ word ∈ second))
    (row : Row) (text : String) :
    signal? ⟨row, orderedWords first⟩ text = signal? ⟨row, orderedWords second⟩ text := by
  have sameMembers :
      ∀ word, word ∈ (orderedWords first).map String.toList ↔
        word ∈ (orderedWords second).map String.toList := by
    intro word
    simp only [List.mem_map, mem_orderedWords]
    refine exists_congr fun candidate => and_congr_left fun _ => ?_
    exact and_congr_left (sameWords candidate)
  have sameChoice :=
    wordAt?_of_same_members sameMembers (longestFirst_orderedWords first)
      (longestFirst_orderedWords second)
  cases row <;>
    simp only [signal?, keywordHit?_of_wordAt?_eq sameChoice,
      conditionHit_of_same_members sameMembers]

end Classifier

/-! ## Vocabularies with the same words -/

/-- Whether the lists of two vocabularies hold the same words.  Order, repetition and empty words do
not count. -/
def Vocabulary.SameWords (first second : Vocabulary) : Prop :=
  ∀ list word, word ≠ "" → (word ∈ first.words list ↔ word ∈ second.words list)

namespace Table

theorem classify_of_same_words
    {first second : Vocabulary} {firstTable secondTable : Table}
    (firstCompiled : compile first = .ok firstTable)
    (secondCompiled : compile second = .ok secondTable)
    (same : first.SameWords second) :
    firstTable.classify = secondTable.classify := by
  have sameSignals : firstTable.signals = secondTable.signals := by
    funext text
    rw [signals_of_compile firstCompiled, signals_of_compile secondCompiled]
    congr
    funext row
    rw [Vocabulary.signal?, Vocabulary.rowWords,
      Classifier.signal?_of_same_words (same row.wordList)]
    rfl
  funext line evidence
  rw [classify, classify, sameSignals]

end Table

namespace Scan

/-- A scan uses its table for nothing but to classify statements. -/
theorem feed_of_classify_eq
    {first second : Table}
    (same : first.classify = second.classify) :
    feed first = feed second ∧ finish first = finish second := by
  have sameAbsorb : absorb? first = absorb? second := by
    funext filePath scan line
    cases line with
    | none => rfl
    | some line => simp only [absorb?, absorb, same]
  constructor
  · funext filePath scan raw
    rw [feed, feed, sameAbsorb]
  · funext filePath scan
    rw [finish, finish, sameAbsorb]

theorem ofLines_of_classify_eq
    {first second : Table}
    (same : first.classify = second.classify) :
    run first = run second ∧ ofLines first = ofLines second := by
  obtain ⟨sameFeed, sameFinish⟩ := feed_of_classify_eq same
  have sameRun : run first = run second := by
    funext filePath lines
    rw [run, run, sameFeed]
  refine ⟨sameRun, ?_⟩
  funext filePath lines
  rw [ofLines, ofLines, sameRun, sameFinish]

/-- The order of the words in a vocabulary, repeated words and empty words never matter: not for a
statement, whatever was seen before it, and not for a file. -/
theorem word_order_irrelevant
    {first second : Vocabulary} {firstTable secondTable : Table}
    (firstCompiled : Table.compile first = .ok firstTable)
    (secondCompiled : Table.compile second = .ok secondTable)
    (same : first.SameWords second) :
    (∀ line evidence, firstTable.classify line evidence = secondTable.classify line evidence) ∧
      (∀ filePath text, ofText firstTable filePath text = ofText secondTable filePath text) ∧
      ∀ filePath source,
        ofSource firstTable filePath source = ofSource secondTable filePath source := by
  have sameClassify := Table.classify_of_same_words firstCompiled secondCompiled same
  obtain ⟨sameRun, sameLines⟩ := ofLines_of_classify_eq sameClassify
  refine ⟨?_, ?_, ?_⟩
  · intro line evidence
    rw [sameClassify]
  · intro filePath text
    rw [ofText, ofText, sameLines]
  · intro filePath source
    rw [ofSource, ofSource, sameRun, sameLines]

def shuffledVocabulary : Vocabulary :=
  { sampleVocabulary with
    libraries := ["", "MKL", "MKL"]
    buildOptions := ["avx2", "", "avx", "avx2"]
    ampereOneCores := [""] }

def shuffledTable : Table :=
  [⟨.library, ["MKL", "MKL"]⟩, ⟨.buildOption, ["avx2", "avx2", "avx"]⟩,
    ⟨.neoverseTuning, ["neoverse-n1"]⟩, ⟨.otherCondition, ["x86_64"]⟩,
    ⟨.aarch64Condition, ["aarch64"]⟩]

theorem compile_shuffledVocabulary :
    Table.compile shuffledVocabulary = .ok shuffledTable := by
  cbv

theorem sameWords_shuffledVocabulary :
    sampleVocabulary.SameWords shuffledVocabulary := by
  intro list word nonempty
  cases list <;> grind [sampleVocabulary, shuffledVocabulary, Vocabulary.words]

/-- Of two options that begin alike the longer one is reported, wherever it stands in its list. -/
theorem word_order_irrelevant_shuffled :
    Table.compile sampleVocabulary = .ok sampleTable ∧
      Table.compile shuffledVocabulary = .ok shuffledTable ∧
      sampleVocabulary.SameWords shuffledVocabulary ∧
      (ofText shuffledTable "CMakeLists.txt" "options(-mavx2)").map Finding.title =
        ["x86-only build option: -mavx2"] := by
  have irrelevant :=
    word_order_irrelevant compile_sampleVocabulary compile_shuffledVocabulary
      sameWords_shuffledVocabulary
  refine ⟨compile_sampleVocabulary, compile_shuffledVocabulary, sameWords_shuffledVocabulary, ?_⟩
  rw [← irrelevant.2.1]
  decide +kernel

end Scan

end ArchAudit
