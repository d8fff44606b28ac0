import ArchAudit.Proofs.WordChoice

/-!
# Matches by their places

A statement is searched from the left, place by place, and at each place words are tried one after
the other.  Here the matches are described by where they stand in the text, without the search.  The
search for a word right behind a keyword gives the leftmost match, and at its place the longest
word; the search for a word further behind the processor variable succeeds exactly if the two stand
on one line.
-/

namespace ArchAudit

namespace Classifier

open Text.Utf8 (size)

/-! ## Words that end at a boundary -/

/-- Of the last character of a word and the character behind the word, exactly one is a word
character.  The end of the text counts as no word character. -/
def EndsThere (word rest : List Char) : Prop :=
  Xor (∃ last, word.getLast? = some last ∧ Text.isWordChar last = true)
    (∃ next, rest.head? = some next ∧ Text.isWordChar next = true)

theorem isBoundary_iff_endsThere (word rest : List Char) :
    Text.isBoundary word.getLast? rest.head? = true ↔ EndsThere word rest := by
  have differ : ∀ first second : Bool,
      (first != second) = true ↔ Xor (first = true) (second = true) := by
    simp [Xor]
  rw [Text.isBoundary, differ, Option.any_eq_true, Option.any_eq_true]
  rfl

theorem endsAtBoundary_iff (word text : List Char) :
    endsAtBoundary word text = true ↔ ∃ rest, text = word ++ rest ∧ EndsThere word rest := by
  rw [endsAtBoundary, Option.any_eq_true]
  simp only [after?_eq_some_iff, isBoundary_iff_endsThere]

/-! ## Keywords with a word behind them -/

/-- At a place of a text one of some keywords stands with a listed word right behind it, and the
word ends there.  The tag says which keyword it is. -/
structure StandsAt
    {κ : Type}
    (keywords : List (κ × List Char))
    (listed : List String)
    (text : String)
    (place : Nat)
    (tag : κ)
    (word : String) :
    Prop where
  isListed : word ∈ listed
  nonempty : word ≠ ""
  occurs : ∃ keyword rest,
    (tag, keyword) ∈ keywords ∧
      text.toList.drop place = keyword ++ (word.toList ++ rest) ∧
      EndsThere word.toList rest

/-- No match stands further to the left, and none at the same place has a longer word. -/
structure IsForemost
    {κ : Type}
    (keywords : List (κ × List Char))
    (listed : List String)
    (text : String)
    (place : Nat)
    (tag : κ)
    (word : String) :
    Prop where
  stands : StandsAt keywords listed text place tag word
  leftmost : ∀ otherPlace otherTag otherWord,
    StandsAt keywords listed text otherPlace otherTag otherWord → place ≤ otherPlace
  longest : ∀ otherTag otherWord,
    StandsAt keywords listed text place otherTag otherWord → otherWord.length ≤ word.length

/-- No keyword is the front of another one, so at most one of them stands at a place. -/
def Exclusive {κ : Type} (keywords : List (κ × List Char)) : Prop :=
  ∀ first ∈ keywords, ∀ second ∈ keywords, first.2 <+: second.2 → first = second

section Keywords

variable {κ : Type} {keywords : List (κ × List Char)}

theorem Exclusive.eq_of_append_eq
    (exclusive : Exclusive keywords)
    {firstTag secondTag : κ} {first second firstRest secondRest : List Char}
    (firstMember : (firstTag, first) ∈ keywords)
    (secondMember : (secondTag, second) ∈ keywords)
    (same : first ++ firstRest = second ++ secondRest) :
    firstTag = secondTag ∧ firstRest = secondRest := by
  have pair_eq : (firstTag, first) = (secondTag, second) := by
    have firstBegins : first <+: second ++ secondRest := ⟨firstRest, same⟩
    rcases List.prefix_or_prefix_of_prefix firstBegins (List.prefix_append second secondRest) with
      begins | begins
    · exact exclusive _ firstMember _ secondMember begins
    · exact (exclusive _ secondMember _ firstMember begins).symm
  obtain ⟨tag_eq, keyword_eq⟩ := Prod.mk.inj pair_eq
  subst keyword_eq
  exact ⟨tag_eq, List.append_cancel_left same⟩

/-! ### One place -/

theorem exists_of_keywordAt?_eq_some
    {words : List (List Char)} {text word : List Char} {tag : κ}
    (found : keywordAt? keywords words text = some (tag, word)) :
    ∃ keyword rest, (tag, keyword) ∈ keywords ∧ text = keyword ++ rest ∧
      wordAt? words rest = some word := by
  obtain ⟨⟨ownTag, keyword⟩, member, hit⟩ := List.exists_of_findSome?_eq_some found
  obtain ⟨rest, behind, wordHit⟩ := Option.bind_eq_some_iff.mp hit
  obtain ⟨taken, isTaken, pair_eq⟩ := Option.map_eq_some_iff.mp wordHit
  obtain ⟨rfl, rfl⟩ := Prod.mk.inj pair_eq
  exact ⟨keyword, rest, member, (after?_eq_some_iff _ _ _).mp behind, isTaken⟩

theorem wordAt?_eq_none_of_keywordAt?_eq_none
    {words : List (List Char)} {text keyword rest : List Char} {tag : κ}
    (missed : keywordAt? keywords words text = none)
    (member : (tag, keyword) ∈ keywords)
    (begins : text = keyword ++ rest) :
    wordAt? words rest = none := by
  have nothing := List.findSome?_eq_none_iff.mp missed (tag, keyword) member
  rw [(after?_eq_some_iff keyword text rest).mpr begins] at nothing
  exact Option.map_eq_none_iff.mp nothing

variable {listed : List String} {text : String} {place : Nat}

theorem endsAtBoundary_of_endsThere
    {word rest : List Char}
    (ends : EndsThere word rest) :
    endsAtBoundary word (word ++ rest) = true :=
  (endsAtBoundary_iff word (word ++ rest)).mpr ⟨rest, rfl, ends⟩

theorem StandsAt.mem_words
    {tag : κ} {word : String}
    (stands : StandsAt keywords listed text place tag word) :
    word.toList ∈ (orderedWords listed).map String.toList :=
  List.mem_map_of_mem ((mem_orderedWords listed word).mpr ⟨stands.isListed, stands.nonempty⟩)

theorem not_standsAt_of_keywordAt?_eq_none
    (missed :
      keywordAt? keywords ((orderedWords listed).map String.toList) (text.toList.drop place) =
        none)
    (tag : κ) (word : String) :
    ¬ StandsAt keywords listed text place tag word := by
  intro stands
  obtain ⟨keyword, rest, member, begins, ends⟩ := stands.occurs
  have nothing := wordAt?_eq_none_of_keywordAt?_eq_none missed member begins
  have fails := List.find?_eq_none.mp nothing word.toList stands.mem_words
  exact fails (endsAtBoundary_of_endsThere ends)

/-- A shorter word in bytes is a shorter word in characters if both stand at the same place. -/
theorem length_le_of_size_le
    {first second behind : List Char}
    (firstBegins : first <+: behind)
    (secondBegins : second <+: behind)
    (shorter : size first ≤ size second) :
    first.length ≤ second.length := by
  rcases List.prefix_or_prefix_of_prefix firstBegins secondBegins with begins | begins
  · exact begins.length_le
  · have sizes : size second ≤ size first := by
      obtain ⟨rest, rfl⟩ := begins
      rw [Text.Utf8.size_append]
      exact Nat.le_add_right _ _
    have same : second = first :=
      Text.Utf8.eq_of_begins_of_size_eq begins (Nat.le_antisymm sizes shorter)
    rw [same]

theorem standsAt_of_keywordAt?_eq_some
    {tag : κ} {word : List Char}
    (found :
      keywordAt? keywords ((orderedWords listed).map String.toList) (text.toList.drop place) =
        some (tag, word)) :
    StandsAt keywords listed text place tag (String.ofList word) := by
  obtain ⟨keyword, rest, member, begins, taken⟩ := exists_of_keywordAt?_eq_some found
  have isLongest := isLongestAt_of_wordAt? (longestFirst_orderedWords listed) taken
  obtain ⟨own, ownMember, rfl⟩ := List.mem_map.mp isLongest.member
  obtain ⟨isListed, nonempty⟩ := (mem_orderedWords listed own).mp ownMember
  obtain ⟨behind, rest_eq, ends⟩ := (endsAtBoundary_iff _ _).mp isLongest.stands
  rw [String.ofList_toList]
  exact ⟨isListed, nonempty, keyword, behind, member, by rw [begins, rest_eq], ends⟩

theorem length_le_of_keywordAt?_eq_some
    (exclusive : Exclusive keywords)
    {tag : κ} {word : List Char}
    (found :
      keywordAt? keywords ((orderedWords listed).map String.toList) (text.toList.drop place) =
        some (tag, word))
    {otherTag : κ} {other : String}
    (stands : StandsAt keywords listed text place otherTag other) :
    other.length ≤ (String.ofList word).length := by
  obtain ⟨keyword, rest, member, begins, taken⟩ := exists_of_keywordAt?_eq_some found
  have isLongest := isLongestAt_of_wordAt? (longestFirst_orderedWords listed) taken
  obtain ⟨otherKeyword, behind, otherMember, otherBegins, ends⟩ := stands.occurs
  -- both keywords stand at this place, so they are the same and so is what follows
  have rest_eq : rest = other.toList ++ behind :=
    (exclusive.eq_of_append_eq member otherMember (begins.symm.trans otherBegins)).2
  have otherStands : endsAtBoundary other.toList rest = true := by
    rw [rest_eq]
    exact endsAtBoundary_of_endsThere ends
  have sizes := isLongest.longest other.toList stands.mem_words otherStands
  have lengths :=
    length_le_of_size_le (begins_of_endsAtBoundary otherStands)
      (begins_of_endsAtBoundary isLongest.stands) sizes
  rw [← String.length_toList, ← String.length_toList, String.toList_ofList]
  exact lengths

/-! ### The whole text -/

/-- The search goes through the places from the left and stops at the first hit. -/
theorem keywordHit?_eq_some_iff_drop
    (words : List (List Char)) (text : List Char) (hit : κ × List Char) :
    keywordHit? keywords words text = some hit ↔
      ∃ place, keywordAt? keywords words (text.drop place) = some hit ∧
        ∀ earlier < place, keywordAt? keywords words (text.drop earlier) = none := by
  induction text with
  | nil =>
      rw [keywordHit?]
      constructor
      · intro found
        exact ⟨0, by simpa using found, by simp⟩
      · rintro ⟨place, found, _⟩
        simpa using found
  | cons c rest inductionHypothesis =>
      rw [keywordHit?]
      cases here : keywordAt? keywords words (c :: rest) with
      | some own =>
          constructor
          · intro found
            exact ⟨0, by simpa [here] using found, by simp⟩
          · rintro ⟨place, found, missed⟩
            cases place with
            | zero => simpa [here] using found
            | succ later =>
                have missedHere := missed 0 (Nat.succ_pos later)
                simp [here] at missedHere
      | none =>
          simp only
          rw [inductionHypothesis]
          constructor
          · rintro ⟨place, found, missed⟩
            refine ⟨place + 1, by simpa using found, ?_⟩
            intro earlier isEarlier
            cases earlier with
            | zero => simpa using here
            | succ before => simpa using missed before (Nat.lt_of_succ_lt_succ isEarlier)
          · rintro ⟨place, found, missed⟩
            cases place with
            | zero => simp [here] at found
            | succ before =>
                refine ⟨before, by simpa using found, ?_⟩
                intro earlier isEarlier
                simpa using missed (earlier + 1) (Nat.succ_lt_succ isEarlier)

theorem keywordAt?_eq_none_of_keywordHit?_eq_none
    {words : List (List Char)} {text : List Char}
    (missed : keywordHit? keywords words text = none)
    (place : Nat) :
    keywordAt? keywords words (text.drop place) = none := by
  induction text generalizing place with
  | nil =>
      rw [keywordHit?] at missed
      simpa using missed
  | cons c rest inductionHypothesis =>
      rw [keywordHit?] at missed
      cases here : keywordAt? keywords words (c :: rest) with
      | some own => simp [here] at missed
      | none =>
          simp only [here] at missed
          cases place with
          | zero => simpa using here
          | succ before => simpa using inductionHypothesis missed before

theorem isForemost_of_keywordHit?_eq_some
    (exclusive : Exclusive keywords)
    {tag : κ} {word : List Char}
    (found :
      keywordHit? keywords ((orderedWords listed).map String.toList) text.toList =
        some (tag, word)) :
    ∃ place, IsForemost keywords listed text place tag (String.ofList word) := by
  obtain ⟨place, here, missed⟩ := (keywordHit?_eq_some_iff_drop _ _ _).mp found
  refine ⟨place, standsAt_of_keywordAt?_eq_some here, ?_, ?_⟩
  · intro otherPlace otherTag other stands
    by_contra further
    exact not_standsAt_of_keywordAt?_eq_none (missed otherPlace (Nat.lt_of_not_le further))
      otherTag other stands
  · intro otherTag other stands
    exact length_le_of_keywordAt?_eq_some exclusive here stands

theorem IsForemost.unique
    (exclusive : Exclusive keywords)
    {firstPlace secondPlace : Nat} {firstTag secondTag : κ} {first second : String}
    (firstForemost : IsForemost keywords listed text firstPlace firstTag first)
    (secondForemost : IsForemost keywords listed text secondPlace secondTag second) :
    firstTag = secondTag ∧ first = second := by
  have place_eq : firstPlace = secondPlace :=
    Nat.le_antisymm (firstForemost.leftmost _ _ _ secondForemost.stands)
      (secondForemost.leftmost _ _ _ firstForemost.stands)
  subst place_eq
  obtain ⟨firstKeyword, firstRest, firstMember, firstBegins, _⟩ := firstForemost.stands.occurs
  obtain ⟨secondKeyword, secondRest, secondMember, secondBegins, _⟩ :=
    secondForemost.stands.occurs
  obtain ⟨tag_eq, behind_eq⟩ :=
    exclusive.eq_of_append_eq firstMember secondMember (firstBegins.symm.trans secondBegins)
  have length_eq : first.length = second.length :=
    Nat.le_antisymm (secondForemost.longest _ _ firstForemost.stands)
      (firstForemost.longest _ _ secondForemost.stands)
  rw [← String.length_toList, ← String.length_toList] at length_eq
  exact ⟨tag_eq, String.toList_inj.mp (List.append_inj behind_eq length_eq).1⟩

end Keywords

/-! ## Words on the line of the processor variable -/

/-- Somewhere in a text the processor variable stands with a listed word behind it, and no newline
stands between the two. -/
def BranchesOn (listed : List String) (text : String) : Prop :=
  ∃ word ∈ listed, word ≠ "" ∧
    ∃ front between rest,
      text.toList =
          front ++ ("CMAKE_SYSTEM_PROCESSOR".toList ++ (between ++ (word.toList ++ rest))) ∧
        '\n' ∉ between

theorem any_after?_iff (words : List (List Char)) (text : List Char) :
    (words.any fun word => (after? word text).isSome) = true ↔
      ∃ word ∈ words, ∃ rest, text = word ++ rest := by
  simp only [List.any_eq_true, Option.isSome_iff_exists, after?_eq_some_iff]

theorem reachesWord_iff (words : List (List Char)) (text : List Char) :
    reachesWord words text = true ↔
      ∃ word ∈ words, ∃ between rest, text = between ++ (word ++ rest) ∧ '\n' ∉ between := by
  induction text with
  | nil =>
      rw [reachesWord, any_after?_iff]
      constructor
      · rintro ⟨word, member, rest, same⟩
        exact ⟨word, member, [], rest, same, List.not_mem_nil⟩
      · rintro ⟨word, member, between, rest, same, _⟩
        have behind := (List.append_eq_nil_iff.mp same.symm).2
        exact ⟨word, member, rest, behind.symm⟩
  | cons c others inductionHypothesis =>
      rw [reachesWord, Bool.or_eq_true, any_after?_iff, Bool.and_eq_true, bne_iff_ne,
        inductionHypothesis]
      constructor
      · rintro (⟨word, member, rest, same⟩ | ⟨different, word, member, between, rest, same, absent⟩)
        · exact ⟨word, member, [], rest, same, List.not_mem_nil⟩
        · refine ⟨word, member, c :: between, rest, by rw [same]; rfl, ?_⟩
          exact List.not_mem_cons_of_ne_of_not_mem different.symm absent
      · rintro ⟨word, member, between, rest, same, absent⟩
        cases between with
        | nil => exact .inl ⟨word, member, rest, same⟩
        | cons d more =>
            obtain ⟨rfl, behind⟩ := List.cons.inj same
            obtain ⟨different, moreAbsent⟩ := List.ne_and_not_mem_of_not_mem_cons absent
            exact .inr ⟨different.symm, word, member, more, rest, behind, moreAbsent⟩

theorem conditionHit_iff (keyword : List Char) (words : List (List Char)) (text : List Char) :
    conditionHit keyword words text = true ↔
      ∃ front behind, text = front ++ (keyword ++ behind) ∧ reachesWord words behind = true := by
  induction text with
  | nil =>
      rw [conditionHit, Option.any_eq_true]
      simp only [after?_eq_some_iff]
      constructor
      · rintro ⟨behind, same, reaches⟩
        exact ⟨[], behind, same, reaches⟩
      · rintro ⟨front, behind, same, reaches⟩
        have here := (List.append_eq_nil_iff.mp same.symm).2
        exact ⟨behind, here.symm, reaches⟩
  | cons c others inductionHypothesis =>
      rw [conditionHit, Bool.or_eq_true, Option.any_eq_true, inductionHypothesis]
      simp only [after?_eq_some_iff]
      constructor
      · rintro (⟨behind, same, reaches⟩ | ⟨front, behind, same, reaches⟩)
        · exact ⟨[], behind, same, reaches⟩
        · exact ⟨c :: front, behind, by rw [same]; rfl, reaches⟩
      · rintro ⟨front, behind, same, reaches⟩
        cases front with
        | nil => exact .inl ⟨behind, same, reaches⟩
        | cons d more => exact .inr ⟨more, behind, (List.cons.inj same).2, reaches⟩

theorem conditionHit_iff_branchesOn (listed : List String) (text : String) :
    conditionHit processorVariable ((orderedWords listed).map String.toList) text.toList = true ↔
      BranchesOn listed text := by
  rw [conditionHit_iff]
  simp only [reachesWord_iff, List.mem_map, mem_orderedWords]
  constructor
  · rintro ⟨front, behind, same, _, ⟨word, ⟨isListed, nonempty⟩, rfl⟩, between, rest, rfl, absent⟩
    exact ⟨word, isListed, nonempty, front, between, rest, same, absent⟩
  · rintro ⟨word, isListed, nonempty, front, between, rest, same, absent⟩
    exact ⟨front, _, same, word.toList, ⟨word, ⟨isListed, nonempty⟩, rfl⟩, between, rest, rfl,
      absent⟩

end Classifier

end ArchAudit
