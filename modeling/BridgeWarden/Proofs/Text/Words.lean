import BridgeWarden.Proofs.Text.Cuts

/-!
The words of a text, said without a way to find them.

`Worded` takes a text apart into blanks and words by turns. It leaves no choice: each text has just
the words that are found in it (`words_eq_iff`).
-/

namespace BridgeWarden.Text

variable {before word begun rest s : List Char} {found : List (List Char)}

/-- Characters that are not blank, at least one. -/
structure IsWord (word : List Char) : Prop where
  something : word ≠ []
  unblank : ∀ c ∈ word, isBlank c = false

/-- The words of a text, in order. A word goes as far as it can: to a blank or to the end. -/
inductive Worded : List Char → List (List Char) → Prop where
  | none {before : List Char} (blank : ∀ c ∈ before, isBlank c = true) : Worded before []
  | word {before word rest : List Char} {others : List (List Char)}
      (blank : ∀ c ∈ before, isBlank c = true) (whole : IsWord word)
      (apart : ∀ c ∈ rest.head?, isBlank c = true) (more : Worded rest others) :
      Worded (before ++ word ++ rest) (word :: others)

theorem words_append_of_blank (blank : ∀ c ∈ before, isBlank c = true) (rest : List Char) :
    words (before ++ rest) = words rest := by
  induction before with
  | nil => rfl
  | cons c before ih =>
      rw [List.forall_mem_cons] at blank
      rw [List.cons_append, words, wordsFrom, if_pos blank.1]
      exact ih blank.2

/-- What is not blank goes to the word that has begun. -/
theorem wordsFrom_append (unblank : ∀ c ∈ word, isBlank c = false) (begun rest : List Char) :
    wordsFrom begun (word ++ rest) = wordsFrom (word.reverse ++ begun) rest := by
  induction word generalizing begun with
  | nil => rfl
  | cons c word ih =>
      rw [List.forall_mem_cons] at unblank
      rw [List.cons_append, wordsFrom, unblank.1, List.reverse_cons, List.append_assoc]
      exact ih unblank.2 (c :: begun)

theorem wordsFrom_of_apart (something : begun ≠ []) (apart : ∀ c ∈ rest.head?, isBlank c = true) :
    wordsFrom begun rest = begun.reverse :: words rest := by
  have going : begun.isEmpty = false := by simpa using something
  cases rest with
  | nil => simp [words, wordsFrom, going]
  | cons c rest => simp [words, wordsFrom, going, apart c rfl]

theorem words_append_of_word (whole : IsWord word) (apart : ∀ c ∈ rest.head?, isBlank c = true) :
    words (word ++ rest) = word :: words rest := by
  rw [words, wordsFrom_append whole.unblank, List.append_nil,
    wordsFrom_of_apart (by simpa using whole.something) apart, List.reverse_reverse]

theorem words_of_blank (blank : ∀ c ∈ before, isBlank c = true) : words before = [] := by
  have whole := words_append_of_blank blank []
  rwa [List.append_nil] at whole

theorem Worded.words_eq (worded : Worded s found) : words s = found := by
  induction worded with
  | none blank => exact words_of_blank blank
  | word blank whole apart _ ih =>
      rw [List.append_assoc, words_append_of_blank blank, words_append_of_word whole apart, ih]

/-- A text that does not begin with a blank begins with a word. -/
theorem exists_word (something : s ≠ []) (first : ∀ c ∈ s.head?, isBlank c = false) :
    ∃ word rest, s = word ++ rest ∧ IsWord word ∧ ∀ c ∈ rest.head?, isBlank c = true := by
  rcases splitOn_cases isBlank s with unblank | ⟨word, c, rest, rfl, blank, unblank⟩
  · exact ⟨s, [], (List.append_nil s).symm, ⟨something, unblank⟩, by simp⟩
  · refine ⟨word, c :: rest, rfl, ⟨?_, unblank⟩, ?_⟩
    · rintro rfl
      exact absurd blank (by simp [first c rfl])
    · rintro _ ⟨⟩
      exact blank

theorem worded_words (s : List Char) : Worded s (words s) := by
  -- By length, since a step takes off the blanks and a whole word at once.
  induction length : s.length using Nat.strong_induction_on generalizing s with
  | _ n ih =>
      obtain ⟨before, same, blank, first⟩ := exists_trimStart s
      by_cases nothing : trimStart s = []
      · rw [nothing, List.append_nil] at same
        rw [same, words_of_blank blank]
        exact .none blank
      · obtain ⟨word, rest, begins, whole, apart⟩ := exists_word nothing first
        have shorter : rest.length < n := by
          have some := List.length_pos_iff.mpr whole.something
          rw [← length, same, begins, List.length_append, List.length_append]
          omega
        rw [same, begins, words_append_of_blank blank, words_append_of_word whole apart,
          ← List.append_assoc]
        exact .word blank whole apart (ih _ shorter rest rfl)

theorem words_eq_iff : words s = found ↔ Worded s found := by
  constructor
  · rintro rfl
    exact worded_words s
  · exact Worded.words_eq

end BridgeWarden.Text
