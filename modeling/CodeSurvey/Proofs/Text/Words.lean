import CodeSurvey.Proofs.Text.Blank

/-!
# Words

The words of a text are read character by character, with the word being read in hand.  This file
says how they lie in the text between the blanks.

## Main results

* `Text.Splits`: how a text is made up of words and blanks.
* `Text.wordsFrom_eq_iff`: the words that are read are those of the text.
-/

namespace CodeSurvey
namespace Text

/-! ## Words -/

/-- Whether a list of characters splits into words: each of them stands behind blanks, has a
character but no blank, and is followed by a blank or by nothing. -/
inductive Splits : List Char → List (List Char) → Prop where
  | blanks {gap : List Char} (hgap : ∀ c ∈ gap, isBlank c = true) : Splits gap []
  | word {gap word rest : List Char} {words : List (List Char)}
      (hgap : ∀ c ∈ gap, isBlank c = true) (hne : word ≠ [])
      (hword : ∀ c ∈ word, isBlank c = false) (hend : ∀ c ∈ rest.head?, isBlank c = true)
      (hrest : Splits rest words) :
      Splits (gap ++ word ++ rest) (word :: words)

section Words

variable {gap word rest current cs : List Char} {words : List (List Char)}

/-- Blanks in front of a word are passed over. -/
theorem wordsFrom_blanks (hgap : ∀ c ∈ gap, isBlank c = true) (rest : List Char) :
    wordsFrom [] (gap ++ rest) = wordsFrom [] rest := by
  induction gap with
  | nil => rfl
  | cons c gap ih =>
      rw [List.forall_mem_cons] at hgap
      rw [List.cons_append, wordsFrom, if_pos hgap.1, if_pos List.isEmpty_nil, ih hgap.2]

/-- The characters of a word are collected. -/
theorem wordsFrom_word (hword : ∀ c ∈ word, isBlank c = false) (current rest : List Char) :
    wordsFrom current (word ++ rest) = wordsFrom (word.reverse ++ current) rest := by
  induction word generalizing current with
  | nil => rfl
  | cons c word ih =>
      rw [List.forall_mem_cons] at hword
      rw [List.cons_append, wordsFrom, if_neg (by simp [hword.1]), ih hword.2]
      simp

/-- A word ends with the text or at a blank. -/
theorem wordsFrom_end (hne : current ≠ []) (hend : ∀ c ∈ rest.head?, isBlank c = true) :
    wordsFrom current rest = current.reverse :: wordsFrom [] rest := by
  cases rest with
  | nil => simp [wordsFrom, hne]
  | cons c rest => simp [wordsFrom, hend c rfl, hne]

theorem Splits.wordsFrom_eq (h : Splits cs words) : wordsFrom [] cs = words := by
  induction h with
  | @blanks gap hgap =>
      have hpassed := wordsFrom_blanks hgap []
      rw [List.append_nil] at hpassed
      rw [hpassed, wordsFrom, if_pos List.isEmpty_nil]
  | @word gap word rest words hgap hne hword hend hrest ih =>
      rw [List.append_assoc, wordsFrom_blanks hgap, wordsFrom_word hword, List.append_nil,
        wordsFrom_end (mt List.reverse_eq_nil_iff.1 hne) hend, ih, List.reverse_reverse]

theorem Splits.cons_blank {c : Char} (h : Splits cs words) (hc : isBlank c = true) :
    Splits (c :: cs) words := by
  cases h with
  | blanks hgap => exact .blanks (List.forall_mem_cons.2 ⟨hc, hgap⟩)
  | word hgap hne hword hend hrest =>
      exact .word (List.forall_mem_cons.2 ⟨hc, hgap⟩) hne hword hend hrest

/-- A word that has been read in reverse stands in front of the words of the rest. -/
theorem Splits.cons_read (hne : current ≠ []) (hcurrent : ∀ c ∈ current, isBlank c = false)
    (hend : ∀ c ∈ rest.head?, isBlank c = true) (h : Splits rest words) :
    Splits (current.reverse ++ rest) (current.reverse :: words) := by
  have hgap : ∀ c ∈ ([] : List Char), isBlank c = true := by
    simp
  have hword : ∀ c ∈ current.reverse, isBlank c = false := by
    intro c hc
    exact hcurrent c (List.mem_reverse.1 hc)
  exact Splits.word hgap (mt List.reverse_eq_nil_iff.1 hne) hword hend h

/-- The word being read is part of the text that is split. -/
theorem splits_wordsFrom (hcurrent : ∀ c ∈ current, isBlank c = false) (cs : List Char) :
    Splits (current.reverse ++ cs) (wordsFrom current cs) := by
  induction cs generalizing current with
  | nil =>
      by_cases hnil : current = []
      · subst hnil
        exact .blanks (by simp)
      · rw [wordsFrom_end hnil (by simp)]
        exact Splits.cons_read hnil hcurrent (by simp) (.blanks (by simp))
  | cons c cs ih =>
      by_cases hc : isBlank c = true
      · have hrest : Splits (c :: cs) (wordsFrom [] (c :: cs)) := by
          have hnone : ∀ c ∈ ([] : List Char), isBlank c = false := by
            simp
          have hsplits : Splits cs (wordsFrom [] cs) := ih hnone
          rw [wordsFrom, if_pos hc, if_pos List.isEmpty_nil]
          exact hsplits.cons_blank hc
        by_cases hnil : current = []
        · subst hnil
          exact hrest
        · rw [wordsFrom_end hnil (by simp [hc])]
          exact hrest.cons_read hnil hcurrent (by simp [hc])
      · have hmore : ∀ d ∈ c :: current, isBlank d = false :=
          List.forall_mem_cons.2 ⟨by simpa using hc, hcurrent⟩
        have hsplits := ih hmore
        rw [List.reverse_cons, List.append_assoc, List.singleton_append] at hsplits
        rw [wordsFrom, if_neg hc]
        exact hsplits

/-- The words of a text are those that it splits into. -/
theorem wordsFrom_eq_iff : wordsFrom [] cs = words ↔ Splits cs words := by
  constructor
  · intro h
    rw [← h]
    have hnone : ∀ c ∈ ([] : List Char), isBlank c = false := by
      simp
    exact splits_wordsFrom hnone cs
  · exact Splits.wordsFrom_eq

end Words

end Text
end CodeSurvey
