import CodeSurvey.Text.Blank
import Mathlib.Data.List.DropRight
import Mathlib.Data.List.Infix
import Mathlib.Data.List.TakeWhile

/-!
# Trimmed texts and infixes

Trimming and the search for an infix are recursions on characters.  This file says what they come
to: a text between two characters that are not blank is trimmed already, and the search succeeds
exactly if the pattern is a contiguous part of the text.

## Main results

* `Text.dropWhile_ne_eq_cons_iff`, `Text.dropWhileEnd_ne_eq_concat_iff`: a text cut at the first or
  the last place of a character.
* `Text.trim_eq_self`: a text that neither begins nor ends with a blank is not changed.
* `Text.Strips`, `Text.trimChars_eq_iff`: what is left of a text without what is dropped at its
  ends.
* `Text.isBlank_of_mem_head?_trim`, `Text.isBlank_of_mem_getLast?_trim`: every trimmed text is of
  this kind.
* `Text.isEmpty_trim`: nothing is left of a text that holds nothing but blanks.
* `Text.hasInfix_iff`: the search for an infix.
* `Text.infix_sentence_iff`: a pattern without separators occurs in a sentence exactly if it occurs
  in one of its words.
-/

namespace CodeSurvey
namespace Text

/-! ## Cutting at a character -/

section Cut

variable {c : Char} {cs : List Char}

/-- What is left from the first place of a character on begins with this character. -/
theorem dropWhile_ne_eq_cons_iff {tail : List Char} :
    cs.dropWhile (· != c) = c :: tail ↔ ∃ front, cs = front ++ c :: tail ∧ c ∉ front := by
  constructor
  · intro h
    refine ⟨cs.takeWhile (· != c), ?_, ?_⟩
    · rw [← h, List.takeWhile_append_dropWhile]
    · intro hmem
      simpa using List.mem_takeWhile_imp hmem
  · rintro ⟨front, rfl, hfront⟩
    rw [List.dropWhile_append_of_pos]
    · simp
    · rintro d hd
      simpa using fun hdc : d = c => hfront (hdc ▸ hd)

/-- If anything is left, the character is. -/
theorem exists_dropWhile_ne_eq_cons (h : cs.dropWhile (· != c) ≠ []) :
    ∃ tail, cs.dropWhile (· != c) = c :: tail := by
  obtain ⟨d, tail, hd⟩ := List.exists_cons_of_ne_nil h
  have hstop := List.head_dropWhile_not (p := (· != c)) h
  simp only [hd, List.head_cons, bne_eq_false_iff_eq] at hstop
  exact ⟨tail, by rw [hd, hstop]⟩

/-- What is left up to the last place of a character ends with this character. -/
theorem dropWhileEnd_ne_eq_concat_iff {front : List Char} :
    dropWhileEnd (· != c) cs = front ++ [c] ↔ ∃ rest, cs = front ++ c :: rest ∧ c ∉ rest := by
  rw [dropWhileEnd, List.reverse_eq_iff, List.reverse_append, List.reverse_singleton,
    List.singleton_append, dropWhile_ne_eq_cons_iff]
  constructor
  · rintro ⟨rest, hcs, hrest⟩
    refine ⟨rest.reverse, ?_, by simpa using hrest⟩
    rw [← cs.reverse_reverse, hcs]
    simp
  · rintro ⟨rest, rfl, hrest⟩
    exact ⟨rest.reverse, by simp, by simpa using hrest⟩

/-- If anything is left up to the last place of a character, the character is. -/
theorem exists_dropWhileEnd_ne_eq_concat (h : dropWhileEnd (· != c) cs ≠ []) :
    ∃ front, dropWhileEnd (· != c) cs = front ++ [c] := by
  obtain ⟨tail, htail⟩ := exists_dropWhile_ne_eq_cons (mt List.reverse_eq_nil_iff.2 h)
  exact ⟨tail.reverse, by rw [dropWhileEnd, htail, List.reverse_cons]⟩

end Cut

/-! ## Trimming -/

/-- Characters between two that are not dropped are trimmed already. -/
theorem trimChars_eq_self {drop : Char → Bool} {cs : List Char}
    (hfirst : ∀ c ∈ cs.head?, drop c = false) (hlast : ∀ c ∈ cs.getLast?, drop c = false) :
    trimChars drop cs = cs := by
  have hkept : ∀ ds : List Char, (∀ c ∈ ds.head?, drop c = false) → ds.dropWhile drop = ds := by
    intro ds hhead
    cases ds with
    | nil => rfl
    | cons d ds => simp [hhead d rfl]
  rw [trimChars, hkept cs hfirst, dropWhileEnd, hkept cs.reverse, List.reverse_reverse]
  rwa [List.head?_reverse]

/-- A text that neither begins nor ends with a blank is not changed. -/
theorem trim_eq_self {text : String} (hfirst : ∀ c ∈ text.toList.head?, isBlank c = false)
    (hlast : ∀ c ∈ text.toList.getLast?, isBlank c = false) : trim text = text := by
  rw [trim, trimWhile, trimChars_eq_self hfirst hlast, String.ofList_toList]

/-- Dropping stops at a character that is not dropped. -/
theorem of_mem_head?_dropWhile {drop : Char → Bool} {cs : List Char} {c : Char}
    (hc : c ∈ (cs.dropWhile drop).head?) : drop c = false := by
  have hstop := List.head?_dropWhile_not drop cs
  rwa [Option.mem_def.1 hc] at hstop

/-- Whether a part is left of a list of characters if those that satisfy `drop` are taken away at
both ends. -/
structure Strips (drop : Char → Bool) (cs core : List Char) : Prop where
  around : ∃ front back, cs = front ++ core ++ back ∧ (∀ c ∈ front, drop c = true) ∧
    ∀ c ∈ back, drop c = true
  head : ∀ c ∈ core.head?, drop c = false
  last : ∀ c ∈ core.getLast?, drop c = false

section Strips

variable {drop : Char → Bool} {cs core front back : List Char}

/-- What is dropped may stand behind a text. -/
theorem dropWhileEnd_append (hback : ∀ c ∈ back, drop c = true) (cs : List Char) :
    dropWhileEnd drop (cs ++ back) = dropWhileEnd drop cs := by
  unfold dropWhileEnd
  rw [List.reverse_append, List.dropWhile_append_of_pos]
  intro c hc
  exact hback c (List.mem_reverse.1 hc)

/-- What is dropped may stand around a text. -/
theorem trimChars_append (hfront : ∀ c ∈ front, drop c = true)
    (hback : ∀ c ∈ back, drop c = true) (cs : List Char) :
    trimChars drop (front ++ cs ++ back) = trimChars drop cs := by
  unfold trimChars
  rw [List.append_assoc, List.dropWhile_append_of_pos hfront, List.dropWhile_append]
  split
  · rename_i hempty
    rw [List.dropWhile_eq_nil_iff.2 hback, List.isEmpty_iff.1 hempty]
  · rw [dropWhileEnd_append hback]

/-- Trimming leaves a core between what is dropped. -/
theorem strips_trimChars (drop : Char → Bool) (cs : List Char) :
    Strips drop cs (trimChars drop cs) := by
  have hfront : cs.takeWhile drop ++ cs.dropWhile drop = cs := List.takeWhile_append_dropWhile
  have hback : dropWhileEnd drop (cs.dropWhile drop) ++
      ((cs.dropWhile drop).reverse.takeWhile drop).reverse = cs.dropWhile drop := by
    unfold dropWhileEnd
    rw [← List.reverse_append, List.takeWhile_append_dropWhile, List.reverse_reverse]
  constructor
  · refine ⟨cs.takeWhile drop, ((cs.dropWhile drop).reverse.takeWhile drop).reverse, ?_, ?_, ?_⟩
    · unfold trimChars
      rw [List.append_assoc, hback, hfront]
    · intro c hc
      exact List.mem_takeWhile_imp hc
    · intro c hc
      exact List.mem_takeWhile_imp (List.mem_reverse.1 hc)
  · intro c hc
    have hhead : c ∈ (cs.dropWhile drop).head? := by
      rw [← hback, List.head?_append, Option.mem_def]
      exact Option.or_eq_some_iff.2 (.inl hc)
    exact of_mem_head?_dropWhile hhead
  · intro c hc
    unfold trimChars dropWhileEnd at hc
    rw [List.getLast?_reverse] at hc
    exact of_mem_head?_dropWhile hc

/-- Stripping leaves the one part that can be left. -/
theorem trimChars_eq_iff : trimChars drop cs = core ↔ Strips drop cs core := by
  constructor
  · intro h
    rw [← h]
    exact strips_trimChars drop cs
  · intro h
    rcases h.around with ⟨front, back, rfl, hfront, hback⟩
    rw [trimChars_append hfront hback, trimChars_eq_self h.head h.last]

end Strips

/-- No trimmed text begins with a blank. -/
theorem isBlank_of_mem_head?_trim (text : String) :
    ∀ c ∈ (trim text).toList.head?, isBlank c = false := by
  rw [trim, trimWhile, String.toList_ofList]
  exact (strips_trimChars isBlank text.toList).head

/-- No trimmed text ends with a blank. -/
theorem isBlank_of_mem_getLast?_trim (text : String) :
    ∀ c ∈ (trim text).toList.getLast?, isBlank c = false := by
  rw [trim, trimWhile, String.toList_ofList]
  exact (strips_trimChars isBlank text.toList).last

/-- Trimming a text again changes nothing. -/
@[simp]
theorem trim_trim (text : String) : trim (trim text) = trim text :=
  trim_eq_self (isBlank_of_mem_head?_trim text) (isBlank_of_mem_getLast?_trim text)

/-- Nothing is left of a text exactly if it holds nothing but blanks. -/
theorem isEmpty_trim (text : String) : (trim text).isEmpty = isBlankText text := by
  have hstrips : Strips isBlank text.toList [] ↔ ∀ c ∈ text.toList, isBlank c = true := by
    constructor
    · intro h
      rcases h.around with ⟨front, back, hsplit, hfront, hback⟩
      rw [hsplit, List.append_nil]
      exact List.forall_mem_append.2 ⟨hfront, hback⟩
    · intro h
      exact ⟨⟨text.toList, [], by simp, h, by simp⟩, by simp, by simp⟩
  rw [Bool.eq_iff_iff, isBlankText, List.all_eq_true, ← hstrips, ← trimChars_eq_iff,
    String.isEmpty_iff, trim, trimWhile]
  exact String.ofList_eq_empty_iff

/-- Two texts are blank together if each of them is. -/
theorem isBlankText_append (first rest : String) :
    isBlankText (first ++ rest) = (isBlankText first && isBlankText rest) := by
  unfold isBlankText
  rw [String.toList_append, List.all_append]

/-- Trimming leaves something that is not blank, if there was any. -/
theorem isBlankText_trim (text : String) : isBlankText (trim text) = isBlankText text := by
  rw [← isEmpty_trim text]
  by_cases hempty : trim text = ""
  · rw [hempty]
    rfl
  · have hne : (trim text).toList ≠ [] := by
      rwa [Ne, String.toList_eq_nil_iff]
    have hhead := isBlank_of_mem_head?_trim text _ (List.head_mem_head? hne)
    have hblank : isBlankText (trim text) = false := by
      rw [isBlankText, List.all_eq_false]
      exact ⟨_, List.head_mem hne, by simp [hhead]⟩
    rw [hblank, Eq.comm, String.isEmpty_eq_false_iff]
    exact hempty

/-! ## Infixes -/

/-- The search among characters finds exactly the contiguous parts. -/
theorem hasInfixChars_iff (pattern cs : List Char) :
    hasInfixChars pattern cs = true ↔ pattern <:+: cs := by
  induction cs with
  | nil => simp [hasInfixChars]
  | cons c cs ih =>
      rw [hasInfixChars, Bool.or_eq_true, ih, List.isPrefixOf_iff_prefix, List.infix_cons_iff]

/-- The search in a text finds exactly its contiguous parts. -/
theorem hasInfix_iff (text pattern : String) :
    hasInfix text pattern = true ↔ pattern.toList <:+: text.toList :=
  hasInfixChars_iff ..

section Separator

variable {α : Type} {separator : α} {pattern : List α}

/-- An occurrence of a pattern cannot reach across an element that the pattern does not contain. -/
theorem infix_append_separator_iff (h : separator ∉ pattern) (first rest : List α) :
    pattern <:+: first ++ separator :: rest ↔ pattern <:+: first ∨ pattern <:+: rest := by
  have hbegins : ∀ part, part <+: separator :: rest → part ⊆ pattern → part = [] := by
    intro part hpart hsubset
    rcases List.prefix_cons_iff.1 hpart with rfl | ⟨tail, rfl, _⟩
    · rfl
    · exact absurd (hsubset List.mem_cons_self) h
  constructor
  · intro hoccurs
    rcases List.infix_append_iff.1 hoccurs with hfirst | hrest | ⟨front, back, rfl, hfront, hback⟩
    · exact .inl hfirst
    · rcases List.infix_cons_iff.1 hrest with hstart | hrest
      · rw [hbegins pattern hstart (List.Subset.refl _)]
        exact .inl List.nil_infix
      · exact .inr hrest
    · rw [hbegins back hback (List.subset_append_right _ _), List.append_nil]
      exact .inl hfront.isInfix
  · rintro (hfirst | hrest)
    · exact hfirst.trans (List.prefix_append _ _).isInfix
    · exact hrest.trans (List.suffix_append_of_suffix (List.suffix_cons _ _)).isInfix

/-- A pattern without separators occurs in a sentence exactly if it occurs in one of its words. -/
theorem infix_sentence_iff (hseparator : separator ∉ pattern) (hne : pattern ≠ [])
    (words : List (List α)) :
    pattern <:+: [separator].intercalate words ↔ ∃ word ∈ words, pattern <:+: word := by
  induction words with
  | nil => simp [hne]
  | cons word rest ih =>
      cases rest with
      | nil => simp
      | cons next rest =>
          rw [List.intercalate_cons_cons, List.append_assoc, List.singleton_append,
            infix_append_separator_iff hseparator, ih]
          exact (List.exists_mem_cons_iff ..).symm

end Separator

end Text
end CodeSurvey
