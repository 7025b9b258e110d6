import CodeSurvey.Ensemble
import CodeSurvey.Proofs.Text.Words
import Mathlib.Data.List.Forall2

/-!
# What becomes of several views

Of several views the longest one is told, without the blanks around it, and the others add what they
name and it does not.  This file says so without going through the views: which view is the longest,
which words the others are read as, and which of them are named.

## Main results

* `ExpertView.base?_eq_some_iff`: the longest view.
* `Ensemble.foldl_addTerm`: the terms that the other views add.
* `Ensemble.Reconciles`: how views are reconciled.
* `Ensemble.integration`: the reconciled text.
-/

namespace CodeSurvey

/-! ## The longest view -/

namespace ExpertView

variable {views others : List ExpertView} {view : ExpertView}

/-- Whether a view is the first one of the greatest length, and which are the others. -/
def FirstLongest (views : List ExpertView) (view : ExpertView) (others : List ExpertView) : Prop :=
  ∃ before after, views = before ++ view :: after ∧ others = before ++ after ∧
    (∀ other ∈ before, other.size < view.size) ∧ ∀ other ∈ after, other.size ≤ view.size

/-- The longest view is one of the views. -/
theorem FirstLongest.mem (h : FirstLongest views view others) : view ∈ views := by
  rcases h with ⟨before, after, rfl, -⟩
  simp

/-- No view is longer than the longest. -/
theorem FirstLongest.size_le (h : FirstLongest views view others) {other : ExpertView}
    (hother : other ∈ views) : other.size ≤ view.size := by
  rcases h with ⟨before, after, rfl, -, hbefore, hafter⟩
  rcases List.mem_append.1 hother with hmem | hmem
  · exact Nat.le_of_lt (hbefore other hmem)
  · rcases List.mem_cons.1 hmem with rfl | hmem
    · exact Nat.le_refl _
    · exact hafter other hmem

/-- A shorter view in front of the longest one is one of the others. -/
theorem FirstLongest.cons (h : FirstLongest views view others) {first : ExpertView}
    (hfirst : first.size < view.size) :
    FirstLongest (first :: views) view (first :: others) := by
  rcases h with ⟨before, after, rfl, rfl, hbefore, hafter⟩
  exact ⟨first :: before, after, rfl, rfl, List.forall_mem_cons.2 ⟨hfirst, hbefore⟩, hafter⟩

/-- Without views there is no longest one, and only then. -/
theorem base?_eq_none_iff : base? views = none ↔ views = [] := by
  cases views with
  | nil => simp [base?]
  | cons first rest =>
      rw [base?]
      split
      · simp
      · split
        · simp
        · simp

/-- What is taken for the base is the first view of the greatest length. -/
theorem firstLongest_of_base? (h : base? views = some (view, others)) :
    FirstLongest views view others := by
  induction views generalizing view others with
  | nil => cases h
  | cons first rest ih =>
      cases hrest : base? rest with
      | none =>
          rw [base?, hrest] at h
          cases h
          exact ⟨[], [], by rw [base?_eq_none_iff.1 hrest, List.nil_append], rfl, by simp, by simp⟩
      | some found =>
          rcases found with ⟨best, more⟩
          have hbest : FirstLongest rest best more := ih hrest
          simp only [base?, hrest] at h
          by_cases hle : best.size ≤ first.size
          · rw [if_pos hle] at h
            cases h
            refine ⟨[], rest, rfl, rfl, by simp, ?_⟩
            intro other hother
            exact Nat.le_trans (hbest.size_le hother) hle
          · rw [if_neg hle] at h
            cases h
            exact hbest.cons (Nat.lt_of_not_le hle)

/-- The first view of the greatest length is taken for the base. -/
theorem base?_of_firstLongest (h : FirstLongest views view others) :
    base? views = some (view, others) := by
  rcases h with ⟨before, after, rfl, rfl, hbefore, hafter⟩
  induction before with
  | nil =>
      simp only [List.nil_append, base?]
      cases hrest : base? after with
      | none => simp [base?_eq_none_iff.1 hrest]
      | some found =>
          have hbest := (firstLongest_of_base? hrest).mem
          simp [hafter _ hbest]
  | cons first before ih =>
      rw [List.forall_mem_cons] at hbefore
      have hlt : ¬ view.size ≤ first.size := Nat.not_le_of_lt hbefore.1
      simp [base?, ih hbefore.2, hlt]

/-- The base of a reconciled text is the first one of the longest views. -/
theorem base?_eq_some_iff :
    base? views = some (view, others) ↔ FirstLongest views view others :=
  ⟨firstLongest_of_base?, base?_of_firstLongest⟩

end ExpertView

/-! ## Terms -/

namespace Ensemble

open ExpertView (FirstLongest)

/-- Whether a word begins with a capital letter and all its other letters are small. -/
def TitleCase (word : List Char) : Prop :=
  ∃ first rest, word = first :: rest ∧ Text.isUppercase first = true ∧
    ∀ c ∈ rest, Text.isAlphabetic c = true → Text.isLowercase c = true

/-- A word is recognized as title case by its first letter and by the others. -/
theorem isTitleCase_iff (word : String) : isTitleCase word = true ↔ TitleCase word.toList := by
  unfold isTitleCase TitleCase
  split
  · rename_i hnil
    simp [hnil]
  · rename_i first rest hcons
    simp [hcons, or_iff_not_imp_left]

/-- Whether a word is a term that the base does not contain. -/
structure NewTerm (base word : String) : Prop where
  titleCase : TitleCase word.toList
  new : ¬ word.toList <:+: base.toList

/-- A word is taken for a term if it is in title case and the base does not contain it. -/
theorem newTerm_iff (base word : String) :
    (isTitleCase word && !Text.hasInfix base word) = true ↔ NewTerm base word := by
  rw [Bool.and_eq_true, Bool.not_eq_true', Bool.eq_false_iff, Ne, Text.hasInfix_iff,
    isTitleCase_iff]
  exact ⟨fun h => ⟨h.1, h.2⟩, fun h => ⟨h.titleCase, h.new⟩⟩

instance (base word : String) : Decidable (NewTerm base word) :=
  decidable_of_iff _ (newTerm_iff base word)

/-- The distinct new terms among words, in order of their first occurrence. -/
def newTerms (base : String) (words : List String) : List String :=
  (words.filter fun word => NewTerm base word).eraseDups

/-- A word is added to the terms if it is a new one and not among them. -/
theorem addTerm_eq (base word : String) (terms : List String) :
    addTerm base terms word =
      if NewTerm base word ∧ word ∉ terms then terms ++ [word] else terms := by
  unfold addTerm
  simp only [← newTerm_iff, Bool.and_eq_true, Bool.not_eq_true', ← Bool.not_eq_true,
    List.contains_iff_mem]

/-- Collecting the terms leaves each of them at its first occurrence. -/
theorem foldl_addTerm (base : String) (words : List String) :
    words.foldl (addTerm base) [] = newTerms base words := by
  unfold newTerms
  induction words using List.reverseRecOn with
  | nil => rfl
  | append_singleton words word ih =>
      rw [List.foldl_append, ih, List.foldl_cons, List.foldl_nil, addTerm_eq, List.filter_append,
        List.eraseDups_append]
      by_cases hnew : NewTerm base word
      · by_cases hmem : word ∈ words
        · simp [hnew, hmem, List.removeAll]
        · simp [hnew, hmem, List.removeAll, List.eraseDups_cons]
      · simp [hnew, List.removeAll]

/-! ## The words of the other views -/

/-- Whether these are the words of several views in order, each of them without the characters
around its letters and numerals. -/
def BareWords (views : List ExpertView) (bare : List String) : Prop :=
  ∃ words : List (List (List Char)),
    List.Forall₂ (fun view words => Text.Splits view.text.toList words) views words ∧
    List.Forall₂ (fun word bare => Text.Strips (fun c => !Text.isAlphanumeric c) word bare.toList)
      words.flatten bare

/-- Reading the words of each view splits it at its blanks. -/
theorem splits_iff (views : List ExpertView) (words : List (List (List Char))) :
    List.Forall₂ (fun view words => Text.Splits view.text.toList words) views words ↔
      views.map (fun view => Text.wordsFrom [] view.text.toList) = words := by
  simp only [← Text.wordsFrom_eq_iff]
  rw [← List.forall₂_map_left_iff, List.forall₂_eq_eq_eq]

/-- Trimming leaves the core of a text, told without the way in which it is found. -/
theorem trimWhile_eq_iff (drop : Char → Bool) (text core : String) :
    Text.trimWhile drop text = core ↔ Text.Strips drop text.toList core.toList := by
  unfold Text.trimWhile
  rw [← Text.trimChars_eq_iff, ← String.toList_inj, String.toList_ofList]

/-- The bare words are what is left of words without the characters around them. -/
theorem strips_iff (words : List (List Char)) (bare : List String) :
    List.Forall₂ (fun word bare => Text.Strips (fun c => !Text.isAlphanumeric c) word bare.toList)
        words bare ↔
      words.map (fun word => bareWord (String.ofList word)) = bare := by
  have hstrips : ∀ word bare, Text.Strips (fun c => !Text.isAlphanumeric c) word bare.toList ↔
      bareWord (String.ofList word) = bare := by
    intro word bare
    rw [bareWord, trimWhile_eq_iff, String.toList_ofList]
  simp only [hstrips]
  rw [← List.forall₂_map_left_iff, List.forall₂_eq_eq_eq]

/-- The words that the terms are sought among. -/
theorem bareWords_iff (views : List ExpertView) (bare : List String) :
    BareWords views bare ↔
      (views.flatMap fun view => (Text.words view.text).map bareWord) = bare := by
  unfold BareWords
  simp only [splits_iff, strips_iff, exists_eq_left', Text.words, List.map_map, List.flatMap_def,
    List.map_flatten]
  rfl

/-! ## The reconciled text -/

/-- How views are reconciled: nothing is made of none, and of several the first one of the greatest
length is told without the blanks around it, followed by the first three of the distinct new terms
of the others, if there are any. -/
inductive Reconciles : List ExpertView → String → Prop where
  | nothing : Reconciles [] ""
  | alone {views others : List ExpertView} {view : ExpertView} {base : String}
      {bare : List String} (hlongest : FirstLongest views view others)
      (hbase : Text.Strips Text.isBlank view.text.toList base.toList)
      (hbare : BareWords others bare) (hnone : ∀ word ∈ bare, ¬ NewTerm base word) :
      Reconciles views base
  | related {views others : List ExpertView} {view : ExpertView} {base : String}
      {bare : List String} (hlongest : FirstLongest views view others)
      (hbase : Text.Strips Text.isBlank view.text.toList base.toList)
      (hbare : BareWords others bare) (hsome : ∃ word ∈ bare, NewTerm base word) :
      Reconciles views (base ++ " Related aspects: " ++
        ", ".intercalate ((newTerms base bare).take 3) ++ ".")

section Integration

variable {views others : List ExpertView} {view : ExpertView} {base : String} {bare : List String}

/-- No term is new exactly if none of the words is. -/
theorem newTerms_eq_nil_iff : newTerms base bare = [] ↔ ∀ word ∈ bare, ¬ NewTerm base word := by
  simp [newTerms, List.eq_nil_iff_forall_not_mem]

/-- Without new terms the base is told alone. -/
theorem withTerms_of_forall (hnone : ∀ word ∈ bare, ¬ NewTerm base word) :
    withTerms base ((newTerms base bare).take maxRelatedTerms) = base := by
  rw [newTerms_eq_nil_iff.2 hnone]
  rfl

/-- New terms are told after the base, the first three of them. -/
theorem withTerms_of_exists (hsome : ∃ word ∈ bare, NewTerm base word) :
    withTerms base ((newTerms base bare).take maxRelatedTerms) =
      base ++ " Related aspects: " ++ ", ".intercalate ((newTerms base bare).take 3) ++ "." := by
  have hne : newTerms base bare ≠ [] := by
    rw [Ne, newTerms_eq_nil_iff]
    simpa using hsome
  unfold withTerms maxRelatedTerms
  rw [if_neg]
  simpa using hne

/-- Views are integrated by the longest one and the new terms of the others. -/
theorem integrate_eq (hlongest : FirstLongest views view others) (hbare : BareWords others bare) :
    integrate views = withTerms (Text.trim view.text)
      ((newTerms (Text.trim view.text) bare).take maxRelatedTerms) := by
  unfold integrate
  rw [ExpertView.base?_eq_some_iff.2 hlongest]
  simp only [relatedTerms, (bareWords_iff others bare).1 hbare, foldl_addTerm]

/-- A text is what views are integrated to exactly if it reconciles them. -/
theorem integrate_eq_iff (text : String) : integrate views = text ↔ Reconciles views text := by
  constructor
  · rintro rfl
    cases hbase : ExpertView.base? views with
    | none =>
        rw [ExpertView.base?_eq_none_iff.1 hbase]
        exact .nothing
    | some found =>
        rcases found with ⟨view, others⟩
        have hlongest := ExpertView.base?_eq_some_iff.1 hbase
        have hbare : BareWords others _ := (bareWords_iff others _).2 rfl
        have hstrips := (trimWhile_eq_iff Text.isBlank view.text _).1 rfl
        rw [integrate_eq hlongest hbare]
        by_cases hsome : ∃ word ∈ others.flatMap fun view => (Text.words view.text).map bareWord,
            NewTerm (Text.trim view.text) word
        · rw [withTerms_of_exists hsome]
          exact .related hlongest hstrips hbare hsome
        · push Not at hsome
          rw [withTerms_of_forall hsome]
          exact .alone hlongest hstrips hbare hsome
  · intro h
    cases h with
    | nothing => rfl
    | alone hlongest hbase hbare hnone =>
        have htrim := (trimWhile_eq_iff _ _ _).2 hbase
        rw [integrate_eq hlongest hbare, Text.trim, htrim, withTerms_of_forall hnone]
    | related hlongest hbase hbare hsome =>
        have htrim := (trimWhile_eq_iff _ _ _).2 hbase
        rw [integrate_eq hlongest hbare, Text.trim, htrim, withTerms_of_exists hsome]

/-- Nothing is told but the base exactly if no word of the others is a new term. -/
theorem integrate_eq_base_iff (hlongest : FirstLongest views view others)
    (hbare : BareWords others bare) :
    integrate views = Text.trim view.text ↔
      ∀ word ∈ bare, ¬ NewTerm (Text.trim view.text) word := by
  rw [integrate_eq hlongest hbare]
  constructor
  · intro hbase word hword hnew
    rw [withTerms_of_exists ⟨word, hword, hnew⟩] at hbase
    have hlength := congrArg String.length hbase
    simp only [String.length_append] at hlength
    have hsuffix : ".".length = 1 := rfl
    omega
  · exact withTerms_of_forall

/-- The reconciled text is the one that is specified: the longest view, the earliest of equally long
ones, without the blanks around it, and the first three of the distinct terms in title case that the
words of the other views name and the base does not contain, if there are any.  So it is the base
alone exactly if there are none. -/
theorem integration (views : List ExpertView) :
    (∀ text, integrate views = text ↔ Reconciles views text) ∧
    ∀ view others bare, FirstLongest views view others → BareWords others bare →
      (integrate views = Text.trim view.text ↔
        ∀ word ∈ bare, ¬ NewTerm (Text.trim view.text) word) :=
  ⟨integrate_eq_iff, fun _ _ _ => integrate_eq_base_iff⟩

end Integration

end Ensemble

/-! ## Three views -/

namespace ThreeViews

def logic : ExpertView :=
  ⟨"logic", "Kafka, «Élan», (Redis), HTTP2 and the Cache; Kafka, Zoë."⟩

/-- This view is as long as the next one, if its blanks are counted. -/
def intent : ExpertView :=
  ⟨"intent", "  Reads the Cache and writes a report to the archive.            "⟩

def structural : ExpertView :=
  ⟨"structure", "Module with a Redis client; it reads whatever has been archived.."⟩

def views : List ExpertView := [logic, intent, structural]

/-- The words of the other two views. -/
def bare : List String := [
  "Kafka", "Élan", "Redis", "HTTP2", "and", "the", "Cache", "Kafka", "Zoë", "Module", "with", "a",
  "Redis", "client", "it", "reads", "whatever", "has", "been", "archived"]

/-- Of the two longest views the first one is taken, since its blanks are counted. -/
theorem firstLongest : ExpertView.FirstLongest views intent [logic, structural] :=
  ⟨[logic], [structural], rfl, rfl, by decide +kernel, by decide +kernel⟩

/-- These are the words of the other two views, without what surrounds them. -/
theorem bareWords : Ensemble.BareWords [logic, structural] bare :=
  (Ensemble.bareWords_iff _ _).2 (by decide +kernel)

end ThreeViews

namespace Ensemble

/-- Three of five terms are told: one of the words is no term, and another one is known. -/
theorem integration_three_views :
    Reconciles ThreeViews.views
        "Reads the Cache and writes a report to the archive. Related aspects: Kafka, Élan, Redis." ∧
      integrate ThreeViews.views ≠ Text.trim ThreeViews.intent.text := by
  obtain ⟨hspecified, halone⟩ := integration ThreeViews.views
  have hbase := halone ThreeViews.intent _ _ ThreeViews.firstLongest ThreeViews.bareWords
  refine ⟨(hspecified _).1 (by decide +kernel), ?_⟩
  rw [Ne, hbase]
  intro hnone
  exact hnone "Élan" (by decide) (by decide +kernel)

end Ensemble
end CodeSurvey
