import CodeSurvey.EntityId
import Mathlib.Data.List.DropRight
import Mathlib.Data.List.Infix

/-!
# The parts of an identity

The path of an identity ends at its first pair of colons, and its symbol starts behind the last one.
Pairs may overlap: in three colons the first pair and the last one share a colon.  So a path is found
again in an identity that is built from it unless it ends in a colon, and a symbol unless it starts with
one.

## Main results

* `EntityId.beforeFirstPair_eq_iff`, `EntityId.afterLastPair_eq_some_iff`: what is found from either
  end.
* `EntityId.Decomposed`: how the parts of an identity are related to its text and to each other.
* `EntityId.decomposition`: the parts of every identity, and of one that is built from its parts.
-/

namespace CodeSurvey
namespace EntityId

variable {c : Char} {cs front rest : List Char}

/-! ## Pairs of colons -/

/-- Whether two colons follow each other somewhere. -/
abbrev HasPair (cs : List Char) : Prop := [':', ':'] <:+: cs

/-- A pair of colons is at the beginning of a text or further behind. -/
theorem hasPair_cons_iff : HasPair (c :: cs) ↔ (c = ':' ∧ [':'] <+: cs) ∨ HasPair cs := by
  rw [HasPair, List.infix_cons_iff, List.cons_prefix_cons, eq_comm]

/-- Two colons in the middle of a text are a pair. -/
theorem hasPair_middle (front rest : List Char) : HasPair (front ++ ':' :: ':' :: rest) :=
  ⟨front, rest, by simp⟩

/-! ## The last pair -/

/-- Nothing follows a last pair exactly if there is no pair. -/
theorem afterLastPair_eq_none_iff : afterLastPair cs = none ↔ ¬HasPair cs := by
  fun_induction afterLastPair cs with
  | case1 => simp [HasPair]
  | case2 c cs rest hrest ih =>
      rw [hrest] at ih
      simp only [reduceCtorEq, false_iff, not_not] at ih ⊢
      exact hasPair_cons_iff.2 (.inr ih)
  | case3 rest hrest ih => simp [hasPair_cons_iff]
  | case4 c cs hrest hpair ih =>
      simp only [hrest, true_iff] at ih ⊢
      rw [hasPair_cons_iff, not_or]
      refine ⟨?_, ih⟩
      rintro ⟨rfl, rest, hcs⟩
      exact hpair rest rfl hcs.symm

/-- What is found follows a pair, and there is no pair behind it. -/
theorem exists_of_afterLastPair (h : afterLastPair cs = some rest) :
    (∃ front, cs = front ++ ':' :: ':' :: rest) ∧ ¬HasPair (':' :: rest) := by
  fun_induction afterLastPair cs with
  | case1 => cases h
  | case2 c cs found hfound ih =>
      obtain rfl := Option.some.inj h
      obtain ⟨⟨front, hfront⟩, hlast⟩ := ih hfound
      exact ⟨⟨c :: front, by rw [hfront, List.cons_append]⟩, hlast⟩
  | case3 found hnone ih =>
      obtain rfl := Option.some.inj h
      exact ⟨⟨[], rfl⟩, afterLastPair_eq_none_iff.1 hnone⟩
  | case4 => cases h

/-- What follows a pair follows the last pair, if no pair begins later. -/
theorem afterLastPair_middle (front : List Char) (h : ¬HasPair (':' :: rest)) :
    afterLastPair (front ++ ':' :: ':' :: rest) = some rest := by
  induction front with
  | nil =>
      rw [List.nil_append, afterLastPair, afterLastPair_eq_none_iff.2 h]
  | cons c front ih => simp only [List.cons_append, afterLastPair, ih]

/-- What is found from the end follows a pair, behind which there is no other. -/
theorem afterLastPair_eq_some_iff :
    afterLastPair cs = some rest ↔
      (∃ front, cs = front ++ ':' :: ':' :: rest) ∧ ¬HasPair (':' :: rest) := by
  constructor
  · exact exists_of_afterLastPair
  · rintro ⟨⟨front, rfl⟩, hlast⟩
    exact afterLastPair_middle front hlast

/-! ## The first pair -/

/-- All of a text is before its first pair if it has none. -/
theorem beforeFirstPair_of_not_hasPair (h : ¬HasPair cs) : beforeFirstPair cs = cs := by
  fun_induction beforeFirstPair cs with
  | case1 rest => exact absurd (hasPair_middle [] rest) h
  | case2 => rfl
  | case3 c cs hpair ih =>
      rw [hasPair_cons_iff, not_or] at h
      rw [ih h.2]

/-- What is found precedes a pair, and there is no pair before it. -/
theorem exists_of_hasPair (h : HasPair cs) :
    (∃ rest, cs = beforeFirstPair cs ++ ':' :: ':' :: rest) ∧
      ¬HasPair (beforeFirstPair cs ++ [':']) := by
  fun_induction beforeFirstPair cs with
  | case1 rest => exact ⟨⟨rest, rfl⟩, by simp [HasPair, List.infix_cons_iff]⟩
  | case2 => simp [HasPair] at h
  | case3 c cs hpair ih =>
      have hrest : HasPair cs := by
        rcases hasPair_cons_iff.1 h with ⟨rfl, rest, rfl⟩ | hrest
        · exact (hpair rest rfl rfl).elim
        · exact hrest
      obtain ⟨⟨rest, hcs⟩, hfirst⟩ := ih hrest
      refine ⟨⟨rest, by rw [List.cons_append, ← hcs]⟩, ?_⟩
      rw [List.cons_append, hasPair_cons_iff, not_or]
      refine ⟨?_, hfirst⟩
      rintro ⟨rfl, hcolon⟩
      have hprefix : beforeFirstPair cs ++ [':'] <+: cs :=
        ⟨':' :: rest, by rw [List.append_assoc]; exact hcs.symm⟩
      obtain ⟨tail, htail⟩ := hcolon.trans hprefix
      exact hpair tail rfl htail.symm

/-- What precedes a pair precedes the first pair, if no pair begins earlier. -/
theorem beforeFirstPair_middle (rest : List Char) (h : ¬HasPair (front ++ [':'])) :
    beforeFirstPair (front ++ ':' :: ':' :: rest) = front := by
  induction front with
  | nil => rfl
  | cons c front ih =>
      rw [List.cons_append, hasPair_cons_iff, not_or] at h
      rw [List.cons_append, beforeFirstPair, ih h.2]
      rintro tail rfl htail
      have hcolon : [':'] <+: front ++ ':' :: ':' :: rest := ⟨tail, htail.symm⟩
      have hprefix : front ++ [':'] <+: front ++ ':' :: ':' :: rest := ⟨':' :: rest, by simp⟩
      exact h.1 ⟨rfl, List.prefix_of_prefix_length_le hcolon hprefix (by simp)⟩

/-- What is found from the beginning is everything, or precedes a pair before which there is no
other. -/
theorem beforeFirstPair_eq_iff :
    beforeFirstPair cs = front ↔
      (cs = front ∧ ¬HasPair cs) ∨
        ((∃ rest, cs = front ++ ':' :: ':' :: rest) ∧ ¬HasPair (front ++ [':'])) := by
  constructor
  · rintro rfl
    by_cases hpair : HasPair cs
    · exact .inr (exists_of_hasPair hpair)
    · exact .inl ⟨(beforeFirstPair_of_not_hasPair hpair).symm, hpair⟩
  · rintro (⟨rfl, hpair⟩ | ⟨⟨rest, rfl⟩, hfirst⟩)
    · exact beforeFirstPair_of_not_hasPair hpair
    · exact beforeFirstPair_middle rest hfirst

/-- What precedes the first pair is a beginning of the text. -/
theorem beforeFirstPair_prefix (cs : List Char) : beforeFirstPair cs <+: cs := by
  rcases beforeFirstPair_eq_iff.1 (rfl : beforeFirstPair cs = _) with ⟨hall, -⟩ | ⟨⟨rest, hcs⟩, -⟩
  · exact hall ▸ List.prefix_rfl
  · exact ⟨_, hcs.symm⟩

/-- There is no pair before the first one. -/
theorem not_hasPair_beforeFirstPair (cs : List Char) : ¬HasPair (beforeFirstPair cs) := by
  rcases beforeFirstPair_eq_iff.1 (rfl : beforeFirstPair cs = _) with ⟨hall, hpair⟩ | ⟨-, hfirst⟩
  · exact hall ▸ hpair
  · exact fun hpair => hfirst (hpair.trans (List.prefix_append _ _).isInfix)

/-! ## The last slash -/

/-- What follows the last slash is the longest end of the text without slashes. -/
theorem afterLastSlash_eq_rtakeWhile (cs : List Char) :
    afterLastSlash cs = cs.rtakeWhile (· != '/') :=
  rfl

/-- There is no slash after the last one. -/
theorem slash_not_mem_afterLastSlash (cs : List Char) : '/' ∉ afterLastSlash cs := by
  intro hmem
  rw [afterLastSlash_eq_rtakeWhile] at hmem
  simpa using List.mem_rtakeWhile_imp hmem

/-- What is found is everything, or follows a slash. -/
theorem afterLastSlash_eq_or_suffix (cs : List Char) :
    afterLastSlash cs = cs ∨ '/' :: afterLastSlash cs <:+ cs := by
  have hsplit := List.rdropWhile_append_rtakeWhile (p := (· != '/')) (l := cs)
  rw [← afterLastSlash_eq_rtakeWhile] at hsplit
  rcases List.eq_nil_or_concat (cs.rdropWhile (· != '/')) with hnil | ⟨front, slash, hfront⟩
  · rw [hnil, List.nil_append] at hsplit
    exact .inl hsplit
  · have hslash := List.rdropWhile_last_not (· != '/') cs (by simp [hfront])
    simp only [hfront, List.concat_eq_append, List.getLast_append_singleton, bne_iff_ne,
      not_not] at hslash
    rw [hfront, hslash, List.concat_eq_append, List.append_assoc, List.singleton_append] at hsplit
    exact .inr ⟨front, hsplit⟩

/-! ## Parts -/

theorem toList_separator : separator.toList = [':', ':'] :=
  rfl

/-- An identity is nested exactly if its text contains a pair of colons. -/
theorem isNested_iff (id : EntityId) : id.isNested = true ↔ HasPair id.text.toList := by
  rw [isNested, Option.isSome_iff_ne_none, Ne, afterLastPair_eq_none_iff, not_not]

/-- The nested identities are those that have a symbol. -/
theorem isNested_iff_symbol? (id : EntityId) : id.isNested = true ↔ id.symbol? ≠ none := by
  rw [isNested, Option.isSome_iff_ne_none, symbol?, Ne, Ne, Option.map_eq_none_iff]

/-- The path of an identity is what precedes the first pair of colons. -/
theorem toList_filePath (id : EntityId) : id.filePath.toList = beforeFirstPair id.text.toList := by
  rw [filePath, String.toList_ofList]

/-- The symbol of an identity is what follows the last pair of colons. -/
theorem symbol?_eq_some_iff (id : EntityId) (symbol : String) :
    id.symbol? = some symbol ↔ afterLastPair id.text.toList = some symbol.toList := by
  rw [symbol?, Option.map_eq_some_iff]
  constructor
  · rintro ⟨rest, hrest, rfl⟩
    rw [hrest, String.toList_ofList]
  · intro h
    exact ⟨_, h, String.ofList_toList⟩

/-- A nested identity is labelled with its symbol. -/
theorem label_of_symbol? {id : EntityId} {symbol : String} (h : id.symbol? = some symbol) :
    id.label = symbol := by
  rw [label, h, Option.getD_some]

/-- The identity of a file is labelled with what follows its last slash. -/
theorem toList_label_of_file {id : EntityId} (h : id.symbol? = none) :
    id.label.toList = afterLastSlash id.text.toList := by
  rw [label, h, Option.getD_none, String.toList_ofList]

/-- The path is shorter than the text if and only if there is a symbol. -/
theorem filePath_eq_text_iff (id : EntityId) : id.filePath = id.text ↔ id.isNested = false := by
  rw [← String.toList_inj, toList_filePath, Bool.eq_false_iff, Ne, isNested_iff]
  constructor
  · intro hall hpair
    obtain ⟨rest, hcs⟩ := (exists_of_hasPair hpair).1
    have hlength := congrArg List.length hcs
    simp [hall] at hlength
  · exact beforeFirstPair_of_not_hasPair

/-! ## Taking an identity apart -/

/-- How the parts of an identity are related to its text and to each other. -/
structure Decomposed (id : EntityId) : Prop where
  isNested_iff_symbol : id.isNested = true ↔ id.symbol? ≠ none
  isNested_iff_filePath : id.isNested = true ↔ id.filePath ≠ id.text
  filePath_prefix : id.filePath.toList <+: id.text.toList
  filePath_simple : ¬separator.toList <:+: id.filePath.toList
  separator_after_filePath : id.isNested = true →
    (id.filePath ++ separator).toList <+: id.text.toList
  separator_before_symbol : ∀ symbol, id.symbol? = some symbol →
    (separator ++ symbol).toList <:+ id.text.toList
  symbol_simple : ∀ symbol, id.symbol? = some symbol → ¬separator.toList <:+: symbol.toList
  label_suffix : id.label.toList <:+ id.text.toList
  label_of_nested : ∀ symbol, id.symbol? = some symbol → id.label = symbol
  label_of_file : id.isNested = false →
    '/' ∉ id.label.toList ∧ (id.label = id.text ∨ ("/" ++ id.label).toList <:+ id.text.toList)

/-- The text of a nested identity ends with the separator and the symbol. -/
theorem separator_before_symbol {id : EntityId} {symbol : String} (h : id.symbol? = some symbol) :
    (separator ++ symbol).toList <:+ id.text.toList := by
  obtain ⟨⟨front, hfront⟩, -⟩ := exists_of_afterLastPair ((id.symbol?_eq_some_iff symbol).1 h)
  rw [hfront, String.toList_append, toList_separator]
  exact List.suffix_append _ _

/-- The label is the end of the text. -/
theorem label_suffix (id : EntityId) : id.label.toList <:+ id.text.toList := by
  cases hsymbol : id.symbol? with
  | none =>
      rw [toList_label_of_file hsymbol]
      exact List.rtakeWhile_suffix _ _
  | some symbol =>
      rw [label_of_symbol? hsymbol]
      refine List.IsSuffix.trans ?_ (separator_before_symbol hsymbol)
      rw [String.toList_append]
      exact List.suffix_append _ _

/-- Every identity can be taken apart. -/
theorem decomposed (id : EntityId) : Decomposed id where
  isNested_iff_symbol := id.isNested_iff_symbol?
  isNested_iff_filePath := by
    rw [Ne, filePath_eq_text_iff, Bool.not_eq_false]
  filePath_prefix := by
    rw [toList_filePath]
    exact beforeFirstPair_prefix _
  filePath_simple := by
    rw [toList_filePath]
    exact not_hasPair_beforeFirstPair _
  separator_after_filePath hnested := by
    obtain ⟨⟨rest, hrest⟩, -⟩ := exists_of_hasPair (id.isNested_iff.1 hnested)
    rw [String.toList_append, toList_filePath, toList_separator]
    exact ⟨rest, by rw [List.append_assoc]; exact hrest.symm⟩
  separator_before_symbol symbol := separator_before_symbol
  symbol_simple symbol hsymbol hpair := by
    obtain ⟨-, hlast⟩ := exists_of_afterLastPair ((id.symbol?_eq_some_iff symbol).1 hsymbol)
    exact hlast (hasPair_cons_iff.2 (.inr hpair))
  label_suffix := id.label_suffix
  label_of_nested symbol := label_of_symbol?
  label_of_file hfile := by
    have hsymbol : id.symbol? = none := by
      rwa [Bool.eq_false_iff, Ne, isNested_iff_symbol?, not_not] at hfile
    rw [← String.toList_inj, String.toList_append, toList_label_of_file hsymbol]
    exact ⟨slash_not_mem_afterLastSlash _, afterLastSlash_eq_or_suffix _⟩

/-! ## Building an identity -/

/-- The text of a nested identity is put together from the path, two colons and the symbol. -/
theorem toList_nested (file symbol : String) :
    (nested file symbol).text.toList = file.toList ++ ':' :: ':' :: symbol.toList := by
  simp [nested, toList_separator]

/-- An identity that is put together from a path and a symbol is nested. -/
theorem isNested_nested (file symbol : String) : (nested file symbol).isNested = true := by
  rw [isNested_iff, toList_nested]
  exact hasPair_middle _ _

/-- A colon at the end makes a pair with another one before it. -/
theorem hasPair_concat_iff : HasPair (cs ++ [':']) ↔ [':'] <:+ cs ∨ HasPair cs := by
  rw [HasPair, List.infix_concat_iff, show [':', ':'] = [':'] ++ [':'] from rfl,
    List.suffix_concat_iff]
  simp only [List.append_eq_nil_iff, List.cons_ne_nil, and_self, false_or, List.append_left_inj,
    exists_eq_left']
  rfl

/-- The path is found again if it holds no pair of colons and does not end in a colon. -/
theorem filePath_nested_eq_iff (file symbol : String) :
    (nested file symbol).filePath = file ↔
      ¬separator.toList <:+: file.toList ∧ ¬":".toList <:+ file.toList := by
  rw [← String.toList_inj, toList_filePath, toList_nested, toList_separator]
  constructor
  · intro hfile
    rcases beforeFirstPair_eq_iff.1 hfile with ⟨-, hpair⟩ | ⟨-, hfirst⟩
    · exact absurd (hasPair_middle _ _) hpair
    · rw [hasPair_concat_iff, not_or] at hfirst
      exact hfirst.symm
  · rintro ⟨hsimple, hend⟩
    refine beforeFirstPair_middle _ ?_
    rw [hasPair_concat_iff, not_or]
    exact ⟨hend, hsimple⟩

/-- The symbol is found again if it holds no pair of colons and does not start with a colon. -/
theorem symbol?_nested_eq_iff (file symbol : String) :
    (nested file symbol).symbol? = some symbol ↔
      ¬separator.toList <:+: symbol.toList ∧ ¬":".toList <+: symbol.toList := by
  rw [symbol?_eq_some_iff, toList_nested, afterLastPair_eq_some_iff, hasPair_cons_iff, not_or,
    toList_separator]
  constructor
  · rintro ⟨-, hstart, hsimple⟩
    exact ⟨hsimple, fun hcolon => hstart ⟨rfl, hcolon⟩⟩
  · rintro ⟨hsimple, hstart⟩
    exact ⟨⟨file.toList, rfl⟩, fun hcolon => hstart hcolon.2, hsimple⟩

/-- A nested identity is labelled with the given symbol exactly if it gives the symbol back. -/
theorem label_nested_eq_iff (file symbol : String) :
    (nested file symbol).label = symbol ↔ (nested file symbol).symbol? = some symbol := by
  obtain ⟨found, hfound⟩ := Option.ne_none_iff_exists'.1
    ((isNested_iff_symbol? _).1 (isNested_nested file symbol))
  rw [label_of_symbol? hfound, hfound, Option.some.injEq]

/-- The parts of every identity fit together.  An identity that is built of a path and a symbol is
nested.  Its path is the given one if and only if that holds no pair of colons and does not end in a
colon, and its symbol and its label are the given one if and only if that holds no pair of colons and
does not start with a colon. -/
theorem decomposition (id : EntityId) :
    Decomposed id ∧ ∀ file symbol : String,
      (nested file symbol).isNested = true ∧
      ((nested file symbol).filePath = file ↔
        ¬separator.toList <:+: file.toList ∧ ¬":".toList <:+ file.toList) ∧
      ((nested file symbol).symbol? = some symbol ↔
        ¬separator.toList <:+: symbol.toList ∧ ¬":".toList <+: symbol.toList) ∧
      ((nested file symbol).label = symbol ↔
        ¬separator.toList <:+: symbol.toList ∧ ¬":".toList <+: symbol.toList) := by
  refine ⟨id.decomposed, fun file symbol => ?_⟩
  have hsymbol := symbol?_nested_eq_iff file symbol
  exact ⟨isNested_nested file symbol, filePath_nested_eq_iff file symbol, hsymbol,
    (label_nested_eq_iff file symbol).trans hsymbol⟩

-- In three colons the path ends before the first one, and the symbol starts behind the last one.
example : (nested "lib/a.rs" ":f").filePath = "lib/a.rs" ∧
    (nested "lib/a.rs" ":f").symbol? = some "f" ∧ (nested "lib/a.rs:" "f").filePath = "lib/a.rs" := by
  decide +kernel

end EntityId
end CodeSurvey
