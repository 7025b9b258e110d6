import CodeSurvey.Settings.VariableFile

/-!
# What files of variables say

A file of variables is read line by line, and a reference in a line is to what is set before it.
What has been set so far stays, by the environment or by an earlier line.  So the file amounts to a
list of variables with their values: a name is looked up in the environment, then in that list.

## Main definitions

* `Environment.orElse`: an environment with one more variable.
* `VariableFile.bindings`: the variables in lines.
* `VariableFile.Unsettable`: variables that cannot be set.

## Main results

* `VariableFile.extendLines?_eq`: the environment extended by lines.
-/

namespace CodeSurvey

/-- The environment in which a variable has a value unless it has one already. -/
def Environment.orElse (environment : Environment) (name value : String) : Environment :=
  fun other => (environment other).or (if other = name then some value else none)

namespace VariableFile

/-- The variables in the lines up to the first line that makes no sense. -/
def bindings : Environment → List (List UInt8) → List (String × String)
  | _, [] => []
  | environment, bytes :: rest =>
      match line environment bytes with
      | .nothing => bindings environment rest
      | .binding name value => (name, value) :: bindings (environment.orElse name value) rest
      | .senseless => []

/-- Whether a list of variables gives one that is not set a value that no environment holds. -/
def Unsettable (environment : Environment) (written : List (String × String)) : Prop :=
  ∃ name value, environment name = none ∧ written.lookup name = some value ∧
    '\x00' ∈ value.toList

section Variables

variable {environment : Environment} {name value : String} {written : List (String × String)}

theorem orElse_of_isSome (h : (environment name).isSome = true) (value : String) :
    environment.orElse name value = environment := by
  funext other
  unfold Environment.orElse
  by_cases hother : other = name
  · rw [hother, Option.or_of_isSome h]
  · rw [if_neg hother, Option.or_none]

theorem set?_eq_some (h : (environment name).isSome = true ∨ '\x00' ∉ value.toList) :
    set? environment name value = some (environment.orElse name value) := by
  unfold set?
  by_cases hset : (environment name).isSome = true
  · rw [if_pos hset, orElse_of_isSome hset]
  · have hnone : environment name = none := Option.not_isSome_iff_eq_none.1 hset
    have hvalue : '\x00' ∉ value.toList := h.resolve_left hset
    rw [if_neg hset, if_neg (by simpa using hvalue)]
    congr 1
    funext other
    unfold Environment.orElse
    by_cases hother : other = name
    · rw [if_pos hother, if_pos hother, hother, hnone, Option.none_or]
    · rw [if_neg hother, if_neg hother, Option.or_none]

theorem set?_eq_none (hname : environment name = none) (hvalue : '\x00' ∈ value.toList) :
    set? environment name value = none := by
  unfold set?
  rw [hname, if_neg (by simp), if_pos (by simpa using hvalue)]

/-- A look-up behind a variable is one in the environment with that variable. -/
theorem orElse_or_lookup (other : String) :
    (environment.orElse name value other).or (written.lookup other) =
      (environment other).or (((name, value) :: written).lookup other) := by
  unfold Environment.orElse
  rw [Option.or_assoc, List.lookup_cons]
  by_cases hother : other = name
  · rw [if_pos hother, hother, beq_self_eq_true, Option.some_or]
  · rw [if_neg hother, beq_false_of_ne hother, Option.none_or]

/-- A variable that can be set takes no part in whether the later ones can. -/
theorem unsettable_cons_iff (h : (environment name).isSome = true ∨ '\x00' ∉ value.toList) :
    Unsettable environment ((name, value) :: written) ↔
      Unsettable (environment.orElse name value) written := by
  constructor
  · intro hunsettable
    obtain ⟨other, text, hnone, hlookup, htext⟩ := hunsettable
    have hother : other ≠ name := by
      intro heq
      rw [heq, List.lookup_cons, beq_self_eq_true, Option.some.injEq] at hlookup
      rw [← heq, hnone, hlookup] at h
      simp [htext] at h
    refine ⟨other, text, ?_, ?_, htext⟩
    · rw [Environment.orElse, hnone, if_neg hother, Option.none_or]
    · rw [List.lookup_cons, beq_false_of_ne hother] at hlookup
      exact hlookup
  · intro hunsettable
    obtain ⟨other, text, hnone, hlookup, htext⟩ := hunsettable
    rw [Environment.orElse, Option.or_eq_none_iff] at hnone
    have hother : other ≠ name := by
      intro heq
      rw [if_pos heq] at hnone
      exact absurd hnone.2 (Option.some_ne_none value)
    refine ⟨other, text, hnone.1, ?_, htext⟩
    rw [List.lookup_cons, beq_false_of_ne hother]
    exact hlookup

end Variables

section Lines

variable {environment : Environment} {lines : List (List UInt8)}

/-- Lines extend an environment by their variables, unless one of them cannot be set. -/
theorem extendLines?_eq (environment : Environment) (lines : List (List UInt8)) :
    (Unsettable environment (bindings environment lines) →
      extendLines? environment lines = none) ∧
    (¬ Unsettable environment (bindings environment lines) →
      extendLines? environment lines =
        some fun name => (environment name).or ((bindings environment lines).lookup name)) := by
  -- the induction goes along the lines; each variable that is set is added to the environment
  induction lines generalizing environment with
  | nil => simp [Unsettable, bindings, extendLines?]
  | cons bytes rest ih =>
      unfold bindings extendLines?
      cases line environment bytes with
      | nothing => exact ih environment
      | senseless => simp [Unsettable]
      | binding name value =>
          by_cases hset : (environment name).isSome = true ∨ '\x00' ∉ value.toList
          · simp only [set?_eq_some hset, Option.bind_some, unsettable_cons_iff hset,
              ← orElse_or_lookup]
            exact ih (environment.orElse name value)
          · rw [not_or, Classical.not_not, Option.not_isSome_iff_eq_none] at hset
            obtain ⟨hname, hvalue⟩ := hset
            have hunsettable : Unsettable environment
                ((name, value) :: bindings (environment.orElse name value) rest) :=
              ⟨name, value, hname, List.lookup_cons_self, hvalue⟩
            simp [set?_eq_none hname hvalue, hunsettable]

end Lines

end VariableFile
end CodeSurvey
