import CodeSurvey.Proofs.Binary32.Number
import CodeSurvey.Proofs.Text.Blank
import CodeSurvey.Settings.Check

/-!
# Valid settings

The check of settings goes through them in order and stops at the first violation.  Here it is said
what settings are without one.

## Main definitions

* `Settings.Valid`: settings with which nothing is wrong.

## Main results

* `Settings.check_eq_none_iff`: the settings that pass the check.
* `Settings.checked_eq_ok_iff`: the results of the check.
-/

namespace CodeSurvey
namespace Settings

/-- Whether the thresholds of a policy are numbers of the unit interval. -/
def Policy.InUnit (policy : Policy) : Prop :=
  ∀ x ∈ [policy.systemicThreshold, policy.perEntityThreshold, policy.borderlineUpper,
    policy.neutralScore, policy.similarityLinkThreshold], x.isNaN = false ∧ 0 ≤ x ∧ x ≤ 1

/-- Settings with which nothing is wrong. -/
structure Valid (settings : Settings) : Prop where
  unit : settings.policy.InUnit
  ordered : settings.policy.systemicThreshold ≤ settings.policy.borderlineUpper
  time : settings.limits.callTimeoutSecs ≠ 0
  calls : settings.limits.maxConcurrentCalls ≠ 0
  /-- The log level has the shape of a directive, or it has a name. -/
  level : '=' ∈ settings.logging.level.toList ∨ ',' ∈ settings.logging.level.toList ∨
    settings.logging.level ∈ ["trace", "debug", "info", "warn", "error"]
  format : settings.logging.format ∈ ["pretty", "json", "compact"]

section Parts

variable {policy : Policy} {limits : Limits} {logging : Logging}

/-- What lies between zero and one is a number. -/
theorem inUnit_iff (x : Float32) : inUnit x = true ↔ x.isNaN = false ∧ 0 ≤ x ∧ x ≤ 1 := by
  simp only [inUnit, Bool.and_eq_true, decide_eq_true_eq]
  constructor
  · intro h
    exact ⟨(Binary32.isNaN_of_le h.1).2, h⟩
  · intro h
    exact h.2

theorem find?_unitValues_eq_none_iff :
    (policy.unitValues.find? fun entry => !inUnit entry.2) = none ↔ policy.InUnit := by
  simp only [Policy.InUnit, ← inUnit_iff, List.find?_eq_none, Policy.unitValues,
    List.forall_mem_cons]
  simp

/-- A policy passes the check if its thresholds are numbers of the unit interval in order. -/
theorem policy_check_eq_none_iff :
    policy.check = none ↔
      policy.InUnit ∧ policy.systemicThreshold ≤ policy.borderlineUpper := by
  unfold Policy.check
  rw [← find?_unitValues_eq_none_iff]
  cases hfind : policy.unitValues.find? fun entry => !inUnit entry.2 with
  | some entry => simp
  | none =>
      have hunit : policy.InUnit := find?_unitValues_eq_none_iff.1 hfind
      have hordered : ¬ policy.systemicThreshold > policy.borderlineUpper ↔
          policy.systemicThreshold ≤ policy.borderlineUpper := by
        constructor
        · exact Binary32.le_of_not_lt (hunit _ (by simp)).1 (hunit _ (by simp)).1
        · exact Binary32.not_lt_of_le
      simp [← hordered]

theorem limits_check_eq_none_iff :
    limits.check = none ↔ limits.callTimeoutSecs ≠ 0 ∧ limits.maxConcurrentCalls ≠ 0 := by
  unfold Limits.check
  by_cases htime : limits.callTimeoutSecs = 0
  · simp [htime]
  · by_cases hcalls : limits.maxConcurrentCalls = 0
    · simp [htime, hcalls]
    · simp [htime, hcalls]

/-- A level is a directive if it has one of two characters. -/
theorem isDirective_iff (level : String) :
    isDirective level = true ↔ '=' ∈ level.toList ∨ ',' ∈ level.toList := by
  have hequals : "=".toList = ['='] := rfl
  have hcomma : ",".toList = [','] := rfl
  unfold isDirective
  rw [Bool.or_eq_true, Text.hasInfix_iff, Text.hasInfix_iff, hequals, hcomma,
    List.singleton_infix_iff, List.singleton_infix_iff]

theorem logging_check_eq_none_iff :
    logging.check = none ↔
      ('=' ∈ logging.level.toList ∨ ',' ∈ logging.level.toList ∨
        logging.level ∈ ["trace", "debug", "info", "warn", "error"]) ∧
      logging.format ∈ ["pretty", "json", "compact"] := by
  rw [← or_assoc, ← isDirective_iff]
  unfold Logging.check
  change _ ↔ (_ ∨ logging.level ∈ levels) ∧ logging.format ∈ formats
  by_cases hdirective : isDirective logging.level = true
  · simp [hdirective]
  · by_cases hlevel : logging.level ∈ levels
    · simp [hdirective, hlevel]
    · simp [hdirective, hlevel]

end Parts

section Whole

variable {settings : Settings}

/-- The settings that pass the check are the valid ones. -/
theorem check_eq_none_iff : settings.check = none ↔ settings.Valid := by
  rw [check, Option.orElse_eq_none, Option.orElse_eq_none, policy_check_eq_none_iff,
    limits_check_eq_none_iff, logging_check_eq_none_iff]
  constructor
  · intro h
    exact ⟨h.1.1, h.1.2, h.2.1.1, h.2.1.2, h.2.2.1, h.2.2.2⟩
  · intro h
    exact ⟨⟨h.unit, h.ordered⟩, ⟨h.time, h.calls⟩, h.level, h.format⟩

/-- The check gives back valid settings, and nothing else. -/
theorem checked_eq_ok_iff {result : Settings} :
    settings.checked = .ok result ↔ result = settings ∧ settings.Valid := by
  rw [← check_eq_none_iff]
  unfold checked
  cases settings.check with
  | none => simp [eq_comm]
  | some violation => simp

end Whole

end Settings
end CodeSurvey
