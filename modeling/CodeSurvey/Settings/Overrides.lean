import CodeSurvey.Settings.Basic

/-!
# Adjustments of single runs

A run may adjust a few settings of the service that starts it.
-/

namespace CodeSurvey

/-- Settings that a single run may adjust. -/
structure Overrides where
  maxRetries : Option UInt32
  systemicThreshold : Option Float32
  perEntityThreshold : Option Float32
  ensembleMode : Option Bool

/-- No adjustment at all. -/
def Overrides.none : Overrides := ⟨.none, .none, .none, .none⟩

/-- The settings with the adjustments. -/
def Overrides.apply (overrides : Overrides) (settings : Settings) : Settings :=
  { settings with
    policy := { settings.policy with
      maxRetries := overrides.maxRetries.getD settings.policy.maxRetries
      systemicThreshold := overrides.systemicThreshold.getD settings.policy.systemicThreshold
      perEntityThreshold := overrides.perEntityThreshold.getD settings.policy.perEntityThreshold
      ensembleMode := overrides.ensembleMode.getD settings.policy.ensembleMode } }

end CodeSurvey
