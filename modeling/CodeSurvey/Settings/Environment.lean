import CodeSurvey.Decimal.Literal
import CodeSurvey.Names

/-!
# Settings from the environment

A few settings can be given by environment variables.  A variable that does not hold a value of its
setting's type leaves the setting alone.  There are two exceptions: any text that does not say true
switches the ensemble mode off, and any text is a log level.

## Main definitions

* `Environment`: the values of variables.
* `Settings.withEnvironment`: settings adjusted by an environment.
-/

namespace CodeSurvey

/-- The values of the variables that are set. -/
abbrev Environment := String → Option String

namespace Settings

/-- The value of a variable, if it is set and can be read. -/
def readVariable {α : Type} (environment : Environment) (name : String)
    (read : String → Option α) : Option α :=
  (environment name).bind read

/-- A natural number of 32 bits. -/
def readUInt32? (text : String) : Option UInt32 :=
  (Decimal.readNat? UInt32.size text).map UInt32.ofNat

/-- A natural number that fits into 64 bits. -/
def readCount? (text : String) : Option Nat := Decimal.readNat? UInt64.size text

/-- Whether a text says true: as the word in any letter case, or as the digit one. -/
def saysTrue (text : String) : Bool := Text.lowercase text == "true" || text == "1"

/-- The policy adjusted by an environment. -/
def Policy.withEnvironment (policy : Policy) (environment : Environment) : Policy :=
  { policy with
    maxRetries :=
      (readVariable environment "REPOLENS_MAX_RETRIES" readUInt32?).getD policy.maxRetries
    systemicThreshold :=
      (readVariable environment "REPOLENS_SYSTEMIC_THRESHOLD" Decimal.readFloat32?).getD
        policy.systemicThreshold
    perEntityThreshold :=
      (readVariable environment "REPOLENS_PER_ENTITY_THRESHOLD" Decimal.readFloat32?).getD
        policy.perEntityThreshold
    ensembleMode :=
      ((environment "REPOLENS_ENSEMBLE_MODE").map saysTrue).getD policy.ensembleMode
    strategy :=
      (readVariable environment "REPOLENS_EVALUATION_STRATEGY" StrategyKind.ofText?).getD
        policy.strategy }

/-- The settings adjusted by an environment. -/
def withEnvironment (settings : Settings) (environment : Environment) : Settings where
  policy := settings.policy.withEnvironment environment
  limits := { settings.limits with
    callTimeoutSecs :=
      (readVariable environment "REPOLENS_CALL_TIMEOUT_SECS" readCount?).getD
        settings.limits.callTimeoutSecs }
  scan := { settings.scan with
    maxFiles :=
      (readVariable environment "REPOLENS_MAX_FILES" readCount?).getD settings.scan.maxFiles }
  logging := { settings.logging with
    level := (environment "RUST_LOG").getD settings.logging.level }

end Settings

end CodeSurvey
