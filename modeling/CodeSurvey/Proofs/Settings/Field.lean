import CodeSurvey.Codec.Settings
import CodeSurvey.Proofs.Decimal.Numeral
import CodeSurvey.Settings.Environment

/-!
# The fields of settings

Settings are told field by field here: which variable gives a field, and how its text is read.  What
holds of every field is then said once.

## Main definitions

* `Settings.Field`: the fields, with the types of their values.
* `Settings.Field.fromEnvironment?`: what an environment says of a field.
* `Settings.Field.Accepts`: the texts that are values of a field.

## Main results

* `Settings.Field.get_withEnvironment`: a field of adjusted settings.
* `Settings.Field.isSome_ofText?_iff`: the texts that are read are the values of the field.
-/

namespace CodeSurvey
namespace Settings

/-- A field of the settings, with the type of its values. -/
inductive Field : Type → Type where
  | maxRetries : Field UInt32
  | systemicThreshold : Field Float32
  | perEntityThreshold : Field Float32
  | borderlineUpper : Field Float32
  | ensembleMode : Field Bool
  | strategy : Field StrategyKind
  | minSummaryLength : Field Nat
  | errorMarkers : Field (List String)
  | neutralScore : Field Float32
  | similarityLinkThreshold : Field Float32
  | callTimeoutSecs : Field Nat
  | maxConcurrentCalls : Field Nat
  | maxFiles : Field Nat
  | extensions : Field (List String)
  | excludedDirectories : Field (List String)
  | logLevel : Field String
  | logFormat : Field String

namespace Field

open Json (Decoder)

/-- The value of a field. -/
def get : {α : Type} → Field α → Settings → α
  | _, .maxRetries, settings => settings.policy.maxRetries
  | _, .systemicThreshold, settings => settings.policy.systemicThreshold
  | _, .perEntityThreshold, settings => settings.policy.perEntityThreshold
  | _, .borderlineUpper, settings => settings.policy.borderlineUpper
  | _, .ensembleMode, settings => settings.policy.ensembleMode
  | _, .strategy, settings => settings.policy.strategy
  | _, .minSummaryLength, settings => settings.policy.minSummaryLength
  | _, .errorMarkers, settings => settings.policy.errorMarkers
  | _, .neutralScore, settings => settings.policy.neutralScore
  | _, .similarityLinkThreshold, settings => settings.policy.similarityLinkThreshold
  | _, .callTimeoutSecs, settings => settings.limits.callTimeoutSecs
  | _, .maxConcurrentCalls, settings => settings.limits.maxConcurrentCalls
  | _, .maxFiles, settings => settings.scan.maxFiles
  | _, .extensions, settings => settings.scan.extensions
  | _, .excludedDirectories, settings => settings.scan.excludedDirectories
  | _, .logLevel, settings => settings.logging.level
  | _, .logFormat, settings => settings.logging.format

variable {α : Type}

/-- Settings are given by their fields. -/
theorem ext {settings other : Settings}
    (h : ∀ (α : Type) (field : Field α), field.get settings = field.get other) :
    settings = other := by
  rcases settings with ⟨policy, limits, scan, logging⟩
  rcases other with ⟨otherPolicy, otherLimits, otherScan, otherLogging⟩
  have hpolicy : policy = otherPolicy := by
    cases policy
    cases otherPolicy
    rw [Policy.mk.injEq]
    exact ⟨h _ .maxRetries, h _ .systemicThreshold, h _ .perEntityThreshold,
      h _ .borderlineUpper, h _ .ensembleMode, h _ .strategy, h _ .minSummaryLength,
      h _ .errorMarkers, h _ .neutralScore, h _ .similarityLinkThreshold⟩
  have hlimits : limits = otherLimits := by
    cases limits
    cases otherLimits
    rw [Limits.mk.injEq]
    exact ⟨h _ .callTimeoutSecs, h _ .maxConcurrentCalls⟩
  have hscan : scan = otherScan := by
    cases scan
    cases otherScan
    rw [Scan.mk.injEq]
    exact ⟨h _ .maxFiles, h _ .extensions, h _ .excludedDirectories⟩
  have hlogging : logging = otherLogging := by
    cases logging
    cases otherLogging
    rw [Logging.mk.injEq]
    exact ⟨h _ .logLevel, h _ .logFormat⟩
  rw [hpolicy, hlimits, hscan, hlogging]

/-! ## Variables -/

/-- The variable that gives a field, if there is one. -/
def variableName? : {α : Type} → Field α → Option String
  | _, .maxRetries => some "REPOLENS_MAX_RETRIES"
  | _, .systemicThreshold => some "REPOLENS_SYSTEMIC_THRESHOLD"
  | _, .perEntityThreshold => some "REPOLENS_PER_ENTITY_THRESHOLD"
  | _, .ensembleMode => some "REPOLENS_ENSEMBLE_MODE"
  | _, .strategy => some "REPOLENS_EVALUATION_STRATEGY"
  | _, .callTimeoutSecs => some "REPOLENS_CALL_TIMEOUT_SECS"
  | _, .maxFiles => some "REPOLENS_MAX_FILES"
  | _, .logLevel => some "RUST_LOG"
  | _, _ => none

/-- The value that the text of the variable stands for.  Every text stands for a mode, and for a
level. -/
def ofText? : {α : Type} → Field α → String → Option α
  | _, .maxRetries, text => readUInt32? text
  | _, .systemicThreshold, text => Decimal.readFloat32? text
  | _, .perEntityThreshold, text => Decimal.readFloat32? text
  | _, .ensembleMode, text => some (decide (Text.lowercase text = "true" ∨ text = "1"))
  | _, .strategy, text => StrategyKind.ofText? text
  | _, .callTimeoutSecs, text => readCount? text
  | _, .maxFiles, text => readCount? text
  | _, .logLevel, text => some text
  | _, _, _ => none

/-- What an environment says of a field. -/
def fromEnvironment? (field : Field α) (environment : Environment) : Option α :=
  field.variableName?.bind fun name => (environment name).bind field.ofText?

theorem saysTrue_eq (text : String) :
    saysTrue text = decide (Text.lowercase text = "true" ∨ text = "1") := by
  unfold saysTrue
  rw [Bool.decide_or]
  rfl

/-- A field of adjusted settings is what the environment says, or what it was. -/
theorem get_withEnvironment (field : Field α) (settings : Settings) (environment : Environment) :
    field.get (settings.withEnvironment environment) =
      (field.fromEnvironment? environment).getD (field.get settings) := by
  cases field with
  | ensembleMode =>
      have hmode : (environment "REPOLENS_ENSEMBLE_MODE").map saysTrue =
          Field.ensembleMode.fromEnvironment? environment := by
        rw [Option.map_eq_bind]
        exact congrArg _ (funext fun text => congrArg some (saysTrue_eq text))
      rw [← hmode]
      rfl
  | logLevel =>
      have hlevel : environment "RUST_LOG" = Field.logLevel.fromEnvironment? environment :=
        (Option.bind_fun_some _).symm
      rw [← hlevel]
      rfl
  | _ => rfl

/-! ## Texts of values -/

/-- Whether a text is a value of a field. -/
def Accepts : {α : Type} → Field α → String → Prop
  | _, .maxRetries, text => Decimal.IsNatural UInt32.size text
  | _, .systemicThreshold, text => Decimal.IsDecimal text
  | _, .perEntityThreshold, text => Decimal.IsDecimal text
  | _, .ensembleMode, text => Text.lowercase text ∈ ["true", "false", "1", "0"]
  | _, .strategy, text =>
      Text.lowercase text ∈ ["threshold", "llm-consult", "llm_consult", "llm"]
  | _, .callTimeoutSecs, text => Decimal.IsNatural UInt64.size text
  | _, .maxFiles, text => Decimal.IsNatural UInt64.size text
  | _, .logLevel, _ => True
  | _, _, _ => False

theorem isSome_ofText?_strategy_iff (text : String) :
    (StrategyKind.ofText? text).isSome = true ↔
      Text.lowercase text ∈ ["threshold", "llm-consult", "llm_consult", "llm"] := by
  unfold StrategyKind.ofText?
  by_cases hthreshold : Text.lowercase text = "threshold"
  · simp [hthreshold]
  · by_cases hconsult : Text.lowercase text ∈ ["llm-consult", "llm_consult", "llm"]
    · simp_all
    · simp_all

/-- The texts that are read are the values of the field, except that every text is read as a
mode. -/
theorem isSome_ofText?_iff (field : Field α) (text : String) :
    (field.ofText? text).isSome = true ↔
      field.Accepts text ∨ field.variableName? = some "REPOLENS_ENSEMBLE_MODE" := by
  cases field with
  | maxRetries =>
      simp [ofText?, Accepts, variableName?, readUInt32?, Decimal.isSome_readNat?_iff]
  | systemicThreshold => simp [ofText?, Accepts, variableName?, Decimal.isSome_readFloat32?_iff]
  | perEntityThreshold => simp [ofText?, Accepts, variableName?, Decimal.isSome_readFloat32?_iff]
  | strategy => simp [ofText?, Accepts, variableName?, isSome_ofText?_strategy_iff]
  | callTimeoutSecs => simp [ofText?, Accepts, variableName?, readCount?, Decimal.isSome_readNat?_iff]
  | maxFiles => simp [ofText?, Accepts, variableName?, readCount?, Decimal.isSome_readNat?_iff]
  | _ => simp [ofText?, Accepts, variableName?]

end Field

end Settings
end CodeSurvey
