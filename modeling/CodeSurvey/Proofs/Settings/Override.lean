import CodeSurvey.Proofs.Settings.Field

/-!
# Overrides that make no sense

A variable whose text is no value of its field leaves the field alone, as if it were not set.  The
mode of reconciling views is the exception: any text that does not say true switches it off, a text
that says neither true nor false included.  So such a text is ignored exactly if the mode was off.

## Main definitions

* `Environment.without`: an environment in which a variable is not set.

## Main results

* `Settings.Field.get_without`: a variable speaks for its own field only.
* `Settings.withEnvironment_twice`: what an environment says, it says once.
* `Settings.ignored_iff`: which texts that make no sense are ignored.
* `Settings.mode_switched_off`: they may not be.
-/

namespace CodeSurvey

/-- The environment in which a variable is not set. -/
def Environment.without (environment : Environment) (name : String) : Environment := fun other =>
  if other = name then none else environment other

namespace Settings

variable {α : Type} {environment : Environment} {name text : String}

namespace Field

theorem fromEnvironment?_eq {field : Field α} (hname : field.variableName? = some name) :
    field.fromEnvironment? environment = (environment name).bind field.ofText? := by
  unfold fromEnvironment?
  rw [hname]
  rfl

/-- A variable speaks for its own field only. -/
theorem get_without {field : Field α} (hname : field.variableName? ≠ some name)
    (settings : Settings) (environment : Environment) :
    field.get (settings.withEnvironment (environment.without name)) =
      field.get (settings.withEnvironment environment) := by
  have hsame : field.fromEnvironment? (environment.without name) =
      field.fromEnvironment? environment := by
    unfold fromEnvironment?
    cases hvariable : field.variableName? with
    | none => rfl
    | some other =>
        have hother : other ≠ name := by
          intro heq
          rw [hvariable, heq] at hname
          exact hname rfl
        rw [Option.bind_some, Option.bind_some, Environment.without, if_neg hother]
  rw [get_withEnvironment, get_withEnvironment, hsame]

/-- A text that is no value and is not read leaves the field alone. -/
theorem get_of_ofText?_eq_none {field : Field α} (hname : field.variableName? = some name)
    (htext : environment name = some text) (hread : field.ofText? text = none)
    (settings : Settings) :
    field.get (settings.withEnvironment environment) = field.get settings := by
  rw [get_withEnvironment, fromEnvironment?_eq hname, htext, Option.bind_some, hread,
    Option.getD_none]

/-- The only field with the variable is the mode. -/
theorem eq_ensembleMode {field : Field α}
    (hname : field.variableName? = some "REPOLENS_ENSEMBLE_MODE") :
    ∃ h : α = Bool, h ▸ field = .ensembleMode := by
  cases field with
  | ensembleMode => exact ⟨rfl, rfl⟩
  | _ => simp [variableName?] at hname

end Field

/-- A text that does not say true or false switches the mode off. -/
theorem ensembleMode_of_not_accepts (htext : environment "REPOLENS_ENSEMBLE_MODE" = some text)
    (haccepts : ¬ Field.ensembleMode.Accepts text) (settings : Settings) :
    Field.ensembleMode.get (settings.withEnvironment environment) = false := by
  have hneither : ¬ (Text.lowercase text = "true" ∨ text = "1") := by
    intro hyes
    apply haccepts
    unfold Field.Accepts
    cases hyes with
    | inl hword => simp [hword]
    | inr hdigit =>
        have hlower : Text.lowercase "1" = "1" := by
          decide +kernel
        simp [hdigit, hlower]
  rw [Field.get_withEnvironment, Field.fromEnvironment?_eq rfl, htext, Option.bind_some]
  change decide (Text.lowercase text = "true" ∨ text = "1") = false
  exact decide_eq_false hneither

/-- What an environment says, it says once. -/
theorem withEnvironment_twice (settings : Settings) (environment : Environment) :
    (settings.withEnvironment environment).withEnvironment environment =
      settings.withEnvironment environment := by
  apply Field.ext
  intro α field
  rw [Field.get_withEnvironment, Field.get_withEnvironment]
  cases field.fromEnvironment? environment with
  | none => rfl
  | some x => rfl

/-- A text that is no value of its field is ignored, except that it switches off the mode of
reconciling views.  It changes no other field, and what an environment says, it says once. -/
theorem ignored_iff (settings : Settings) (environment : Environment) :
    (∀ (α : Type) (field : Field α) (name text : String), field.variableName? = some name →
      environment name = some text → ¬ field.Accepts text →
      (field.get (settings.withEnvironment environment) = field.get settings ↔
        (name = "REPOLENS_ENSEMBLE_MODE" → settings.policy.ensembleMode = false)) ∧
      ∀ (β : Type) (other : Field β), other.variableName? ≠ some name →
        other.get (settings.withEnvironment environment) =
          other.get (settings.withEnvironment (environment.without name))) ∧
    (settings.withEnvironment environment).withEnvironment environment =
      settings.withEnvironment environment := by
  constructor
  · intro α field name text hname htext haccepts
    constructor
    · by_cases hmode : name = "REPOLENS_ENSEMBLE_MODE"
      · subst hmode
        obtain ⟨rfl, hfield⟩ := Field.eq_ensembleMode hname
        change field = .ensembleMode at hfield
        subst hfield
        rw [ensembleMode_of_not_accepts htext haccepts]
        constructor
        · intro hsame _
          exact hsame.symm
        · intro hoff
          exact (hoff rfl).symm
      · have hread : field.ofText? text = none := by
          rw [← Option.not_isSome_iff_eq_none, Field.isSome_ofText?_iff, hname, Option.some.injEq]
          exact not_or.2 ⟨haccepts, hmode⟩
        constructor
        · intro _ hname
          exact absurd hname hmode
        · intro _
          exact Field.get_of_ofText?_eq_none hname htext hread settings
    · intro β other hother
      exact (Field.get_without hother settings environment).symm
  · exact withEnvironment_twice settings environment

end Settings

/-! ## Two texts that make no sense -/

namespace SenselessTexts

/-- A number with a word in it, and a mode in another language. -/
def environment : Environment
  | "REPOLENS_MAX_RETRIES" => some "five times"
  | "REPOLENS_ENSEMBLE_MODE" => some "oui"
  | _ => none

/-- Settings with the mode switched on. -/
def settings : Settings :=
  { Settings.default with policy := { Settings.Policy.default with ensembleMode := true } }

theorem not_natural : ¬ Settings.Field.maxRetries.Accepts "five times" := by
  have hnone : (Decimal.readNat? UInt32.size "five times").isSome = false := by
    decide +kernel
  change ¬ Decimal.IsNatural UInt32.size "five times"
  rw [← Decimal.isSome_readNat?_iff, hnone]
  decide

theorem not_mode : ¬ Settings.Field.ensembleMode.Accepts "oui" := by
  change Text.lowercase "oui" ∉ ["true", "false", "1", "0"]
  decide +kernel

end SenselessTexts

namespace Settings

/-- The number is ignored, and the mode is switched off. -/
theorem ignored_iff_two_texts :
    Field.maxRetries.get (SenselessTexts.settings.withEnvironment SenselessTexts.environment) = 2 ∧
    ¬ Field.ensembleMode.get (SenselessTexts.settings.withEnvironment SenselessTexts.environment) =
      Field.ensembleMode.get SenselessTexts.settings := by
  obtain ⟨hignored, -⟩ := ignored_iff SenselessTexts.settings SenselessTexts.environment
  have hnumber := (hignored _ .maxRetries _ _ rfl rfl SenselessTexts.not_natural).1
  have hmode := (hignored _ .ensembleMode _ _ rfl rfl SenselessTexts.not_mode).1
  constructor
  · refine hnumber.2 ?_
    intro hname
    exact absurd hname (by decide)
  · rw [hmode]
    intro hoff
    exact absurd (hoff rfl) (by decide)

/-- A text that makes no sense may switch the mode off. -/
theorem mode_switched_off :
    ¬ ∀ (settings : Settings) (environment : Environment),
      (∀ (α : Type) (field : Field α) (name text : String), field.variableName? = some name →
        environment name = some text → ¬ field.Accepts text →
        field.get (settings.withEnvironment environment) = field.get settings ∧
        ∀ (β : Type) (other : Field β), other.variableName? ≠ some name →
          other.get (settings.withEnvironment environment) =
            other.get (settings.withEnvironment (environment.without name))) ∧
      (settings.withEnvironment environment).withEnvironment environment =
        settings.withEnvironment environment := by
  intro hsenseless
  obtain ⟨hignored, -⟩ := hsenseless SenselessTexts.settings SenselessTexts.environment
  have hsame := (hignored _ .ensembleMode _ _ rfl rfl SenselessTexts.not_mode).1
  have htext : SenselessTexts.environment "REPOLENS_ENSEMBLE_MODE" = some "oui" := rfl
  have hoff := ensembleMode_of_not_accepts htext SenselessTexts.not_mode SenselessTexts.settings
  rw [hoff] at hsame
  exact absurd hsame (by decide)

end Settings
end CodeSurvey
