import CodeSurvey.Decimal.Shortest
import CodeSurvey.Settings.Basic
import CodeSurvey.Text.Blank

/-!
# Checking settings

Thresholds lie between zero and one, the systemic threshold is not above the borderline band, calls
may take some time and run at least one at a time, and the names used for logging are known.  The
first violation in this order is the one that is reported.

## Main definitions

* `InvalidSetting`: the ways in which settings are wrong, and their texts.
* `Settings.check`: the first violation, if there is one.
-/

namespace CodeSurvey

/-- A way in which a setting is wrong. -/
inductive InvalidSetting where
  | outsideUnit (name : String) (value : Float32)
  | inverted (systemic upper : Float32)
  | noTime
  | noConcurrency
  | level (text : String)
  | format (text : String)
  | strategy (text : String)

/-- The text of a violation. -/
def InvalidSetting.message : InvalidSetting → String
  | .outsideUnit name value =>
      name ++ " must be within [0, 1], got " ++ Decimal.shortest value
  | .inverted systemic upper =>
      "systemic_threshold (" ++ Decimal.shortest systemic ++
        ") must not exceed borderline_upper (" ++ Decimal.shortest upper ++ ")"
  | .noTime => "call_timeout_secs must be greater than zero"
  | .noConcurrency => "max_concurrent_calls must be greater than zero"
  | .level text =>
      "Invalid log level: " ++ text ++ ". Must be one of: trace, debug, info, warn, error"
  | .format text => "Invalid log format: " ++ text ++ ". Must be one of: pretty, json, compact"
  | .strategy text =>
      "Invalid evaluation strategy: " ++ text ++ ". Must be one of: threshold, llm-consult"

/-- Why settings cannot be had: the variables of a file cannot be set, there is no file, it cannot be
read, its text is malformed, or the settings are wrong. -/
inductive SettingsError where
  | unsettable
  | notFound (path : String)
  | unreadable
  | malformed
  | invalid (violation : InvalidSetting)

/-- The text of an error. -/
def SettingsError.message : SettingsError → String
  | .unsettable => "Failed to set a variable: its value has a null character"
  | .notFound path => "Config file not found: " ++ path
  | .unreadable => "Failed to read config: the file is no text"
  | .malformed => "Failed to parse config: the text is malformed"
  | .invalid violation => "Invalid configuration: " ++ violation.message

namespace Settings

/-- Whether a number lies between zero and one. -/
def inUnit (x : Float32) : Bool := decide (0 ≤ x) && decide (x ≤ 1)

/-- The thresholds that have to lie between zero and one, in the order of the check. -/
def Policy.unitValues (policy : Policy) : List (String × Float32) := [
  ("systemic_threshold", policy.systemicThreshold),
  ("per_entity_threshold", policy.perEntityThreshold),
  ("borderline_upper", policy.borderlineUpper),
  ("neutral_score", policy.neutralScore),
  ("similarity_link_threshold", policy.similarityLinkThreshold)]

/-- The names of log levels. -/
def levels : List String := ["trace", "debug", "info", "warn", "error"]

/-- The names of log formats. -/
def formats : List String := ["pretty", "json", "compact"]

/-- Whether a log level is a directive, which is not checked any further. -/
def isDirective (level : String) : Bool := Text.hasInfix level "=" || Text.hasInfix level ","

/-- The first violation in a policy. -/
def Policy.check (policy : Policy) : Option InvalidSetting :=
  match policy.unitValues.find? fun entry => !inUnit entry.2 with
  | some (name, value) => some (.outsideUnit name value)
  | none =>
      if policy.systemicThreshold > policy.borderlineUpper then
        some (.inverted policy.systemicThreshold policy.borderlineUpper)
      else none

/-- The first violation in limits. -/
def Limits.check (limits : Limits) : Option InvalidSetting :=
  if limits.callTimeoutSecs = 0 then some .noTime
  else if limits.maxConcurrentCalls = 0 then some .noConcurrency
  else none

/-- The first violation in logging. -/
def Logging.check (logging : Logging) : Option InvalidSetting :=
  if !isDirective logging.level && !levels.contains logging.level then
    some (.level logging.level)
  else if !formats.contains logging.format then some (.format logging.format)
  else none

/-- The first violation in settings. -/
def check (settings : Settings) : Option InvalidSetting :=
  settings.policy.check <|> settings.limits.check <|> settings.logging.check

/-- The settings, if nothing is wrong with them. -/
def checked (settings : Settings) : Except SettingsError Settings :=
  match settings.check with
  | none => .ok settings
  | some violation => .error (.invalid violation)

end Settings

end CodeSurvey
