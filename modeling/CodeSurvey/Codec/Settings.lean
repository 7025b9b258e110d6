import CodeSurvey.Json.Record
import CodeSurvey.Settings.Overrides

/-!
# The interchange form of settings

Every field of the settings may be left out; its default stands in.  The same fields are read from
hand-written documents, whose rules differ a little.
-/

namespace CodeSurvey

open Json (Decoder Dialect Record)

namespace Settings

/-- Reads a way of judging. -/
def StrategyKind.decodeAs (dialect : Dialect) : Decoder StrategyKind :=
  Decoder.variantAs dialect
    ([.threshold, .consult].map fun kind => (StrategyKind.name kind, kind))

/-- The interchange form of a policy. -/
def Policy.encode (policy : Policy) : Json :=
  .object [
    ("max_retries", .nat policy.maxRetries.toNat),
    ("systemic_threshold", .float32 policy.systemicThreshold),
    ("per_entity_threshold", .float32 policy.perEntityThreshold),
    ("borderline_upper", .float32 policy.borderlineUpper),
    ("ensemble_mode", .bool policy.ensembleMode),
    ("evaluation_strategy", .text policy.strategy.name),
    ("min_summary_len", .nat policy.minSummaryLength),
    ("error_markers", .listOf .text policy.errorMarkers),
    ("neutral_score", .float32 policy.neutralScore),
    ("similarity_link_threshold", .float32 policy.similarityLinkThreshold)]

/-- The fields of a policy in their order. -/
def Policy.fieldNames : List String := [
  "max_retries", "systemic_threshold", "per_entity_threshold", "borderline_upper",
  "ensemble_mode", "evaluation_strategy", "min_summary_len", "error_markers", "neutral_score",
  "similarity_link_threshold"]

/-- Reads a policy. -/
def Policy.decodeAs (dialect : Dialect) : Decoder Policy := fun value => do
  let record ← Record.readAs dialect Policy.fieldNames value
  let usual := Policy.default
  return {
    maxRetries := ← record.defaulted "max_retries" Decoder.uint32 usual.maxRetries
    systemicThreshold :=
      ← record.defaulted "systemic_threshold" Decoder.float32 usual.systemicThreshold
    perEntityThreshold :=
      ← record.defaulted "per_entity_threshold" Decoder.float32 usual.perEntityThreshold
    borderlineUpper := ← record.defaulted "borderline_upper" Decoder.float32 usual.borderlineUpper
    ensembleMode := ← record.defaulted "ensemble_mode" Decoder.bool usual.ensembleMode
    strategy :=
      ← record.defaulted "evaluation_strategy" (StrategyKind.decodeAs dialect) usual.strategy
    minSummaryLength := ← record.defaulted "min_summary_len" Decoder.count usual.minSummaryLength
    errorMarkers :=
      ← record.defaulted "error_markers" (Decoder.listOf Decoder.text) usual.errorMarkers
    neutralScore := ← record.defaulted "neutral_score" Decoder.float32 usual.neutralScore
    similarityLinkThreshold :=
      ← record.defaulted "similarity_link_threshold" Decoder.float32
        usual.similarityLinkThreshold }

/-- The interchange form of limits. -/
def Limits.encode (limits : Limits) : Json :=
  .object [
    ("call_timeout_secs", .nat limits.callTimeoutSecs),
    ("max_concurrent_calls", .nat limits.maxConcurrentCalls)]

/-- Reads limits. -/
def Limits.decodeAs (dialect : Dialect) : Decoder Limits := fun value => do
  let record ← Record.readAs dialect ["call_timeout_secs", "max_concurrent_calls"] value
  return {
    callTimeoutSecs :=
      ← record.defaulted "call_timeout_secs" Decoder.count Limits.default.callTimeoutSecs
    maxConcurrentCalls :=
      ← record.defaulted "max_concurrent_calls" Decoder.count Limits.default.maxConcurrentCalls }

/-- The interchange form of a scan. -/
def Scan.encode (scan : Scan) : Json :=
  .object [
    ("max_files", .nat scan.maxFiles), ("extensions", .listOf .text scan.extensions),
    ("exclude_dirs", .listOf .text scan.excludedDirectories)]

/-- Reads a scan. -/
def Scan.decodeAs (dialect : Dialect) : Decoder Scan := fun value => do
  let record ← Record.readAs dialect ["max_files", "extensions", "exclude_dirs"] value
  let usual := Scan.default
  return {
    maxFiles := ← record.defaulted "max_files" Decoder.count usual.maxFiles
    extensions := ← record.defaulted "extensions" (Decoder.listOf Decoder.text) usual.extensions
    excludedDirectories :=
      ← record.defaulted "exclude_dirs" (Decoder.listOf Decoder.text) usual.excludedDirectories }

/-- The interchange form of logging. -/
def Logging.encode (logging : Logging) : Json :=
  .object [("level", .text logging.level), ("format", .text logging.format)]

/-- Reads logging. -/
def Logging.decodeAs (dialect : Dialect) : Decoder Logging := fun value => do
  let record ← Record.readAs dialect ["level", "format"] value
  return {
    level := ← record.defaulted "level" Decoder.text Logging.default.level
    format := ← record.defaulted "format" Decoder.text Logging.default.format }

/-- The interchange form of all settings. -/
def encode (settings : Settings) : Json :=
  .object [
    ("pipeline", settings.policy.encode), ("capabilities", settings.limits.encode),
    ("ingest", settings.scan.encode), ("logging", settings.logging.encode)]

/-- Reads all settings. -/
def decodeAs (dialect : Dialect) : Decoder Settings := fun value => do
  let record ← Record.readAs dialect ["pipeline", "capabilities", "ingest", "logging"] value
  return {
    policy := ← record.defaulted "pipeline" (Policy.decodeAs dialect) .default
    limits := ← record.defaulted "capabilities" (Limits.decodeAs dialect) .default
    scan := ← record.defaulted "ingest" (Scan.decodeAs dialect) .default
    logging := ← record.defaulted "logging" (Logging.decodeAs dialect) .default }

/-! ## Reading the interchange form -/

/-- Reads a way of judging in the interchange form. -/
def StrategyKind.decode : Decoder StrategyKind := StrategyKind.decodeAs .interchange

/-- Reads a policy in the interchange form. -/
def Policy.decode : Decoder Policy := Policy.decodeAs .interchange

/-- Reads limits in the interchange form. -/
def Limits.decode : Decoder Limits := Limits.decodeAs .interchange

/-- Reads a scan in the interchange form. -/
def Scan.decode : Decoder Scan := Scan.decodeAs .interchange

/-- Reads logging in the interchange form. -/
def Logging.decode : Decoder Logging := Logging.decodeAs .interchange

/-- Reads all settings in the interchange form. -/
def decode : Decoder Settings := decodeAs .interchange

end Settings

/-- The interchange form of adjustments. -/
def Overrides.encode (overrides : Overrides) : Json :=
  .object [
    ("max_retries", .optional (fun n => .nat n.toNat) overrides.maxRetries),
    ("systemic_threshold", .optional .float32 overrides.systemicThreshold),
    ("per_entity_threshold", .optional .float32 overrides.perEntityThreshold),
    ("ensemble_mode", .optional .bool overrides.ensembleMode)]

/-- Reads adjustments. -/
def Overrides.decode : Decoder Overrides := fun value => do
  let record ← Record.read
    ["max_retries", "systemic_threshold", "per_entity_threshold", "ensemble_mode"] value
  return {
    maxRetries := ← record.optional "max_retries" Decoder.uint32
    systemicThreshold := ← record.optional "systemic_threshold" Decoder.float32
    perEntityThreshold := ← record.optional "per_entity_threshold" Decoder.float32
    ensembleMode := ← record.optional "ensemble_mode" Decoder.bool }

end CodeSurvey
