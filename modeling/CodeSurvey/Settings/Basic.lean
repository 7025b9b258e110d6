import CodeSurvey.Gate.Thresholds

/-!
# Settings

The settings of a survey: the policy of the quality gate and of retries, the limits on calls to
capabilities, what of a working directory is scanned, and logging.  Every setting has a default.
-/

namespace CodeSurvey
namespace Settings

/-- How an aggregate score is judged. -/
inductive StrategyKind where
  | threshold
  | consult
  deriving DecidableEq, Repr

/-- The name of a way of judging. -/
def StrategyKind.name : StrategyKind → String
  | .threshold => "threshold"
  | .consult => "llm-consult"

/-- The policy of the gate and of retries. -/
structure Policy where
  maxRetries : UInt32
  systemicThreshold : Float32
  perEntityThreshold : Float32
  borderlineUpper : Float32
  ensembleMode : Bool
  strategy : StrategyKind
  minSummaryLength : Nat
  errorMarkers : List String
  neutralScore : Float32
  similarityLinkThreshold : Float32

/-- The limits on calls to capabilities. -/
structure Limits where
  callTimeoutSecs : Nat
  maxConcurrentCalls : Nat
  deriving DecidableEq, Repr

/-- What of a working directory is scanned. -/
structure Scan where
  maxFiles : Nat
  extensions : List String
  excludedDirectories : List String
  deriving DecidableEq, Repr

/-- What is logged, and how. -/
structure Logging where
  level : String
  format : String
  deriving DecidableEq, Repr

/-! ## Defaults -/

/-- The default policy. -/
def Policy.default : Policy where
  maxRetries := 2
  systemicThreshold := 0.5
  perEntityThreshold := 0.6
  borderlineUpper := 0.7
  ensembleMode := false
  strategy := .threshold
  minSummaryLength := 10
  errorMarkers := ["Error"]
  neutralScore := 0.5
  similarityLinkThreshold := 0.9

/-- The default limits. -/
def Limits.default : Limits := ⟨60, 8⟩

/-- The default scan. -/
def Scan.default : Scan where
  maxFiles := 200
  extensions := ["py", "rs", "js", "jsx", "ts", "tsx", "java", "go", "kt", "rb", "php", "cs", "cpp",
    "c", "h"]
  excludedDirectories := ["node_modules", "venv", "dist", "build", "target", "__pycache__"]

/-- The default logging. -/
def Logging.default : Logging := ⟨"info", "pretty"⟩

end Settings

/-- All settings of a survey. -/
structure Settings where
  policy : Settings.Policy
  limits : Settings.Limits
  scan : Settings.Scan
  logging : Settings.Logging

/-- The default settings. -/
def Settings.default : Settings := ⟨.default, .default, .default, .default⟩

/-- The thresholds of a policy. -/
def Settings.Policy.thresholds (policy : Settings.Policy) : Thresholds where
  systemic := policy.systemicThreshold
  perEntity := policy.perEntityThreshold
  borderlineUpper := policy.borderlineUpper
  minSummaryLength := policy.minSummaryLength
  errorMarkers := policy.errorMarkers
  neutral := policy.neutralScore

/-- The thresholds of the default policy. -/
def Thresholds.default : Thresholds := Settings.Policy.default.thresholds

end CodeSurvey
