/-!
# Failures

What can go wrong in a survey, apart from a wrong configuration.  Each failure has one text, in
which the cause stands behind the name of its kind.
-/

namespace CodeSurvey

/-- A failure of a stage, of a capability or of a request to the service. -/
inductive Failure where
  | io (detail : String)
  | serialization (detail : String)
  | capability (detail : String)
  | timeout (detail : String)
  | malformed (detail : String)
  | configuration (detail : String)
  | runNotFound (run : String)
  | cancelled
  | invalidOperation (detail : String)
  deriving DecidableEq, Repr

/-- The text of a failure. -/
def Failure.message : Failure → String
  | .io detail => "IO error: " ++ detail
  | .serialization detail => "Serialization error: " ++ detail
  | .capability detail => "Capability error: " ++ detail
  | .timeout detail => "Timeout: " ++ detail
  | .malformed detail => "Parse error: " ++ detail
  | .configuration detail => "Configuration error: " ++ detail
  | .runNotFound run => "Run not found: " ++ run
  | .cancelled => "run cancelled"
  | .invalidOperation detail => "Invalid operation: " ++ detail

end CodeSurvey
