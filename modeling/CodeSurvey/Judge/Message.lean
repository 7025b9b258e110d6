/-!
# Conversations with the judge

The judge is a chat model.  It is asked with a list of messages and a few settings for the
generation of its answer.
-/

namespace CodeSurvey
namespace Judge

/-- Who speaks in a conversation. -/
inductive Role where
  | system
  | user
  | assistant
  deriving DecidableEq, Repr

/-- The name of a speaker. -/
def Role.name : Role → String
  | .system => "system"
  | .user => "user"
  | .assistant => "assistant"

/-- One message of a conversation. -/
structure Message where
  role : Role
  content : String
  deriving DecidableEq, Repr

/-- How the answer is to be generated. -/
structure Generation where
  temperature : Float32
  maxTokens : Option UInt64
  jsonResponse : Bool

/-- The answer of a chat model. -/
structure Response where
  content : String
  totalTokens : Option UInt64
  model : String
  deriving DecidableEq, Repr

end Judge
end CodeSurvey
