import CodeSurvey.Codec.Run
import CodeSurvey.Json.Reader
import CodeSurvey.Text.Blank
import CodeSurvey.Text.LetterCase

/-!
# Verdicts of the judge

The judge answers in prose around an object that names its decision.  Only two decisions can be
read from an answer: to accept, and to retry everything.

## Main definitions

* `Judge.objectSlice?`: the part of an answer from its first opening to its last closing brace.
* `Judge.verdict?`: the decision that an answer names.
-/

namespace CodeSurvey
namespace Judge

open Json (Decoder Record)

/-- The part from the first opening brace to the last closing brace behind it. -/
def objectSlice? (cs : List Char) : Option (List Char) :=
  let slice := Text.dropWhileEnd (· != '\x7d') (cs.dropWhile (· != '\x7b'))
  if slice.isEmpty then none else some slice

/-- Reads the object that names a decision; a reason may stand beside it. -/
def namedDecision : Decoder String := fun value => do
  let record ← Record.read ["decision", "reason"] value
  let _ ← record.defaulted "reason" (Decoder.option Decoder.text) none
  record.required "decision" Decoder.text

/-- The name of a decision in lowercase, without outer blanks and with underscores for hyphens. -/
def normalName (name : String) : String :=
  String.ofList ((Text.lowercase (Text.trim name)).toList.map fun c => if c = '-' then '_' else c)

/-- The decision that a normal name stands for. -/
def decisionOfName? (name : String) : Option Decision :=
  if ["accept", "pass"].contains name then some .accept
  else if ["retry_all", "retryall", "refine"].contains name then some .retryAll
  else none

/-- The decision that an answer names. -/
def verdict? (content : String) : Option Decision := do
  let slice ← objectSlice? content.toList
  let value ← Json.read? (String.ofList slice)
  let name ← (namedDecision value).toOption
  decisionOfName? (normalName name)

end Judge
end CodeSurvey
