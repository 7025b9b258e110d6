import CodeSurvey.Entity
import CodeSurvey.Settings.Check
import CodeSurvey.Text.LetterCase

/-!
# Names that people write

Kinds of entities and ways of judging have several names each, which are read in any letter case.
-/

namespace CodeSurvey

/-- The kind of entity that a name stands for. -/
def EntityKind.ofText? (text : String) : Option EntityKind :=
  let name := Text.lowercase text
  if ["file", "module"].contains name then some .file
  else if ["class", "struct", "interface"].contains name then some .classType
  else if ["function", "method", "fn"].contains name then some .function
  else none

/-- The kind of entity that a name stands for, or what is wrong with the name. -/
def EntityKind.ofText (text : String) : Except String EntityKind :=
  match EntityKind.ofText? text with
  | some kind => .ok kind
  | none => .error ("unknown entity kind: " ++ Text.lowercase text)

namespace Settings

/-- The way of judging that a name stands for. -/
def StrategyKind.ofText? (text : String) : Option StrategyKind :=
  let name := Text.lowercase text
  if name == "threshold" then some .threshold
  else if ["llm-consult", "llm_consult", "llm"].contains name then some .consult
  else none

/-- The way of judging that a name stands for, or what is wrong with the name. -/
def StrategyKind.ofText (text : String) : Except SettingsError StrategyKind :=
  match StrategyKind.ofText? text with
  | some kind => .ok kind
  | none => .error (.invalid (.strategy (Text.lowercase text)))

end Settings

end CodeSurvey
