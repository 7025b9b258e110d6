import CodeSurvey.Settings.Document
import CodeSurvey.Settings.VariableFile

/-!
# Loading settings

First the file of variables in the working directory extends the environment.  Settings come from the
document in the working directory, else from the one in the home directory, else they are the default
ones; documents are never mixed.  Then the environment adjusts them.  At last they are checked.
-/

namespace CodeSurvey
namespace Settings

/-- What settings are loaded from. -/
structure Sources where
  workingDocument : Option FileTree
  homeDocument : Option FileTree
  variableFile : Option FileTree
  environment : Environment

namespace Sources

/-- The path of the document in the working directory. -/
def workingPath : String := ".repolens.toml"

/-- The path of the document in the home directory. -/
def homePath : String := "~/.repolens/config.toml"

/-- The settings of the document that counts. -/
def document (sources : Sources) : Except SettingsError Settings :=
  match sources.workingDocument with
  | some tree => ofFile workingPath (some tree)
  | none =>
      match sources.homeDocument with
      | some tree => ofFile homePath (some tree)
      | none => .ok .default

/-- The environment with the file of variables. -/
def extendedEnvironment (sources : Sources) : Except SettingsError Environment :=
  match sources.variableFile with
  | some (.file bytes) =>
      match VariableFile.extend? sources.environment bytes with
      | some environment => .ok environment
      | none => .error .unsettable
  | _ => .ok sources.environment

end Sources

/-- The settings that result from all sources. -/
def load (sources : Sources) : Except SettingsError Settings := do
  let environment ← sources.extendedEnvironment
  let settings ← sources.document
  (settings.withEnvironment environment).checked

end Settings
end CodeSurvey
