import CodeSurvey.Codec.Settings
import CodeSurvey.FileTree
import CodeSurvey.Settings.Check
import CodeSurvey.Toml.Printer
import CodeSurvey.Toml.Reader

/-!
# Documents of settings

Settings are kept in a document with one section for each group of them.  What a document leaves out
has its default, and what it says beyond settings is ignored.

## Main definitions

* `Settings.ofDocument`: the settings in the text of a document.
* `Settings.ofFile`: the settings in a file.
* `Settings.document`: the document of settings.
* `Settings.writeDefault`: the default settings written to a file.
-/

namespace CodeSurvey
namespace Settings

/-- The settings in the text of a document. -/
def ofDocument (text : String) : Except SettingsError Settings :=
  match Toml.read? text with
  | none => .error .malformed
  | some value =>
      match decodeAs .document value with
      | .ok settings => .ok settings
      | .error _ => .error .malformed

/-- The settings in what is found at a path. -/
def ofFile (path : String) : Option FileTree → Except SettingsError Settings
  | none => .error (.notFound path)
  | some (.directory _) => .error .unreadable
  | some (.file bytes) =>
      match String.fromUTF8? bytes with
      | some text => ofDocument text
      | none => .error .unreadable

/-- The document of settings. -/
def document (settings : Settings) : String := Toml.print settings.encode

/-- The tree with the document of the default settings at a path. -/
def writeDefault (tree : FileTree) (path : String) : Except SettingsError FileTree :=
  match tree.write? path Settings.default.document.toUTF8 with
  | some tree => .ok tree
  | none => .error .unreadable

end Settings
end CodeSurvey
