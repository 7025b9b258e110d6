import CodeSurvey.EntityId
import CodeSurvey.Text.Blank
import CodeSurvey.Text.LetterCase

/-!
# Architectural layers and stems

Naming conventions tell to which layer of an architecture a file belongs, and which files of
different layers are about the same thing: those with the same stem, which is the file name
without its extension and without a suffix that names the role.
-/

namespace CodeSurvey

/-- The architectural layers told by a file name. -/
inductive Layer where
  | presentation
  | service
  | repository
  | domain
  | other
  deriving DecidableEq, Repr

namespace Layer

/-- The name of a layer. -/
def name : Layer → String
  | .presentation => "presentation"
  | .service => "service"
  | .repository => "repository"
  | .domain => "domain"
  | .other => "other"

/-- The words that tell a layer, in the order in which they are looked for. -/
def keywords : List (Layer × List String) := [
  (.service, ["service", "manager", "business"]),
  (.repository, ["repo", "dao", "store", "db"]),
  (.presentation, ["controller", "route", "view", "api"]),
  (.domain, ["model", "dto", "schema"])]

/-- The layer of a lowercase name: the first one of which the name contains a word. -/
def ofName (name : String) : Layer :=
  match keywords.find? fun entry => entry.2.any (Text.hasInfix name) with
  | some (layer, _) => layer
  | none => .other

/-- The layer of an entity, told by its label. -/
def detect (id : EntityId) : Layer := ofName (Text.lowercase id.label)

end Layer

namespace Stem

/-- What precedes the last dot. -/
def beforeLastDot : List Char → Option (List Char)
  | [] => none
  | c :: cs =>
      match beforeLastDot cs with
      | some front => some (c :: front)
      | none => if c = '.' then some [] else none

/-- A name without its extension.  A dot at the very beginning starts no extension. -/
def withoutExtension (name : List Char) : List Char :=
  match beforeLastDot name with
  | some (c :: front) => c :: front
  | _ => name

/-- The suffixes that name a role, in the order in which they are looked for. -/
def roleSuffixes : List String := [
  "_service", "_controller", "_repository", "_repo", "_model", "_dto", "_view", "service",
  "controller"]

/-- A name without the first of the suffixes that it ends in. -/
def withoutSuffix (suffixes : List (List Char)) (name : List Char) : List Char :=
  match suffixes.find? fun suffix => suffix.isSuffixOf name with
  | some suffix => name.take (name.length - suffix.length)
  | none => name

/-- The stem of a lowercase name. -/
def ofName (name : String) : String :=
  String.ofList
    (withoutSuffix (roleSuffixes.map String.toList) (withoutExtension name.toList))

/-- The stem of an entity: its lowercase label without extension and role. -/
def ofId (id : EntityId) : String := ofName (Text.lowercase id.label)

end Stem

end CodeSurvey
