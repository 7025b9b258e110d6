import CodeSurvey.Json.Printer

/-!
# Writing documents

A document of sections is written with one header and one line per field for each section, and an
empty line between sections.  An array of two or more items is written with one item per line.
-/

namespace CodeSurvey
namespace Toml

/-- The written form of a plain value. -/
def printPlain : Json → String
  | .decimal literal => Json.printDecimal literal
  | value => value.print

/-- The written form of the items of an array, each on a line of its own. -/
def printItemLines (items : List Json) : String :=
  String.join (items.map fun item => "    " ++ printPlain item ++ ",\n")

/-- The written form of a value. -/
def printValue : Json → String
  | .array [] => "[]"
  | .array [item] => "[" ++ printPlain item ++ "]"
  | .array items => "[\n" ++ printItemLines items ++ "]"
  | value => printPlain value

/-- The lines of fields. -/
def printFields (fields : List (String × Json)) : String :=
  String.join (fields.map fun field => field.1 ++ " = " ++ printValue field.2 ++ "\n")

/-- A section with its header. -/
def printSection (name : String) : Json → String
  | .object fields => "[" ++ name ++ "]\n" ++ printFields fields
  | value => name ++ " = " ++ printValue value ++ "\n"

/-- The document that consists of the sections of an object. -/
def print : Json → String
  | .object sections => "\n".intercalate (sections.map fun part => printSection part.1 part.2)
  | value => printValue value

end Toml
end CodeSurvey
