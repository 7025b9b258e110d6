import CodeSurvey.Json.Value
import CodeSurvey.Text.Hexadecimal

/-!
# Printing values of the interchange format

Values are printed without blanks.  In strings quotes, backslashes and control characters are
escaped, and all other characters stand for themselves.
-/

namespace CodeSurvey
namespace Json

/-- The written form of a character inside a string. -/
def escapeChar (c : Char) : List Char :=
  if c = '"' then ['\\', '"']
  else if c = '\\' then ['\\', '\\']
  else if c = '\n' then ['\\', 'n']
  else if c = '\r' then ['\\', 'r']
  else if c = '\t' then ['\\', 't']
  else if c.toNat < 0x20 then ['\\', 'u'] ++ Hexadecimal.digits 4 c.toNat
  else [c]

/-- A string in quotes. -/
def quote (text : String) : String :=
  "\"" ++ String.ofList (text.toList.flatMap escapeChar) ++ "\""

/-- The written form of a decimal, which always has a point or an exponent. -/
def printDecimal (l : Decimal.Literal) : String :=
  Decimal.signText l.negative ++
    (match l.exponent with
    | .ofNat shift => (l.significand * Nat.pow 10 shift).repr ++ ".0"
    | .negSucc shift => Decimal.pointed l.significand (shift + 1))

/-- The written form of a single-precision number, which is null where it is not finite. -/
def printFloat (x : Float32) : String :=
  match Decimal.Binary32.of x with
  | .notANumber | .infinite _ => "null"
  | .finite negative mantissa exponent => printDecimal (finiteLiteral negative mantissa exponent)

mutual

/-- The written form of a value. -/
def print : Json → String
  | .null => "null"
  | .bool true => "true"
  | .bool false => "false"
  | .integer n => n.repr
  | .decimal l => printDecimal l
  | .float x => printFloat x
  | .text s => quote s
  | .unreadable | .malformed => "null"
  | .array items => "[" ++ printItems items ++ "]"
  | .object fields => "\x7b" ++ printFields fields ++ "\x7d"

/-- The written form of the items of an array. -/
def printItems : List Json → String
  | [] => ""
  | [item] => print item
  | item :: rest => print item ++ "," ++ printItems rest

/-- The written form of the fields of an object. -/
def printFields : List (String × Json) → String
  | [] => ""
  | [(key, value)] => quote key ++ ":" ++ print value
  | (key, value) :: rest => quote key ++ ":" ++ print value ++ "," ++ printFields rest

end

end Json
end CodeSurvey
