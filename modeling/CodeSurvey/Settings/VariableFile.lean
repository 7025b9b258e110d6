import CodeSurvey.Settings.Environment
import CodeSurvey.Text.Alphabetic

/-!
# Files of variables

Variables may be kept in a file with one of them on each line.  Values may be quoted, and may refer
to variables that are set already.  A variable that is set stays as it is.  The first line that
makes no sense ends the file.  A file that would set a variable to a text with a null character
cannot be used, because no environment holds such a text.

## Main definitions

* `VariableFile.value?`: the value at the end of a line.
* `VariableFile.line`: what a line says.
* `VariableFile.extend?`: the environment extended by a file.
-/

namespace CodeSurvey
namespace VariableFile

/-! ## Values -/

/-- What is being read of a value.

* `plain`: characters outside of quotes.
* `weak`: characters in quotation marks, where backslashes escape and variables are referred to.
* `strong`: characters in apostrophes, which stand for themselves.
* `ending`: the blanks behind a value. -/
inductive Quoting where
  | plain
  | weak
  | strong
  | ending
  deriving DecidableEq, Repr

/-- A reference to a variable: there is none, or its name so far in reverse, without braces or
inside of them. -/
inductive Reference where
  | none
  | bare (name : List Char)
  | braced (name : List Char)
  deriving DecidableEq, Repr

/-- A value so far: its characters in reverse, and what is being read. -/
structure Reading where
  output : List Char
  quoting : Quoting
  escaped : Bool
  reference : Reference

namespace Reading

/-- Nothing has been read. -/
def start : Reading := ⟨[], .plain, false, .none⟩

/-- The reading after a character of the value. -/
def push (reading : Reading) (c : Char) : Reading := { reading with output := c :: reading.output }

/-- The reading after the value of a variable, which is empty if the variable is not set. -/
def substitute (reading : Reading) (environment : Environment) (name : List Char) : Reading :=
  let value := (environment (String.ofList name.reverse)).getD ""
  { reading with output := value.toList.reverse ++ reading.output, reference := .none }

/-- The character that one behind a backslash stands for. -/
def escape? (c : Char) : Option Char :=
  if c == '\\' || c == '\'' || c == '"' || c == '$' || c == ' ' then some c
  else if c == 'n' then some '\n'
  else none

/-- The reading after a character that ends a reference without braces.  It stands for itself unless
it begins another reference. -/
def afterName (reading : Reading) (environment : Environment) (name : List Char) (c : Char) :
    Reading :=
  let reading := reading.substitute environment name
  if c = '$' then { reading with reference := .bare [] } else reading.push c

/-- The reading after a character that belongs to no escape and to no reference. -/
def stepPlain (reading : Reading) (c : Char) : Reading :=
  if c = '$' then { reading with reference := .bare [] }
  else if reading.quoting = .weak then
    if c = '"' then { reading with quoting := .plain }
    else if c = '\\' then { reading with escaped := true }
    else reading.push c
  else if c = '\'' then { reading with quoting := .strong }
  else if c = '"' then { reading with quoting := .weak }
  else if c = '\\' then { reading with escaped := true }
  else if c = ' ' ∨ c = '\t' then { reading with quoting := .ending }
  else reading.push c

/-- The reading after a character outside of apostrophes that is not escaped. -/
def stepOpen (reading : Reading) (environment : Environment) (c : Char) : Reading :=
  match reading.reference with
  | .none => reading.stepPlain c
  | .bare name =>
      if Text.isAlphanumeric c then { reading with reference := .bare (c :: name) }
      else if c = '\x7b' ∧ name = [] then { reading with reference := .braced [] }
      else reading.afterName environment name c
  | .braced name =>
      if c = '\x7d' then reading.substitute environment name
      else { reading with reference := .braced (c :: name) }

/-- The value, if it may end here. -/
def finish? (reading : Reading) (environment : Environment) : Option String :=
  if reading.quoting = .weak ∨ reading.quoting = .strong then none
  else
    match reading.reference with
    | .none => some (String.ofList reading.output.reverse)
    | .bare name => some (String.ofList (reading.substitute environment name).output.reverse)
    | .braced _ => none

end Reading

/-- The value in the remaining characters. -/
def valueFrom? (environment : Environment) : Reading → List Char → Option String
  | reading, [] => reading.finish? environment
  | reading, c :: cs =>
      if reading.quoting = .ending then
        if c = ' ' ∨ c = '\t' then valueFrom? environment reading cs
        else if c = '#' then reading.finish? environment
        else none
      else if reading.escaped then
        match Reading.escape? c with
        | some x => valueFrom? environment ({ reading with escaped := false }.push x) cs
        | none => none
      else if reading.quoting = .strong then
        if c = '\'' then valueFrom? environment { reading with quoting := .plain } cs
        else valueFrom? environment (reading.push c) cs
      else valueFrom? environment (reading.stepOpen environment c) cs

/-- The value that characters stand for. -/
def value? (environment : Environment) (cs : List Char) : Option String :=
  valueFrom? environment .start cs

/-! ## Lines -/

/-- What a line says: nothing, a variable with its value, or what makes no sense. -/
inductive Line where
  | nothing
  | binding (name value : String)
  | senseless
  deriving DecidableEq, Repr

/-- Whether the character may begin a name. -/
def startsName (c : Char) : Bool :=
  (decide ('a' ≤ c) && decide (c ≤ 'z')) || (decide ('A' ≤ c) && decide (c ≤ 'Z')) || c == '_'

/-- Whether the character may go on in a name. -/
def continuesName (c : Char) : Bool := startsName c || Decimal.isDigit c || c == '.'

/-- A name at the beginning of the characters, and what follows it. -/
def name? (cs : List Char) : Option (String × List Char) :=
  match cs with
  | [] => none
  | c :: _ =>
      if startsName c then
        some (String.ofList (cs.takeWhile continuesName), cs.dropWhile continuesName)
      else none

/-- The characters behind the blanks. -/
def dropBlanks (cs : List Char) : List Char := cs.dropWhile Text.isBlank

/-- The characters behind an equals sign. -/
def equals? : List Char → Option (List Char)
  | '=' :: cs => some cs
  | _ => none

/-- A name with its equals sign, and what follows.  The word that exports a variable may stand in
front of the name, and is a name itself where the equals sign follows it. -/
def binding? (cs : List Char) : Option (String × List Char) := do
  let (name, cs) ← name? cs
  match equals? (dropBlanks cs) with
  | some cs => return (name, cs)
  | none =>
      if name == "export" then
        let (name, cs) ← name? (dropBlanks cs)
        return (name, ← equals? (dropBlanks cs))
      else none

/-- What the characters of a line say. -/
def lineChars (environment : Environment) (cs : List Char) : Line :=
  match dropBlanks (Text.dropWhileEnd Text.isBlank cs) with
  | [] => .nothing
  | '#' :: _ => .nothing
  | cs =>
      match binding? cs with
      | none => .senseless
      | some (name, cs) =>
          match dropBlanks cs with
          | [] => .binding name ""
          | '#' :: _ => .binding name ""
          | cs =>
              match value? environment cs with
              | some value => .binding name value
              | none => .senseless

/-- What a line says.  A line that is no text makes no sense. -/
def line (environment : Environment) (bytes : List UInt8) : Line :=
  match String.fromUTF8? ⟨bytes.toArray⟩ with
  | some text => lineChars environment text.toList
  | none => .senseless

/-! ## Files -/

/-- The environment with one more variable.  A variable that is set stays as it is, and any other
takes no null character. -/
def set? (environment : Environment) (name value : String) : Option Environment :=
  if (environment name).isSome then some environment
  else if value.toList.contains '\x00' then none
  else some fun other => if other = name then some value else environment other

/-- The lines of a file, the first of which has begun with the given bytes in reverse. -/
def linesFrom : (current : List UInt8) → List UInt8 → List (List UInt8)
  | current, [] => if current.isEmpty then [] else [current.reverse]
  | current, byte :: bytes =>
      if byte = 10 then current.reverse :: linesFrom [] bytes else linesFrom (byte :: current) bytes

/-- The environment extended by lines up to the first one that makes no sense. -/
def extendLines? : Environment → List (List UInt8) → Option Environment
  | environment, [] => some environment
  | environment, bytes :: rest =>
      match line environment bytes with
      | .nothing => extendLines? environment rest
      | .binding name value =>
          (set? environment name value).bind fun environment => extendLines? environment rest
      | .senseless => some environment

/-- The environment extended by a file. -/
def extend? (environment : Environment) (bytes : ByteArray) : Option Environment :=
  extendLines? environment (linesFrom [] bytes.toList)

end VariableFile
end CodeSurvey
