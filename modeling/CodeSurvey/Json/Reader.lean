import CodeSurvey.Decimal.Scaled
import CodeSurvey.Json.Token
import CodeSurvey.Json.Value

/-!
# Reading values of the interchange format

Tokens are read by a machine with a stack of unfinished arrays and objects.  A text is accepted
when it holds exactly one value.

## Main definitions

* `Json.number?`: the value of a number's characters, by the grammar of numbers.
* `Json.read?`: the value that a text holds.
-/

namespace CodeSurvey
namespace Json

/-! ## Numbers -/

/-- Whether a list of digits has no superfluous leading zero. -/
def isWholePart (digits : List Char) : Bool :=
  match digits with
  | [] => false
  | '0' :: rest => rest.isEmpty
  | _ => true

/-- The value of a whole number.  Zero with a sign, and a number outside the ranges of 64 bits, is
a decimal. -/
def wholeNumber (negative : Bool) (digits : List Char) : Json :=
  let n := Decimal.ofDigits digits
  let fits := if negative then decide (n ≠ 0 ∧ n ≤ Nat.pow 2 63) else decide (n < UInt64.size)
  if fits then .integer (if negative then -(n : Int) else n)
  else .decimal (.ofParts negative digits [] 0)

/-- The exponent behind the digits, if it is well-formed. -/
def exponent? : List Char → Option Int
  | [] => some 0
  | c :: cs => if c = 'e' ∨ c = 'E' then Decimal.readExponent? cs else none

/-- The value of a number without its sign. -/
def unsigned? (negative : Bool) (cs : List Char) : Option Json :=
  let whole := cs.takeWhile Decimal.isDigit
  let rest := cs.dropWhile Decimal.isDigit
  if !isWholePart whole then none
  else
    match rest with
    | [] => some (wholeNumber negative whole)
    | '.' :: tail =>
        let fraction := tail.takeWhile Decimal.isDigit
        if fraction.isEmpty then none
        else
          (exponent? (tail.dropWhile Decimal.isDigit)).map fun e =>
            .decimal (.ofParts negative whole fraction e)
    | tail => (exponent? tail).map fun e => .decimal (.ofParts negative whole [] e)

/-- The value of the characters of a number. -/
def number? : List Char → Option Json
  | '-' :: cs => unsigned? true cs
  | cs => unsigned? false cs

/-- The value of a word. -/
def word? (letters : List Char) : Option Json :=
  let word := String.ofList letters
  if word == "null" then some .null
  else if word == "true" then some (.bool true)
  else if word == "false" then some (.bool false)
  else none

/-! ## The machine -/

/-- An unfinished array or object, with its parts in reverse.  An object that has met an
unreadable key stays unreadable. -/
inductive Frame where
  | array (items : List Json)
  | object (fields : List (String × Json)) (key : Option String) (readable : Bool)

/-- What the machine expects next. -/
inductive State where
  | value (stack : List Frame)
  | firstItem (stack : List Frame)
  | firstKey (stack : List Frame)
  | key (stack : List Frame)
  | colon (stack : List Frame)
  | next (stack : List Frame)
  | finished (value : Json)

/-- The state after a complete value. -/
def deliver (value : Json) : List Frame → State
  | [] => .finished value
  | .array items :: stack => .next (.array (value :: items) :: stack)
  | .object fields key readable :: stack =>
      .next (.object ((key.getD "", value) :: fields) none (readable && key.isSome) :: stack)

/-- The value of a finished array or object. -/
def Frame.value : Frame → Json
  | .array items => .array items.reverse
  | .object fields _ readable => if readable then .object fields.reverse else .unreadable

/-- The state after a token where a value is expected. -/
def stepValue (stack : List Frame) : Token → Option State
  | .openBrace => some (.firstKey (.object [] none true :: stack))
  | .openBracket => some (.firstItem (.array [] :: stack))
  | .string (some content) => some (deliver (.text content) stack)
  | .string none => some (deliver .unreadable stack)
  | .number digits => (number? digits).map fun value => deliver value stack
  | .word letters => (word? letters).map fun value => deliver value stack
  | _ => none

/-- The state after a token where a key is expected. -/
def stepKey (stack : List Frame) : Token → Option State
  | .string content =>
      match stack with
      | .object fields _ readable :: rest => some (.colon (.object fields content readable :: rest))
      | _ => none
  | _ => none

/-- The state after one token. -/
def State.step : State → Token → Option State
  | .value stack, token => stepValue stack token
  | .firstItem stack, token =>
      match token, stack with
      | .closeBracket, frame :: rest => some (deliver frame.value rest)
      | token, stack => stepValue stack token
  | .firstKey stack, token =>
      match token, stack with
      | .closeBrace, frame :: rest => some (deliver frame.value rest)
      | token, stack => stepKey stack token
  | .key stack, token => stepKey stack token
  | .colon stack, .colon => some (.value stack)
  | .next (.array items :: rest), .comma => some (.value (.array items :: rest))
  | .next (.array items :: rest), .closeBracket => some (deliver (Frame.array items).value rest)
  | .next (.object fields name readable :: rest), .comma =>
      some (.key (.object fields name readable :: rest))
  | .next (.object fields name readable :: rest), .closeBrace =>
      some (deliver (Frame.object fields name readable).value rest)
  | _, _ => none

/-- The value of a list of tokens, read from a state on. -/
def readFrom : State → List Token → Option Json
  | .finished value, [] => some value
  | _, [] => none
  | state, token :: tokens =>
      match state.step token with
      | some state => readFrom state tokens
      | none => none

/-- The value that a text holds, and nothing else beside it. -/
def read? (text : String) : Option Json := (Token.scan? text).bind (readFrom (.value []))

end Json
end CodeSurvey
