import CodeSurvey.Decimal.Literal
import CodeSurvey.Toml.Blank

/-!
# Dates and times in documents

A moment is a date, a time, or a date and a time, to which the offset from universal time may be
added.  Seconds may be left out, and may have a fraction.  Only the form matters here: no setting
is a moment.
-/

namespace CodeSurvey
namespace Toml
namespace Moment

open Decimal (isDigit ofDigits)

/-- A number of two digits at the beginning of the characters, and what follows it. -/
def pair? : List Char → Option (Nat × List Char)
  | a :: b :: cs => if isDigit a && isDigit b then some (ofDigits [a, b], cs) else none
  | _ => none

/-- A number of four digits at the beginning of the characters, and what follows it. -/
def year? (cs : List Char) : Option (Nat × List Char) := do
  let (century, cs) ← pair? cs
  let (rest, cs) ← pair? cs
  return (100 * century + rest, cs)

/-- Whether a year has a leap day. -/
def isLeap (year : Nat) : Bool := (year % 4 == 0 && year % 100 != 0) || year % 400 == 0

/-- How many days a month has. -/
def daysIn (year month : Nat) : Nat :=
  if month = 2 then if isLeap year then 29 else 28
  else if month = 4 ∨ month = 6 ∨ month = 9 ∨ month = 11 then 30
  else 31

/-- What follows a date. -/
def date? (cs : List Char) : Option (List Char) := do
  let (year, cs) ← year? cs
  let (month, cs) ← pair? (← expect? '-' cs)
  let (day, cs) ← pair? (← expect? '-' cs)
  if 1 ≤ month ∧ month ≤ 12 ∧ 1 ≤ day ∧ day ≤ daysIn year month then some cs else none

/-- What follows the fraction of a second, if there is one. -/
def fraction? : List Char → Option (List Char)
  | '.' :: cs => if (cs.takeWhile isDigit).isEmpty then none else some (cs.dropWhile isDigit)
  | cs => some cs

/-- What follows the seconds, if there are any.  There may be a leap second. -/
def seconds? : List Char → Option (List Char)
  | ':' :: cs => do
      let (second, cs) ← pair? cs
      if second ≤ 60 then fraction? cs else none
  | cs => some cs

/-- What follows hours and minutes. -/
def minutes? (cs : List Char) : Option (List Char) := do
  let (hour, cs) ← pair? cs
  let (minute, cs) ← pair? (← expect? ':' cs)
  if hour ≤ 23 ∧ minute ≤ 59 then some cs else none

/-- What follows a time. -/
def time? (cs : List Char) : Option (List Char) := (minutes? cs).bind seconds?

/-- What follows an offset, if there is one. -/
def offset? : List Char → Option (List Char)
  | [] => some []
  | c :: cs =>
      if c == 'Z' || c == 'z' then some cs
      else if c == '+' || c == '-' then minutes? cs
      else none

/-- Whether the characters are a date. -/
def isDate (cs : List Char) : Bool := date? cs == some []

/-- Whether the character may stand between a date and a time. -/
def isSeparator (c : Char) : Bool := c == 'T' || c == 't' || c == ' '

/-- Whether the characters are a date, a separator, a time and perhaps an offset. -/
def isDateTime (cs : List Char) : Bool :=
  match date? cs with
  | some (separator :: cs) => isSeparator separator && (time? cs).bind offset? == some []
  | _ => false

/-- Whether the characters are a moment. -/
def isMoment (cs : List Char) : Bool := isDate cs || isDateTime cs || time? cs == some []

end Moment
end Toml
end CodeSurvey
