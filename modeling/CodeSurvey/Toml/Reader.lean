import CodeSurvey.Toml.Moment
import CodeSurvey.Toml.Number
import CodeSurvey.Toml.Table
import CodeSurvey.Toml.Text

/-!
# Reading documents

A document is a sequence of lines.  A line opens a table, opens one more table of an array, binds a
key in the table that is open, or says nothing.

## Main definitions

* `keyPath?`: keys joined by dots.
* `value?`: a value, and what follows it.
* `read?`: the value of a whole document.
-/

namespace CodeSurvey
namespace Toml

/-! ## Keys -/

/-- Whether the character may stand in a key without quotation marks. -/
def isKeyChar (c : Char) : Bool :=
  Decimal.isDigit c || (decide ('a' ≤ c) && decide (c ≤ 'z')) ||
    (decide ('A' ≤ c) && decide (c ≤ 'Z')) || c == '_' || c == '-'

/-- One key, and what follows it. -/
def key? : List Char → Option (String × List Char)
  | '"' :: cs => Text.readAs? .quoted cs
  | '\'' :: cs => Text.readAs? .verbatim cs
  | cs =>
      let key := cs.takeWhile isKeyChar
      if key.isEmpty then none else some (String.ofList key, cs.dropWhile isKeyChar)

/-- Keys joined by dots, the blanks behind them dropped: all but the last one, the last one, and
what follows. -/
def keyPath? : (fuel : Nat) → List Char → Option (List String × String × List Char)
  | 0, _ => none
  | fuel + 1, cs => do
      let (key, cs) ← key? (dropBlanks cs)
      match dropBlanks cs with
      | '.' :: cs =>
          let (path, last, cs) ← keyPath? fuel cs
          return (key :: path, last, cs)
      | cs => return ([], key, cs)

/-- How deeply arrays and inline tables may be nested, and of how many keys a path may consist. -/
def maxDepth : Nat := 80

/-- Keys joined by dots, of which there are not too many. -/
def keys? (cs : List Char) : Option (List String × String × List Char) := do
  let (path, last, cs) ← keyPath? (cs.length + 1) cs
  if path.length < maxDepth then some (path, last, cs) else none

/-! ## Values -/

/-- Whether the character may stand in a value that has no marks around it: it has no meaning for the
structure of a document. -/
def isWordChar (c : Char) : Bool :=
  !(isBlank c || ['=', ',', '[', ']', '\x7b', '\x7d', '#', '\r', '\n'].contains c)

/-- Whether a value that has no marks around it may go on with the character behind blanks. -/
def resumesWord (c : Char) : Bool := isWordChar c && c != '.' && c != '"' && c != '\''

/-- The rest of a word behind the characters and the blanks read so far, both in reverse, and what
follows it.  Blanks belong to a word only if it goes on behind them. -/
def wordFrom : (found blanks : List Char) → List Char → List Char × List Char
  | found, blanks, [] => (found.reverse, blanks.reverse)
  | found, blanks, c :: cs =>
      if isBlank c then wordFrom found (c :: blanks) cs
      else if if blanks.isEmpty then isWordChar c else resumesWord c then
        wordFrom (c :: blanks ++ found) [] cs
      else (found.reverse, blanks.reverse ++ c :: cs)

/-- The key under which a moment is handed on, which no setting has. -/
def momentKey : String := "moment"

/-- The value of a word, which may be a date and a time with a blank between them. -/
def word? (word : List Char) : Option Json :=
  if word = ['t', 'r', 'u', 'e'] then some (.bool true)
  else if word = ['f', 'a', 'l', 's', 'e'] then some (.bool false)
  else if Moment.isMoment word then
    some (.object [(momentKey, .text (String.ofList word))])
  else Number.read? word

/-- A value that has no marks around it, and what follows it. -/
def scalar? (cs : List Char) : Option (Value × List Char) :=
  let (word, rest) := wordFrom [] [] cs
  (word? word).map fun value => (.plain value, rest)

mutual

/-- A value that may hold so many levels of others, and what follows it. -/
def value? : (fuel depth : Nat) → List Char → Option (Value × List Char)
  | 0, _, _ => none
  | fuel + 1, depth, cs =>
      match cs with
      | '[' :: rest => if depth = 0 then none else items? fuel (depth - 1) [] rest
      | '\x7b' :: rest => if depth = 0 then none else fields? fuel (depth - 1) .root rest
      | cs =>
          if Text.begins cs then
            (Text.read? cs).map fun (text, rest) => (.plain (.text text), rest)
          else scalar? cs

/-- The array that begins with the items found so far, in reverse, and what follows it. -/
def items? : (fuel depth : Nat) → (found : List Value) → List Char → Option (Value × List Char)
  | 0, _, _, _ => none
  | fuel + 1, depth, found, cs => do
      match ← dropSpace? false cs with
      | ']' :: rest => return (.array false found.reverse, rest)
      | cs =>
          let (item, cs) ← value? fuel depth cs
          match ← dropSpace? false cs with
          | ',' :: rest => items? fuel depth (item :: found) rest
          | ']' :: rest => return (.array false (item :: found).reverse, rest)
          | _ => none

/-- The inline table that begins with the fields found so far, and what follows it. -/
def fields? : (fuel depth : Nat) → (found : Table) → List Char → Option (Value × List Char)
  | 0, _, _, _ => none
  | fuel + 1, depth, found, cs => do
      match ← dropSpace? false cs with
      | '\x7d' :: rest => return (.table .inline found.fields, rest)
      | cs =>
          let (path, key, cs) ← keys? cs
          let cs ← expect? '=' (← dropSpace? false cs)
          let (item, cs) ← value? fuel depth (← dropSpace? false cs)
          let found ← found.insert path key item
          match ← dropSpace? false cs with
          | ',' :: rest => fields? fuel depth found rest
          | '\x7d' :: rest => return (.table .inline found.fields, rest)
          | _ => none

end

/-! ## Lines -/

/-- A document as far as it has been read: its table, and the path of the open one. -/
structure Document where
  table : Table
  path : List String

namespace Document

/-- Nothing has been read. -/
def start : Document := ⟨.root, []⟩

/-- The document after the header of one more table of an array. -/
def row? (document : Document) (cs : List Char) : Option (Document × List Char) := do
  let (path, key, cs) ← keys? cs
  let cs ← expect? ']' (← expect? ']' cs)
  return (⟨← document.table.openRow path key, path ++ [key]⟩, cs)

/-- The document after the header of a table. -/
def header? (document : Document) (cs : List Char) : Option (Document × List Char) := do
  let (path, key, cs) ← keys? cs
  let cs ← expect? ']' cs
  return (⟨← document.table.openTable path key, path ++ [key]⟩, cs)

/-- The document after the binding of a key. -/
def binding? (document : Document) (cs : List Char) : Option (Document × List Char) := do
  let (path, key, cs) ← keys? cs
  let cs ← expect? '=' cs
  let (value, cs) ← value? (2 * cs.length + 2) maxDepth (dropBlanks cs)
  let table ← document.table.alter false (Table.insert path key value) document.path
  return ({ document with table := table }, cs)

/-- The document after what a line has to say. -/
def statement? (document : Document) (cs : List Char) : Option (Document × List Char) :=
  match dropBlanks cs with
  | '[' :: '[' :: rest => document.row? rest
  | '[' :: rest => document.header? rest
  | cs => if (restOfLine? cs).isSome then some (document, cs) else document.binding? cs

/-- The document after the remaining lines. -/
def lines? : (fuel : Nat) → Document → List Char → Option Document
  | 0, _, _ => none
  | _, document, [] => some document
  | fuel + 1, document, cs => do
      let (document, cs) ← document.statement? cs
      lines? fuel document (← restOfLine? cs)

end Document

/-- The characters behind a mark of the byte order. -/
def dropByteOrderMark : List Char → List Char
  | '\ufeff' :: cs => cs
  | cs => cs

/-- The value of a document. -/
def read? (text : String) : Option Json :=
  let cs := dropByteOrderMark text.toList
  (Document.start.lines? (cs.length + 1) cs).map fun document => document.table.value.toJson

end Toml
end CodeSurvey
