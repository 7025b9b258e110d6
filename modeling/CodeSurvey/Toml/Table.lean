import CodeSurvey.Json.Value

/-!
# Tables of a document

A document builds one table of tables line by line.  A table may come to be in four ways, and how it
came to be says what may still be added to it: a table is opened by a header only once, keys joined
by dots do not reach into a table that has been opened, and an inline table is complete.

## Main definitions

* `Value`, `Table`: values with the origins of tables.
* `Table.alter`: a change at the end of a path.
* `Table.insert`, `Table.openTable`, `Table.openRow`: what the lines of a document do.
-/

namespace CodeSurvey
namespace Toml

/-- How a table came to be: it was opened by a header, it lies on the path of a header, it lies on
the path of a key, or it stands in braces. -/
inductive Origin where
  | header
  | onHeaderPath
  | onKeyPath
  | inline
  deriving DecidableEq, Repr

/-- A value of a document.  An array is growing if headers add tables to it. -/
inductive Value where
  | plain (value : Json)
  | array (growing : Bool) (items : List Value)
  | table (origin : Origin) (fields : List (String × Value))

mutual

/-- A value without the origins of its tables. -/
def Value.toJson : Value → Json
  | .plain value => value
  | .array _ items => .array (itemsToJson items)
  | .table _ fields => .object (fieldsToJson fields)

/-- The items of an array without the origins of their tables. -/
def itemsToJson : List Value → List Json
  | [] => []
  | item :: rest => item.toJson :: itemsToJson rest

/-- The fields of a table without the origins of their tables. -/
def fieldsToJson : List (String × Value) → List (String × Json)
  | [] => []
  | (key, value) :: rest => (key, value.toJson) :: fieldsToJson rest

end

/-- A table with its origin. -/
structure Table where
  origin : Origin
  fields : List (String × Value)

namespace Table

/-- The table that a document begins with. -/
def root : Table := ⟨.header, []⟩

/-- The table as a value. -/
def value (table : Table) : Value := .table table.origin table.fields

/-- The value of a key. -/
def get? (table : Table) (key : String) : Option Value := table.fields.lookup key

/-- Fields with the value of a key replaced, or added at the end. -/
def bindField (key : String) (value : Value) : List (String × Value) → List (String × Value)
  | [] => [(key, value)]
  | field :: rest =>
      if field.1 = key then (key, value) :: rest else field :: bindField key value rest

/-- The table with a key bound to a value. -/
def bind (table : Table) (key : String) (value : Value) : Table :=
  { table with fields := bindField key value table.fields }

/-- The table with the one at the end of a path changed.  The path is that of a key or of a header.
Missing tables are created, and an array that is growing stands for its last table. -/
def alter (ofKey : Bool) (change : Table → Option Table) : (path : List String) → Table →
    Option Table
  | [], table => change table
  | key :: path, table =>
      match table.get? key with
      | none =>
          (alter ofKey change path ⟨if ofKey then .onKeyPath else .onHeaderPath, []⟩).map
            fun inner => table.bind key inner.value
      | some (.table origin fields) =>
          if origin = .inline ∨ (ofKey ∧ origin = .header) then none
          else (alter ofKey change path ⟨origin, fields⟩).map fun inner => table.bind key inner.value
      | some (.array true items) =>
          match items.getLast? with
          | some (.table origin fields) =>
              (alter ofKey change path ⟨origin, fields⟩).map fun inner =>
                table.bind key (.array true (items.dropLast ++ [inner.value]))
          | _ => none
      | some _ => none

/-- The table with a new key.  A table on the path of a key takes keys by such paths only, and any
other table takes none by them. -/
def insertNew (onPath : Bool) (key : String) (value : Value) (table : Table) : Option Table :=
  if decide (table.origin = .onKeyPath) = onPath ∧ (table.get? key).isNone then
    some (table.bind key value)
  else none

/-- The table with a value at the end of a path of keys. -/
def insert (path : List String) (key : String) (value : Value) (table : Table) : Option Table :=
  table.alter true (insertNew (!path.isEmpty) key value) path

/-- The table with an inner one opened by a header. -/
def openNew (key : String) (table : Table) : Option Table :=
  match table.get? key with
  | none => some (table.bind key (.table .header []))
  | some (.table .onHeaderPath fields) => some (table.bind key (.table .header fields))
  | some _ => none

/-- The table with the one at the end of a path opened by a header. -/
def openTable (path : List String) (key : String) (table : Table) : Option Table :=
  table.alter false (openNew key) path

/-- The table with one more table in a growing array. -/
def addRow (key : String) (table : Table) : Option Table :=
  match table.get? key with
  | none => some (table.bind key (.array true [.table .header []]))
  | some (.array true items) =>
      some (table.bind key (.array true (items ++ [.table .header []])))
  | some _ => none

/-- The table with one more table in the growing array at the end of a path. -/
def openRow (path : List String) (key : String) (table : Table) : Option Table :=
  table.alter false (addRow key) path

end Table

end Toml
end CodeSurvey
