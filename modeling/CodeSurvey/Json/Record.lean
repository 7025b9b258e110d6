import CodeSurvey.Decimal.Scaled
import CodeSurvey.EntityId
import CodeSurvey.Json.Value
import CodeSurvey.Similarity

/-!
# Decoding values into domain types

A decoder turns a value into a member of a domain type or says why it cannot.  A record may be
written in two ways: as an object, whose unknown fields are ignored and whose known fields occur
once, or as the array of its fields in their declared order.

## Main definitions

* `Decoder`: the type of decoders, with decoders for texts, numbers, lists, sets and maps.
* `Dialect`: where the interchange format and hand-written documents differ.
* `Record.read`: the fields of a record in either form.
* `Record.required`, `Record.optional`, `Record.defaulted`: what stands in for an absent field.
-/

namespace CodeSurvey
namespace Json

/-- Why a value cannot be decoded. -/
inductive DecodeError where
  | wrongType (expected : String)
  | outOfRange
  | unknownVariant (name : String)
  | duplicateField (name : String)
  | missingField (name : String)
  | surplusItems
  | malformed
  deriving DecidableEq, Repr

mutual

/-- Whether nothing in a value is malformed. -/
def isWellFormed : Json → Bool
  | .malformed => false
  | .array items => areWellFormed items
  | .object fields => haveWellFormed fields
  | _ => true

/-- Whether nothing in the items of an array is malformed. -/
def areWellFormed : List Json → Bool
  | [] => true
  | item :: rest => isWellFormed item && areWellFormed rest

/-- Whether nothing in the fields of an object is malformed. -/
def haveWellFormed : List (String × Json) → Bool
  | [] => true
  | (_, value) :: rest => isWellFormed value && haveWellFormed rest

end

/-- Where formats differ in what a decoder accepts: whether an array of fields may go on behind the
last of them, which values may be ignored, and which ones may stand for the content of a name that
has none. -/
structure Dialect where
  allowsSurplus : Bool
  ignores : Json → Bool
  isUnit : Json → Bool

/-- The interchange format is strict about surplus fields, ignores any value, and null is the content
of a name. -/
def Dialect.interchange : Dialect where
  allowsSurplus := false
  ignores _ := true
  isUnit
    | .null => true
    | _ => false

/-- Hand-written documents may have surplus fields, what is ignored in them makes sense nevertheless,
and what is empty is the content of a name. -/
def Dialect.document : Dialect where
  allowsSurplus := true
  ignores := isWellFormed
  isUnit
    | .object [] | .array [] => true
    | _ => false

/-- A function from values that may refuse them. -/
abbrev Decoder (α : Type) := Json → Except DecodeError α

namespace Decoder

/-! ## Plain values -/

/-- A text. -/
def text : Decoder String
  | .text s => .ok s
  | _ => .error (.wrongType "text")

/-- A truth value. -/
def bool : Decoder Bool
  | .bool b => .ok b
  | _ => .error (.wrongType "truth value")

/-- A natural number below a bound. -/
def natBelow (bound : Nat) : Decoder Nat
  | .integer n =>
      match n with
      | .ofNat k => if k < bound then .ok k else .error .outOfRange
      | .negSucc _ => .error .outOfRange
  | _ => .error (.wrongType "natural number")

/-- A natural number of 32 bits. -/
def uint32 : Decoder UInt32 := fun value => (natBelow UInt32.size value).map UInt32.ofNat

/-- A natural number of 64 bits, as a word. -/
def uint64 : Decoder UInt64 := fun value => (natBelow UInt64.size value).map UInt64.ofNat

/-- A natural number that fits into 64 bits. -/
def count : Decoder Nat := natBelow UInt64.size

/-- A single-precision number.  An integer is rounded once; a decimal is first scaled in double
precision, where it must not overflow. -/
def float32 : Decoder Float32
  | .integer n =>
      let magnitude := (UInt64.ofNat n.natAbs).toFloat32
      .ok (if n < 0 then -magnitude else magnitude)
  | .decimal literal =>
      match literal.scaled? with
      | some x => .ok x.toFloat32
      | none => .error .outOfRange
  | .float x => .ok x
  | _ => .error (.wrongType "number")

/-- An identity. -/
def entityId : Decoder EntityId := fun value => (text value).map EntityId.mk

/-- One of finitely many names, alone or as the only key of an object that binds it to no
content. -/
def variantAs {α : Type} (dialect : Dialect) (names : List (String × α)) : Decoder α := fun value =>
  let find (name : String) : Except DecodeError α :=
    match names.lookup name with
    | some x => .ok x
    | none => .error (.unknownVariant name)
  match value with
  | .text name => find name
  | .object [(name, content)] =>
      if dialect.isUnit content then find name else .error (.wrongType "name")
  | _ => .error (.wrongType "name")

/-- One of finitely many names in the interchange format. -/
def variant {α : Type} (names : List (String × α)) : Decoder α := variantAs .interchange names

/-! ## Composite values -/

/-- A value or null. -/
def option {α : Type} (decode : Decoder α) : Decoder (Option α)
  | .null => .ok none
  | value => (decode value).map some

/-- A list of values. -/
def listOf {α : Type} (decode : Decoder α) : Decoder (List α)
  | .array items => items.mapM decode
  | _ => .error (.wrongType "array")

/-- A set of identities. -/
def targetSet : Decoder TargetSet := fun value =>
  (listOf entityId value).map OrderedSet.ofElements

/-- A vector. -/
def vector : Decoder Vector32 := listOf float32

/-- The entries of an object, of which the last one of a key counts. -/
def entries {α : Type} (decode : Decoder α) : Decoder (OrderedMap String α)
  | .object fields =>
      (fields.mapM fun (field : String × Json) => (decode field.2).map fun x => (field.1, x)).map
        OrderedMap.ofList
  | _ => .error (.wrongType "object")

/-- A map from texts to texts. -/
def textMap : Decoder (OrderedMap String String) := entries text

end Decoder

/-! ## Records -/

/-- The fields of a record that are present, and whether they were given by position. -/
structure Record where
  positional : Bool
  fields : List (String × Json)

namespace Record

/-- The first name that occurs twice among fields. -/
def repeated? : List (String × Json) → Option String
  | [] => none
  | (name, _) :: rest => if rest.any fun field => field.1 == name then some name else repeated? rest

/-- The fields of a record with the declared names. -/
def readAs (dialect : Dialect) (names : List String) : Decoder Record
  | .object fields =>
      let known := fields.filter fun field => names.contains field.1
      let unknown := fields.filter fun field => !names.contains field.1
      match repeated? known with
      | some name => .error (.duplicateField name)
      | none =>
          if unknown.all fun field => dialect.ignores field.2 then .ok ⟨false, known⟩
          else .error .malformed
  | .array items =>
      if decide (names.length < items.length) && !dialect.allowsSurplus then .error .surplusItems
      else .ok ⟨true, names.zip items⟩
  | _ => .error (.wrongType "record")

/-- The fields of a record in the interchange format. -/
def read (names : List String) : Decoder Record := readAs .interchange names

/-- The value of a field, if it is present. -/
def get? (record : Record) (name : String) : Option Json := record.fields.lookup name

/-- A field that must be present. -/
def required {α : Type} (record : Record) (name : String) (decode : Decoder α) :
    Except DecodeError α :=
  match record.get? name with
  | some value => decode value
  | none => .error (.missingField name)

/-- A field that takes a default where it is absent. -/
def defaulted {α : Type} (record : Record) (name : String) (decode : Decoder α) (default : α) :
    Except DecodeError α :=
  match record.get? name with
  | some value => decode value
  | none => .ok default

/-- A field that may be null, and that may also be left out of an object. -/
def optional {α : Type} (record : Record) (name : String) (decode : Decoder α) :
    Except DecodeError (Option α) :=
  match record.get? name with
  | some value => Decoder.option decode value
  | none => if record.positional then .error (.missingField name) else .ok none

end Record

end Json
end CodeSurvey
