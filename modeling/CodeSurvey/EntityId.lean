import CodeSurvey.OrderedMap

/-!
# Identities of code entities

A file is identified by its path in the repository, a symbol inside a file by the path, two
colons and the name of the symbol.  The parts of an identity are found by looking for the two
colons from either end, so that runs of three or more colons still have a first and a last pair.

## Main definitions

* `EntityId.filePath`, `EntityId.symbol?`, `EntityId.label`: the parts of an identity.
* `TargetSet`: the identities to which a selective pass is restricted.
-/

namespace CodeSurvey

/-- The identity of a file or of a symbol in a file. -/
structure EntityId where
  text : String
  deriving DecidableEq, Repr, Inhabited

namespace EntityId

/-- The text between a path and a symbol. -/
def separator : String := "::"

/-- Identities are ordered by the code points of their texts. -/
instance : Ord EntityId := ⟨fun a b => compare a.text b.text⟩

theorem compare_text (a b : EntityId) : compare a b = compare a.text b.text :=
  rfl

instance : Std.TransOrd EntityId where
  eq_swap {a b} := by
    rw [compare_text, compare_text]
    exact Std.OrientedCmp.eq_swap
  isLE_trans {a b c} hab hbc := by
    rw [compare_text] at hab hbc ⊢
    exact Std.TransCmp.isLE_trans hab hbc

instance : Std.LawfulEqOrd EntityId where
  compare_self {a} := by
    rw [compare_text]
    exact Std.ReflCmp.compare_self
  eq_of_compare {a b} h := by
    rw [compare_text] at h
    cases a
    cases b
    exact congrArg _ (Std.LawfulEqCmp.eq_of_compare h)

/-- The identity of a symbol in a file. -/
def nested (file symbol : String) : EntityId := ⟨file ++ separator ++ symbol⟩

/-- Whether the identity is the empty text. -/
def isEmpty (id : EntityId) : Bool := id.text.isEmpty

/-! ## Parts of an identity -/

/-- What precedes the first pair of colons. -/
def beforeFirstPair : List Char → List Char
  | ':' :: ':' :: _ => []
  | [] => []
  | c :: cs => c :: beforeFirstPair cs

/-- What follows the last pair of colons. -/
def afterLastPair : List Char → Option (List Char)
  | [] => none
  | c :: cs =>
      match afterLastPair cs with
      | some rest => some rest
      | none =>
          match c, cs with
          | ':', ':' :: rest => some rest
          | _, _ => none

/-- What follows the last slash, or the whole list. -/
def afterLastSlash (cs : List Char) : List Char :=
  (cs.reverse.takeWhile (· != '/')).reverse

/-- The path of the file: the text up to the first pair of colons. -/
def filePath (id : EntityId) : String := String.ofList (beforeFirstPair id.text.toList)

/-- The innermost symbol: the text after the last pair of colons. -/
def symbol? (id : EntityId) : Option String := (afterLastPair id.text.toList).map String.ofList

/-- Whether the identity points below a file. -/
def isNested (id : EntityId) : Bool := (afterLastPair id.text.toList).isSome

/-- What a reader calls the entity: the symbol of a nested identity, the file name of any
other. -/
def label (id : EntityId) : String :=
  id.symbol?.getD (String.ofList (afterLastSlash id.text.toList))

end EntityId

/-- The identities to which a selective pass is restricted. -/
abbrev TargetSet := OrderedSet EntityId

/-- Whether an identity is in scope: anything is when there is no target set. -/
def inScope (targets : Option TargetSet) (id : EntityId) : Bool :=
  match targets with
  | none => true
  | some set => set.contains id

@[simp]
theorem inScope_none (id : EntityId) : inScope none id = true :=
  rfl

@[simp]
theorem inScope_some (set : TargetSet) (id : EntityId) :
    inScope (some set) id = set.contains id :=
  rfl

end CodeSurvey
