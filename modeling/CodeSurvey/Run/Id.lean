import CodeSurvey.Text.Hexadecimal

/-!
# Run identities

A run is identified by 128 bits.  They are written as 32 hexadecimal digits in groups of eight,
four, four, four and twelve, joined by hyphens.  They are read in that form, in braces or behind
`urn:uuid:`, and without any hyphens; letters may be of either case.
-/

namespace CodeSurvey

/-- The identity of a run. -/
structure RunId where
  bits : BitVec 128
  deriving DecidableEq, Repr

namespace RunId

instance : Ord RunId := ⟨fun a b => compare a.bits.toNat b.bits.toNat⟩

/-- Identities are compared like the numbers that their bits stand for. -/
theorem compare_eq (a b : RunId) : compare a b = compare a.bits.toNat b.bits.toNat :=
  rfl

instance : Std.TransOrd RunId where
  eq_swap {a b} := by
    rw [compare_eq, compare_eq]
    exact Std.OrientedCmp.eq_swap
  isLE_trans {a b c} hab hbc := by
    rw [compare_eq] at *
    exact Std.TransCmp.isLE_trans hab hbc

instance : Std.LawfulEqOrd RunId where
  eq_of_compare {a b} h := by
    rw [compare_eq] at h
    have same : a.bits.toNat = b.bits.toNat := Std.LawfulEqCmp.eq_of_compare h
    cases a
    cases b
    simpa using BitVec.eq_of_toNat_eq same

/-- The identity whose bits are all zero. -/
def nil : RunId := ⟨0⟩

/-- The lengths of the groups of digits. -/
def groups : List Nat := [8, 4, 4, 4, 12]

/-- Splits a list into groups of the given lengths and joins them by hyphens. -/
def hyphenate : (lengths : List Nat) → List Char → List Char
  | [], rest => rest
  | [length], rest => rest.take length
  | length :: lengths, rest => rest.take length ++ '-' :: hyphenate lengths (rest.drop length)

/-- The written form of an identity. -/
def text (id : RunId) : String := String.ofList (hyphenate groups (Hexadecimal.digits 32 id.bits.toNat))

/-! ## Reading -/

/-- Removes the hyphens that must stand between groups of the given lengths. -/
def unhyphenate? : (lengths : List Nat) → List Char → Option (List Char)
  | [], rest => if rest.isEmpty then some [] else none
  | [length], rest => if rest.length = length then some rest else none
  | length :: lengths, rest =>
      match rest.drop length with
      | '-' :: tail => (unhyphenate? lengths tail).map (rest.take length ++ ·)
      | _ => none

/-- The identity of exactly 32 digits. -/
def ofDigits? (digits : List Char) : Option RunId :=
  if digits.length = 32 then (Hexadecimal.number? digits).map fun n => ⟨BitVec.ofNat 128 n⟩ else none

/-- The identity that a hyphenated list of characters stands for. -/
def ofHyphenated? (cs : List Char) : Option RunId := (unhyphenate? groups cs).bind ofDigits?

/-- The identity that a text stands for. -/
def ofText? (text : String) : Option RunId :=
  let cs := text.toList
  let urn := "urn:uuid:".toList
  if cs.length = 32 then ofDigits? cs
  else if cs.length = 36 then ofHyphenated? cs
  else if cs.length = 38 then
    if cs.head? = some '\x7b' ∧ cs.getLast? = some '\x7d' then
      ofHyphenated? (cs.drop 1).dropLast
    else none
  else if cs.length = 45 ∧ urn.isPrefixOf cs then ofHyphenated? (cs.drop urn.length)
  else none

end RunId

end CodeSurvey
