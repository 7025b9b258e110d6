import CodeSurvey.Run.Id
import Mathlib.Algebra.GroupWithZero.Nat

/-!
# Run identities read back

The written form of a run identity has 36 characters, which are read as a hyphenated form.  Taking
the hyphens out gives the digits back.

## Main results

* `RunId.unhyphenate?_hyphenate`: the groups of digits are found again.
* `RunId.ofText?_text`: what is written is read as the identity.
-/

namespace CodeSurvey
namespace RunId

/-- The hyphens that are put between groups are taken out again. -/
theorem unhyphenate?_hyphenate {lengths : List Nat} {digits : List Char} (hne : lengths ≠ [])
    (h : digits.length = lengths.sum) :
    unhyphenate? lengths (hyphenate lengths digits) = some digits := by
  induction lengths generalizing digits with
  | nil => exact absurd rfl hne
  | cons length rest ih =>
      rw [List.sum_cons] at h
      cases rest with
      | nil =>
          have hall : digits.length = length := by
            simpa using h
          have htake : digits.take length = digits := List.take_of_length_le (by omega)
          simp [hyphenate, unhyphenate?, htake, hall]
      | cons next rest =>
          have hfront : (digits.take length).length = length := by
            rw [List.length_take]
            omega
          have hback : (digits.drop length).length = (next :: rest).sum := by
            rw [List.length_drop]
            omega
          have htake : (hyphenate (length :: next :: rest) digits).take length =
              digits.take length := List.take_left' hfront
          have hdrop : (hyphenate (length :: next :: rest) digits).drop length =
              '-' :: hyphenate (next :: rest) (digits.drop length) := List.drop_left' hfront
          simp only [unhyphenate?, htake, hdrop, ih (List.cons_ne_nil _ _) hback, Option.map_some,
            List.take_append_drop]

/-- There is one hyphen less than there are groups. -/
theorem length_hyphenate {lengths : List Nat} {digits : List Char} (hne : lengths ≠ [])
    (h : digits.length = lengths.sum) :
    (hyphenate lengths digits).length + 1 = digits.length + lengths.length := by
  induction lengths generalizing digits with
  | nil => exact absurd rfl hne
  | cons length rest ih =>
      rw [List.sum_cons] at h
      cases rest with
      | nil =>
          rw [List.sum_nil] at h
          simp [hyphenate]
          omega
      | cons next rest =>
          have hback : (digits.drop length).length = (next :: rest).sum := by
            rw [List.length_drop]
            omega
          have hrest := ih (List.cons_ne_nil _ _) hback
          rw [List.length_drop, List.length_cons] at hrest
          simp only [hyphenate, List.length_append, List.length_take, List.length_cons]
          omega

/-- The digits of an identity are those of its bits. -/
theorem ofDigits?_digits (id : RunId) :
    ofDigits? (Hexadecimal.digits 32 id.bits.toNat) = some id := by
  have hlt : id.bits.toNat < Nat.pow 16 32 := id.bits.isLt
  rw [ofDigits?, if_pos (Hexadecimal.length_digits 32 _), Hexadecimal.number?_digits,
    Nat.mod_eq_of_lt hlt, Option.map_some, BitVec.ofNat_toNat, BitVec.setWidth_eq]

theorem groups_ne_nil : groups ≠ [] := List.cons_ne_nil _ _

theorem length_digits_eq_sum (n : Nat) : (Hexadecimal.digits 32 n).length = groups.sum := by
  rw [Hexadecimal.length_digits]
  rfl

theorem length_text (id : RunId) : id.text.toList.length = 36 := by
  have hcount := length_hyphenate groups_ne_nil (length_digits_eq_sum id.bits.toNat)
  have hgroups : groups.length = 5 := rfl
  rw [Hexadecimal.length_digits, hgroups] at hcount
  rw [text, String.toList_ofList]
  omega

theorem ofHyphenated?_text (id : RunId) : ofHyphenated? id.text.toList = some id := by
  rw [text, String.toList_ofList, ofHyphenated?,
    unhyphenate?_hyphenate groups_ne_nil (length_digits_eq_sum _), Option.bind_some,
    ofDigits?_digits]

/-- What is written is read as the identity. -/
theorem ofText?_text (id : RunId) : ofText? id.text = some id := by
  unfold ofText?
  simp only [length_text]
  exact ofHyphenated?_text id

end RunId
end CodeSurvey
