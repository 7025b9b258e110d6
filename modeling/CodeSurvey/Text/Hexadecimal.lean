/-!
# Hexadecimal digits

Digits to the base sixteen are written with small letters and read with letters of either case.

## Main definitions

* `Hexadecimal.digits`: a number written with a fixed count of digits.
* `Hexadecimal.number?`: the number that digits stand for.

## Main results

* `Hexadecimal.number?_digits`: what is written is read as the number.
-/

namespace CodeSurvey
namespace Hexadecimal

/-! ## Writing -/

/-- The digit for a number below sixteen. -/
def digit (n : Nat) : Char :=
  if n < 10 then Char.ofNat ('0'.toNat + n) else Char.ofNat ('a'.toNat + (n - 10))

/-- The last `count` digits of a number. -/
def digits : (count : Nat) → Nat → List Char
  | 0, _ => []
  | count + 1, n => digits count (n / 16) ++ [digit (n % 16)]

/-! ## Reading -/

/-- The number that a digit stands for. -/
def value? (c : Char) : Option Nat :=
  if '0' ≤ c ∧ c ≤ '9' then some (c.toNat - '0'.toNat)
  else if 'a' ≤ c ∧ c ≤ 'f' then some (c.toNat - 'a'.toNat + 10)
  else if 'A' ≤ c ∧ c ≤ 'F' then some (c.toNat - 'A'.toNat + 10)
  else none

/-- The number that digits continue from `start`. -/
def numberFrom? : (start : Nat) → List Char → Option Nat
  | start, [] => some start
  | start, c :: cs =>
      match value? c with
      | some digit => numberFrom? (16 * start + digit) cs
      | none => none

/-- The number that digits stand for. -/
def number? (cs : List Char) : Option Nat := numberFrom? 0 cs

@[simp]
theorem length_digits (count n : Nat) : (digits count n).length = count := by
  induction count generalizing n with
  | zero => rfl
  | succ count ih => simp [digits, ih]

/-- A digit stands for the number that it was written for. -/
theorem value?_digit {n : Nat} (h : n < 16) : value? (digit n) = some n := by
  revert n
  decide

/-- Digits in two parts are read one part after the other. -/
theorem numberFrom?_append (start : Nat) (cs ds : List Char) :
    numberFrom? start (cs ++ ds) = (numberFrom? start cs).bind (numberFrom? · ds) := by
  induction cs generalizing start with
  | nil => rfl
  | cons c cs ih =>
      simp only [List.cons_append, numberFrom?]
      cases value? c with
      | none => rfl
      | some digit => exact ih _

/-- What `digits` writes is read as the number, up to the digits that had no place. -/
theorem number?_digits (count n : Nat) : number? (digits count n) = some (n % Nat.pow 16 count) := by
  induction count generalizing n with
  | zero => simp [digits, number?, numberFrom?, Nat.mod_one]
  | succ count ih =>
      have hdigit : n % 16 < 16 := Nat.mod_lt _ (by decide)
      have hsplit : 16 * (n / 16 % Nat.pow 16 count) + n % 16 = n % Nat.pow 16 (count + 1) := by
        have hpow : Nat.pow 16 (count + 1) = 16 * Nat.pow 16 count := Nat.mul_comm _ _
        rw [hpow, Nat.mod_mul, Nat.add_comm]
      have hfront := ih (n / 16)
      rw [number?] at hfront
      rw [number?, digits, numberFrom?_append, hfront]
      simp only [Option.bind_some, numberFrom?, value?_digit hdigit, hsplit]

end Hexadecimal
end CodeSurvey
