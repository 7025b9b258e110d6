import CodeSurvey.Proofs.Binary32.Arithmetic

/-!
# Numbers, infinities and what is neither

Single-precision arithmetic is total: a result beyond the range of the format is infinite, and a
result that makes no sense is not a number.  What is not a number stays so in every operation, and
is neither less nor greater than anything.  This file says which sums and quotients are numbers, and
that numbers are ordered.

## Main results

* `Binary32.isNaN_settle`: no datum stops or starts being a number when it is packed.
* `Binary32.isNaN_add_eq_false`, `Binary32.isNaN_div_eq_false`: sums and quotients that are numbers.
* `Binary32.le_of_not_lt`: of two numbers one is not above the other.
-/

namespace CodeSurvey
namespace Binary32

open Float.Model UnpackedFloat

/-! ## Finite data -/

/-- A datum that is a number but not finite is an infinity. -/
theorem eq_infinity_of_not_isFinite {datum : UnpackedFloat} (hnumber : datum.isNaN = false)
    (h : datum.isFinite = false) : ∃ sign, datum = .infinity sign := by
  cases datum with
  | infinity sign => exact ⟨sign, rfl⟩
  | notANumber => cases hnumber
  | zero sign => cases h
  | finite sign m e hm => cases h

/-- What is finite is a number. -/
theorem isNaN_of_isFinite {datum : UnpackedFloat} (h : datum.isFinite = true) :
    datum.isNaN = false := by
  cases datum <;> first | rfl | cases h

/-- Rounding a magnitude gives a finite datum; only packing decides whether it is too large. -/
theorem isFinite_roundWithAccuracy (sign : Sign) (m : ℕ) (e : ℤ) (accuracy : Accuracy) :
    (roundWithAccuracy .binary32 sign m e accuracy).isFinite = true := by
  rw [roundWithAccuracy]
  simp only
  split <;> rfl

/-- The sum of finite data is finite before it is packed. -/
theorem isFinite_add {datum datum' : UnpackedFloat} (h : datum.isFinite = true)
    (h' : datum'.isFinite = true) : (UnpackedFloat.add .binary32 datum datum').isFinite = true := by
  cases datum with
  | notANumber => cases h
  | infinity sign => cases h
  | zero sign =>
      cases datum' with
      | notANumber => cases h'
      | infinity sign' => cases h'
      | zero sign' =>
          rw [UnpackedFloat.add]
          split <;> rfl
      | finite sign' m' e' hm' => rfl
  | finite sign m e hm =>
      cases datum' with
      | notANumber => cases h'
      | infinity sign' => cases h'
      | zero sign' => rfl
      | finite sign' m' e' hm' =>
          simp only [UnpackedFloat.add, UnpackedFloat.normalize]
          split
          · exact isFinite_roundWithAccuracy ..
          · rfl
          · exact isFinite_roundWithAccuracy ..

/-- A finite summand does not change an infinity. -/
theorem infinity_add {datum : UnpackedFloat} (sign : Sign) (h : datum.isFinite = true) :
    UnpackedFloat.add .binary32 (.infinity sign) datum = .infinity sign := by
  cases datum with
  | notANumber => cases h
  | infinity sign' => cases h
  | zero sign' => rfl
  | finite sign' m e hm => rfl

/-- No summand makes up for a first one that is not finite. -/
theorem not_isFinite_add_left {datum : UnpackedFloat} (datum' : UnpackedFloat)
    (h : datum.isFinite = false) :
    (UnpackedFloat.add .binary32 datum datum').isFinite = false := by
  cases datum with
  | notANumber => rfl
  | infinity sign =>
      cases datum' with
      | infinity sign' =>
          rw [UnpackedFloat.add]
          split <;> rfl
      | _ => rfl
  | zero sign => cases h
  | finite sign m e hm => cases h

/-- No summand makes up for a second one that is not finite. -/
theorem not_isFinite_add_right (datum : UnpackedFloat) {datum' : UnpackedFloat}
    (h : datum'.isFinite = false) :
    (UnpackedFloat.add .binary32 datum datum').isFinite = false := by
  cases datum' with
  | notANumber => cases datum <;> rfl
  | infinity sign' =>
      cases datum with
      | infinity sign =>
          rw [UnpackedFloat.add]
          split <;> rfl
      | _ => rfl
  | zero sign => cases h
  | finite sign m e hm => cases h

/-- The root of a datum that is not finite is not finite either. -/
theorem not_isFinite_sqrt {datum : UnpackedFloat} (h : datum.isFinite = false) :
    (UnpackedFloat.sqrt .binary32 datum).isFinite = false := by
  cases datum with
  | notANumber => rfl
  | infinity sign => cases sign <;> rfl
  | zero sign => cases h
  | finite sign m e hm => cases h

/-- The square of a datum that is not finite is not finite either. -/
theorem not_isFinite_sq {datum : UnpackedFloat} (h : datum.isFinite = false) :
    (UnpackedFloat.mul .binary32 datum datum).isFinite = false := by
  cases datum with
  | notANumber => rfl
  | infinity sign => rfl
  | zero sign => cases h
  | finite sign m e hm => cases h

/-- A quotient of numbers is a number unless both are infinite or the divisor is zero. -/
theorem isNaN_div {datum datum' : UnpackedFloat} (h : datum.isNaN = false)
    (h' : datum'.isNaN = false) (hzero : ∀ sign, datum' ≠ .zero sign)
    (hfinite : datum.isFinite = true ∨ datum'.isFinite = true) :
    (UnpackedFloat.div .binary32 datum datum').isNaN = false := by
  cases datum' with
  | notANumber => cases h'
  | zero sign' => exact absurd rfl (hzero sign')
  | infinity sign' =>
      cases datum with
      | notANumber => cases h
      | infinity sign => simp [UnpackedFloat.isFinite] at hfinite
      | zero sign => rfl
      | finite sign m e hm => rfl
  | finite sign' m' e' hm' =>
      cases datum with
      | notANumber => cases h
      | infinity sign => rfl
      | zero sign => rfl
      | finite sign m e hm => exact isNaN_of_isFinite (isFinite_roundWithAccuracy ..)

/-! ## Packed data -/

/-- What becomes of a datum when it is packed. -/
def settle (datum : UnpackedFloat) : UnpackedFloat :=
  UnpackedFloat.unpack .binary32 (UnpackedFloat.pack .binary32 datum)

/-- What is not a number is packed as such. -/
theorem settle_notANumber : settle .notANumber = .notANumber := unpack_packedNaN

theorem settle_infinity (sign : Sign) : settle (.infinity sign) = .infinity sign :=
  unpack_packedInfinity sign

theorem settle_zero (sign : Sign) : settle (.zero sign) = .zero sign := unpack_packedZero

/-- No finite datum becomes something that is not a number. -/
theorem isNaN_settle_finite (sign : Sign) (m : ℕ) (e : ℤ) (hm : 0 < m) :
    (settle (.finite sign m e hm)).isNaN = false := by
  have hpacked : ∀ exponent mantissa, exponent ≠ -1#8 →
      (UnpackedFloat.unpack .binary32 (packComponents .binary32 sign exponent mantissa)).isNaN =
        false := by
    intro exponent mantissa hne
    simp only [UnpackedFloat.unpack, unpackExponent_packComponents, unpackMantissa_packComponents]
    rw [if_neg hne]
    split
    · split <;> rfl
    · rfl
  rw [settle, UnpackedFloat.pack]
  simp only
  split
  · rw [unpack_packedInfinity]
    rfl
  rename_i hsmall
  split
  · refine hpacked _ _ ?_
    rw [ne_eq, ← BitVec.toNat_inj, BitVec.toNat_ofNat]
    norm_num at hsmall ⊢
    omega
  · exact hpacked _ _ (by decide)

/-- Packing neither makes nor mends what is not a number. -/
theorem isNaN_settle (datum : UnpackedFloat) : (settle datum).isNaN = datum.isNaN := by
  cases datum with
  | notANumber => rw [settle_notANumber]
  | infinity sign => rw [settle_infinity]
  | zero sign => rw [settle_zero]
  | finite sign m e hm => exact isNaN_settle_finite sign m e hm

/-- Packing makes nothing finite that was not. -/
theorem not_isFinite_settle {datum : UnpackedFloat} (h : datum.isFinite = false) :
    (settle datum).isFinite = false := by
  cases datum with
  | notANumber => rw [settle_notANumber, h]
  | infinity sign => rw [settle_infinity, h]
  | zero sign => cases h
  | finite sign m e hm => cases h

/-! ## What is not a number -/

section Numbers

variable {x y : Float32}

/-- Whether something is not a number can be read off its unpacked datum. -/
theorem isNaN_iff : x.isNaN = true ↔ x.toModel.unpack = .notANumber := UnpackedFloat.isNaN_iff

/-- A sum is that of the unpacked data, packed. -/
theorem unpack_add (x y : Float32) : (x + y).toModel.unpack =
    settle (UnpackedFloat.add .binary32 x.toModel.unpack y.toModel.unpack) :=
  rfl

/-- A product is that of the unpacked data, packed. -/
theorem unpack_mul (x y : Float32) : (x * y).toModel.unpack =
    settle (UnpackedFloat.mul .binary32 x.toModel.unpack y.toModel.unpack) :=
  rfl

/-- A quotient is that of the unpacked data, packed. -/
theorem unpack_div (x y : Float32) : (x / y).toModel.unpack =
    settle (UnpackedFloat.div .binary32 x.toModel.unpack y.toModel.unpack) :=
  rfl

/-- A root is that of the unpacked datum, packed. -/
theorem unpack_sqrt (x : Float32) :
    x.sqrt.toModel.unpack = settle (UnpackedFloat.sqrt .binary32 x.toModel.unpack) :=
  rfl

/-- A sum whose first summand is not a number is not one. -/
theorem isNaN_add_left (y : Float32) (h : x.isNaN = true) : (x + y).isNaN = true := by
  rw [isNaN_iff] at h ⊢
  rw [unpack_add, h, UnpackedFloat.add]
  exact settle_notANumber

/-- A sum whose second summand is not a number is not one. -/
theorem isNaN_add_right (x : Float32) (h : y.isNaN = true) : (x + y).isNaN = true := by
  rw [isNaN_iff] at h ⊢
  rw [unpack_add, h]
  cases x.toModel.unpack <;> exact settle_notANumber

/-- A quotient whose dividend is not a number is not one. -/
theorem isNaN_div_left (y : Float32) (h : x.isNaN = true) : (x / y).isNaN = true := by
  rw [isNaN_iff] at h ⊢
  rw [unpack_div, h, UnpackedFloat.div]
  exact settle_notANumber

/-- The sum of a number and a finite number is a number. -/
theorem isNaN_add_eq_false (hx : x.isNaN = false) (hy : y.isFinite = true) :
    (x + y).isNaN = false := by
  change (settle _).isNaN = false
  rw [isNaN_settle]
  cases hfinite : x.isFinite with
  | true => exact isNaN_of_isFinite (isFinite_add hfinite hy)
  | false =>
      obtain ⟨sign, hsign⟩ := eq_infinity_of_not_isFinite hx hfinite
      rw [hsign, infinity_add sign hy]
      rfl

/-- The summands of a finite sum are finite. -/
theorem isFinite_of_isFinite_add (h : (x + y).isFinite = true) :
    x.isFinite = true ∧ y.isFinite = true := by
  refine ⟨Bool.of_not_eq_false fun hx => ?_, Bool.of_not_eq_false fun hy => ?_⟩
  · have hfalse : (x + y).isFinite = false := not_isFinite_settle (not_isFinite_add_left _ hx)
    rw [h] at hfalse
    cases hfalse
  · have hfalse : (x + y).isFinite = false := not_isFinite_settle (not_isFinite_add_right _ hy)
    rw [h] at hfalse
    cases hfalse

/-- Only finite numbers have a finite root. -/
theorem isFinite_of_isFinite_sqrt (h : x.sqrt.isFinite = true) : x.isFinite = true := by
  refine Bool.of_not_eq_false fun hx => ?_
  have hfalse : x.sqrt.isFinite = false := not_isFinite_settle (not_isFinite_sqrt hx)
  rw [h] at hfalse
  cases hfalse

/-- Only finite numbers have a finite square. -/
theorem isFinite_of_isFinite_sq (h : (x * x).isFinite = true) : x.isFinite = true := by
  refine Bool.of_not_eq_false fun hx => ?_
  have hfalse : (x * x).isFinite = false := not_isFinite_settle (not_isFinite_sq hx)
  rw [h] at hfalse
  cases hfalse

/-- A quotient of numbers is a number unless both are infinite or the divisor is zero. -/
theorem isNaN_div_eq_false (hx : x.isNaN = false) (hy : y.isNaN = false)
    (hzero : ∀ sign, y.toModel.unpack ≠ .zero sign)
    (hfinite : x.isFinite = true ∨ y.isFinite = true) : (x / y).isNaN = false := by
  change (settle _).isNaN = false
  rw [isNaN_settle]
  exact isNaN_div hx hy hzero hfinite

/-! ## Order -/

/-- Comparing in the other direction turns the order around. -/
theorem compare_swap (datum datum' : UnpackedFloat) :
    UnpackedFloat.compare datum' datum = (UnpackedFloat.compare datum datum').map .swap := by
  rcases datum with s | _ | s | ⟨s, m, e, hm⟩ <;>
    rcases datum' with s' | _ | s' | ⟨s', m', e', hm'⟩
  case finite.finite =>
    cases s <;> cases s' <;>
      simp [UnpackedFloat.compare, Ordering.swap_then, Int.compare_swap, Nat.compare_swap]
  all_goals first | rfl | (cases s <;> rfl) | (cases s' <;> rfl) | (cases s <;> cases s' <;> rfl)

/-- What is not a number cannot be compared. -/
theorem isNone_compare (datum datum' : UnpackedFloat) :
    (UnpackedFloat.compare datum datum').isNone = (datum.isNaN || datum'.isNaN) := by
  rcases datum with s | _ | s | ⟨s, m, e, hm⟩ <;>
    rcases datum' with s' | _ | s' | ⟨s', m', e', hm'⟩
  all_goals first | rfl | (cases s <;> rfl) | (cases s' <;> rfl) | (cases s <;> cases s' <;> rfl)

/-- One number is less than another exactly if the comparison of their data says so. -/
theorem lt_iff : x < y ↔
    UnpackedFloat.compare x.toModel.unpack y.toModel.unpack = some .lt := by
  change decide (UnpackedFloat.lt _ _ = true) = true ↔ _
  rw [decide_eq_true_iff, UnpackedFloat.lt, beq_iff_eq]

/-- One number is at most another exactly if their data compare as less or equal. -/
theorem le_iff : x ≤ y ↔
    ∃ order, UnpackedFloat.compare x.toModel.unpack y.toModel.unpack = some order ∧
      order.isLE = true := by
  change decide (UnpackedFloat.le _ _ = true) = true ↔ _
  rw [decide_eq_true_iff, UnpackedFloat.le, Option.any_eq_true]

/-- What is not a number is neither less nor greater than anything. -/
theorem not_lt_of_isNaN (h : x.isNaN = true ∨ y.isNaN = true) : ¬ x < y := by
  have hnone := isNone_compare x.toModel.unpack y.toModel.unpack
  rw [show (x.toModel.unpack.isNaN || y.toModel.unpack.isNaN) = true from
    (Bool.or_eq_true ..).mpr h, Option.isNone_iff_eq_none] at hnone
  rw [lt_iff, hnone]
  exact nofun

/-- A number that is not below another one is at least as great. -/
theorem le_of_not_lt (hx : x.isNaN = false) (hy : y.isNaN = false) (h : ¬ x < y) : y ≤ x := by
  have hsome := isNone_compare x.toModel.unpack y.toModel.unpack
  rw [show x.toModel.unpack.isNaN = false from hx,
    show y.toModel.unpack.isNaN = false from hy] at hsome
  rw [lt_iff] at h
  rw [le_iff, compare_swap]
  cases horder : UnpackedFloat.compare x.toModel.unpack y.toModel.unpack with
  | none =>
      rw [horder] at hsome
      cases hsome
  | some order =>
      refine ⟨order.swap, rfl, ?_⟩
      cases order with
      | lt => exact absurd horder h
      | eq => rfl
      | gt => rfl

/-- A number that is at least as great as another one is not below it. -/
theorem not_lt_of_le (h : x ≤ y) : ¬ y < x := by
  obtain ⟨order, horder, hle⟩ := le_iff.1 h
  rw [lt_iff, compare_swap, horder]
  cases order with
  | lt => exact nofun
  | eq => exact nofun
  | gt => cases hle

/-- What can be compared is a number on both sides. -/
theorem isNaN_of_le (h : x ≤ y) : x.isNaN = false ∧ y.isNaN = false := by
  obtain ⟨order, horder, _⟩ := le_iff.1 h
  have hnone := isNone_compare x.toModel.unpack y.toModel.unpack
  rw [horder, Option.isNone_some, eq_comm, Bool.or_eq_false_iff] at hnone
  exact hnone

end Numbers

end Binary32
end CodeSurvey
