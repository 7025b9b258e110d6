import Mathlib

/-!
# Rounding to single precision

An operation on single-precision numbers computes its exact result far enough to tell on which side
of the middle between two neighbours it lies, and then takes the nearest number with 24 binary
places, the even one of two.  This file relates the bits that the rounding looks at to real numbers.

## Main results

* `Binary32.Rounded`: a real number and its rounding to a multiple of a power of two.
* `Binary32.Rounded.le`, `Binary32.Rounded.ge`: rounding does not cross a number of the format.
* `Binary32.rounded_roundWithAccuracy`, `Binary32.rounded_round`: the rounding of mantissas.
-/

namespace CodeSurvey
namespace Binary32

open Float.Model UnpackedFloat

/-! ## Nearest natural numbers -/

/-- Whether a natural number is nearest to a real number, and even if two are. -/
structure Nearest (x : ℝ) (n : ℕ) : Prop where
  le : x ≤ n + 1 / 2
  ge : n ≤ x + 1 / 2
  even_of_eq : |x - n| = 1 / 2 → Even n

namespace Nearest

variable {x : ℝ} {n k : ℕ}

/-- Strictly between the middles there is no tie to break. -/
theorem of_lt (hle : x < n + 1 / 2) (hge : n < x + 1 / 2) : Nearest x n where
  le := hle.le
  ge := hge.le
  even_of_eq heq := by
    exfalso
    rcases abs_cases (x - n) with ⟨habs, _⟩ | ⟨habs, _⟩ <;> linarith

theorem natCast (n : ℕ) : Nearest n n := of_lt (by linarith) (by linarith)

/-- Below the middle above a number rounding does not exceed it. -/
theorem le_of_lt (h : Nearest x n) (hx : x < k + 1 / 2) : n ≤ k := by
  have hlt : (n : ℝ) < k + 1 := by linarith [h.ge]
  exact Nat.lt_succ_iff.1 (by exact_mod_cast hlt)

/-- Rounding does not cross a natural number from below. -/
theorem le_of_le (h : Nearest x n) (hx : x ≤ k) : n ≤ k := h.le_of_lt (by linarith)

/-- Above the middle below a number rounding does not fall short of it. -/
theorem ge_of_lt (h : Nearest x n) (hx : k < x + 1 / 2) : k ≤ n := by
  have hlt : (k : ℝ) < n + 1 := by linarith [h.le]
  exact Nat.lt_succ_iff.1 (by exact_mod_cast hlt)

/-- Rounding does not cross a natural number from above. -/
theorem ge_of_le (h : Nearest x n) (hx : k ≤ x) : k ≤ n := h.ge_of_lt (by linarith)

/-- Half way above an even number rounding still comes to it. -/
theorem le_of_even (h : Nearest x n) (hx : x ≤ k + 1 / 2) (hk : Even k) : n ≤ k := by
  rcases hx.lt_or_eq with hlt | rfl
  · exact h.le_of_lt hlt
  · by_contra hgt
    have hsucc : n = k + 1 := by
      have hle : (n : ℝ) ≤ ((k + 1 : ℕ) : ℝ) := by
        push_cast
        linarith [h.ge]
      have := Nat.cast_le.1 hle
      omega
    have heven : Even n := by
      refine h.even_of_eq ?_
      rw [hsucc, Nat.cast_succ, abs_eq (by norm_num)]
      right
      ring
    rw [hsucc, Nat.even_add_one] at heven
    exact heven hk

end Nearest

/-! ## Mantissas -/

/-- Twice the number that a mantissa and its round bit stand for. -/
def halves (em : ExtendedMantissa) : ℕ := 2 * em.mantissa + em.roundBit.toNat

/-- Whether a mantissa stands for a real number: its round bit counts one half, and its sticky bit
says that something less than another half is missing. -/
def Represents (em : ExtendedMantissa) (x : ℝ) : Prop :=
  if em.stickyBit then (halves em : ℝ) < 2 * x ∧ 2 * x < halves em + 1 else 2 * x = halves em

namespace Represents

variable {em : ExtendedMantissa} {x : ℝ}

/-- An exact mantissa stands for itself. -/
theorem exact (m : ℕ) : Represents (.ofMantissaAndAccuracy m .exact) m := by
  simp [Represents, halves, ExtendedMantissa.ofMantissaAndAccuracy]

/-- A mantissa is at most the number that it stands for. -/
theorem mantissa_le (h : Represents em x) : (em.mantissa : ℝ) ≤ x := by
  have hhalves : (2 * em.mantissa : ℝ) ≤ halves em := by
    simp [halves]
  rw [Represents] at h
  split at h <;> linarith

/-- A mantissa misses less than one of the number that it stands for. -/
theorem lt_mantissa_add_one (h : Represents em x) : x < em.mantissa + 1 := by
  have hhalves : (halves em : ℝ) ≤ 2 * em.mantissa + 1 := by
    cases hround : em.roundBit <;> simp [halves, hround]
  rw [Represents] at h
  split at h <;> linarith

/-- Shifting a mantissa halves the number. -/
theorem shiftRightOne (h : Represents em x) : Represents em.shiftRightOne (x / 2) := by
  have hhalves : halves em.shiftRightOne = em.mantissa := by
    rcases Nat.mod_two_eq_zero_or_one em.mantissa with hmod | hmod <;>
      simp [halves, ExtendedMantissa.shiftRightOne, hmod] <;> omega
  have hle := h.mantissa_le
  have hlt := h.lt_mantissa_add_one
  rw [Represents] at h ⊢
  rw [hhalves]
  obtain ⟨m, round, sticky⟩ := em
  cases round <;> cases sticky <;>
    simp only [ExtendedMantissa.shiftRightOne, halves, Bool.or_false, Bool.or_true, if_true,
      Bool.false_eq_true, if_false, Bool.toNat_true, Bool.toNat_false] at h ⊢ <;>
    push_cast at h <;> first | constructor <;> linarith | linarith

/-- Shifting a mantissa by several places divides the number by a power of two. -/
theorem shiftRight (h : Represents em x) (n : ℕ) : Represents (em >>> n) (x / 2 ^ n) := by
  change Represents (n.repeat ExtendedMantissa.shiftRightOne em) _
  induction n with
  | zero => simpa [Nat.repeat] using h
  | succ n ih =>
      rw [Nat.repeat, pow_succ, ← div_div]
      exact ih.shiftRightOne

/-- The rounded mantissa is the nearest number. -/
theorem nearest (h : Represents em x) : Nearest x em.roundedMantissa := by
  obtain ⟨m, round, sticky⟩ := em
  cases round <;> cases sticky <;>
    simp only [Represents, halves, ExtendedMantissa.roundedMantissa, ExtendedMantissa.accuracy,
      Accuracy.roundToNearestEven, Bool.false_eq_true, if_true, if_false, Bool.toNat_true,
      Bool.toNat_false] at h ⊢ <;>
    push_cast at h
  · exact .of_lt (by linarith) (by linarith)
  · exact .of_lt (by linarith) (by linarith)
  · rcases Nat.mod_two_eq_zero_or_one m with hmod | hmod <;> rw [hmod]
    · exact ⟨by push_cast; linarith, by push_cast; linarith, fun _ => Nat.even_iff.2 hmod⟩
    · refine ⟨by push_cast; linarith, by push_cast; linarith, fun _ => ?_⟩
      rw [Nat.even_add_one, Nat.not_even_iff]
      exact hmod
  · exact .of_lt (by push_cast; linarith) (by push_cast; linarith)

end Represents

/-! ## Rounded numbers -/

/-- Whether a number that is not negative is rounded to a multiple of a power of two: the exponent
leaves 24 places to the number, but is not below that of the format. -/
structure Rounded (x : ℝ) (exponent : ℤ) (n : ℕ) : Prop where
  le_exponent : -149 ≤ exponent
  lt_two_zpow : x < 2 ^ (exponent + 24)
  two_zpow_le : exponent = -149 ∨ 2 ^ (exponent + 23) ≤ x
  nearest : Nearest (x / 2 ^ exponent) n

theorem two_zpow_pos (e : ℤ) : (0 : ℝ) < 2 ^ e := by positivity

theorem two_zpow_add (e f : ℤ) : (2 : ℝ) ^ (e + f) = 2 ^ e * 2 ^ f := zpow_add₀ two_ne_zero e f

theorem two_zpow_le_two_zpow {e f : ℤ} (h : e ≤ f) : (2 : ℝ) ^ e ≤ 2 ^ f :=
  zpow_le_zpow_right₀ one_le_two h

/-- A number of the format is a multiple of every smaller power of two. -/
theorem exists_eq_mul (b : ℕ) {e f : ℤ} (h : e ≤ f) : ∃ k : ℕ, (b : ℝ) * 2 ^ f = k * 2 ^ e := by
  obtain ⟨gap, rfl⟩ := Int.le.dest h
  refine ⟨b * 2 ^ gap, ?_⟩
  push_cast
  rw [two_zpow_add, zpow_natCast]
  ring

namespace Rounded

variable {x : ℝ} {e f : ℤ} {n b : ℕ}

theorem zero : Rounded 0 (-149) 0 where
  le_exponent := le_rfl
  lt_two_zpow := two_zpow_pos _
  two_zpow_le := .inl rfl
  nearest := by simpa using Nearest.natCast 0

/-- A number below the middle above a multiple is rounded to that multiple at most. -/
theorem le_of_lt (h : Rounded x e n) (hx : x < (b + 1 / 2) * 2 ^ e) : n ≤ b := by
  refine h.nearest.le_of_lt ?_
  rwa [div_lt_iff₀ (two_zpow_pos e)]

/-- A number above the middle below a multiple is rounded to that multiple at least. -/
theorem ge_of_lt (h : Rounded x e n) (hx : (b - 1 / 2) * 2 ^ e < x) : b ≤ n := by
  refine h.nearest.ge_of_lt ?_
  have := (lt_div_iff₀ (two_zpow_pos e)).2 hx
  linarith

/-- A rounded mantissa has 24 places, unless it has just become the next power of two. -/
theorem le_two_pow (h : Rounded x e n) : n ≤ 2 ^ 24 := by
  refine h.nearest.le_of_le ?_
  rw [div_le_iff₀ (two_zpow_pos e)]
  push_cast
  have := h.lt_two_zpow
  rw [two_zpow_add] at this
  norm_num at this ⊢
  linarith

/-- A number that fills all 24 places is rounded to a mantissa that fills them. -/
theorem two_pow_le (h : Rounded x e n) (hx : 2 ^ (e + 23) ≤ x) : 2 ^ 23 ≤ n := by
  refine h.nearest.ge_of_le ?_
  rw [le_div_iff₀ (two_zpow_pos e)]
  push_cast
  rw [two_zpow_add] at hx
  norm_num at hx ⊢
  linarith

/-- The exponent of the rounding is that of the binade. -/
theorem exponent_eq (h : Rounded x e n) (hf : -149 ≤ f) (hle : 2 ^ (f + 23) ≤ x)
    (hlt : x < 2 ^ (f + 24)) : e = f := by
  have hlow : f + 23 < e + 24 := (zpow_lt_zpow_iff_right₀ one_lt_two).1 (hle.trans_lt h.lt_two_zpow)
  rcases h.two_zpow_le with rfl | hge
  · omega
  · have hhigh : e + 23 < f + 24 := (zpow_lt_zpow_iff_right₀ one_lt_two).1 (hge.trans_lt hlt)
    omega

/-- Numbers below the normal ones have the least exponent. -/
theorem exponent_eq_min (h : Rounded x e n) (hlt : x < 2 ^ (-126 : ℤ)) : e = -149 := by
  refine h.two_zpow_le.resolve_right fun hge => ?_
  have hhigh : e + 23 < -126 := (zpow_lt_zpow_iff_right₀ one_lt_two).1 (hge.trans_lt hlt)
  have := h.le_exponent
  omega

/-- Rounding does not lead above a number of the format. -/
theorem le (h : Rounded x e n) (hb : b ≤ 2 ^ 24) (hf : -149 ≤ f) (hx : x ≤ b * 2 ^ f) :
    n * 2 ^ e ≤ (b : ℝ) * 2 ^ f := by
  rcases le_or_gt e f with hle | hlt
  · obtain ⟨k, hk⟩ := exists_eq_mul b hle
    rw [hk] at hx ⊢
    have hn : n ≤ k := h.nearest.le_of_le ((div_le_iff₀ (two_zpow_pos e)).2 hx)
    gcongr
  · -- The number has 24 places to the left of the exponent, so there is no room below `b * 2 ^ f`.
    have hnormal : 2 ^ (e + 23) ≤ x := h.two_zpow_le.resolve_left (by omega)
    have hb' : (b : ℝ) * 2 ^ f ≤ 2 ^ (e + 23) := by
      calc (b : ℝ) * 2 ^ f ≤ 2 ^ (24 : ℤ) * 2 ^ f := by
            gcongr
            exact_mod_cast hb
        _ = 2 ^ (24 + f) := (two_zpow_add _ _).symm
        _ ≤ 2 ^ (e + 23) := two_zpow_le_two_zpow (by omega)
    have hn : n ≤ 2 ^ 23 := by
      refine h.nearest.le_of_le ((div_le_iff₀ (two_zpow_pos e)).2 ?_)
      push_cast
      rw [two_zpow_add] at hb'
      norm_num at hb' ⊢
      linarith
    calc (n : ℝ) * 2 ^ e ≤ 2 ^ (23 : ℤ) * 2 ^ e := by
          gcongr
          exact_mod_cast hn
      _ = 2 ^ (e + 23) := by rw [two_zpow_add, mul_comm]
      _ ≤ x := hnormal
      _ ≤ b * 2 ^ f := hx

/-- Rounding does not lead below a number of the format. -/
theorem ge (h : Rounded x e n) (hb : b ≤ 2 ^ 24) (hf : -149 ≤ f) (hx : b * 2 ^ f ≤ x) :
    (b : ℝ) * 2 ^ f ≤ n * 2 ^ e := by
  rcases le_or_gt e f with hle | hlt
  · obtain ⟨k, hk⟩ := exists_eq_mul b hle
    rw [hk] at hx ⊢
    have hn : k ≤ n := h.nearest.ge_of_le ((le_div_iff₀ (two_zpow_pos e)).2 hx)
    gcongr
  · have hn := h.two_pow_le (h.two_zpow_le.resolve_left (by omega))
    calc (b : ℝ) * 2 ^ f ≤ 2 ^ (24 : ℤ) * 2 ^ f := by
          gcongr
          exact_mod_cast hb
      _ = 2 ^ (24 + f) := (two_zpow_add _ _).symm
      _ ≤ 2 ^ (23 + e) := two_zpow_le_two_zpow (by omega)
      _ = 2 ^ (23 : ℤ) * 2 ^ e := two_zpow_add _ _
      _ ≤ n * 2 ^ e := by
          gcongr
          exact_mod_cast hn

end Rounded

/-! ## Data -/

/-- Whether a datum is finite, in the form in which it is packed, and has a sign and a magnitude. -/
inductive Holds (sign : Sign) : UnpackedFloat → ℝ → Prop where
  | zero : Holds sign (.zero sign) 0
  | finite {m : ℕ} {e : ℤ} {hm : 0 < m} (hlt : m < 2 ^ 24) (hexponent : -149 ≤ e)
      (hnormal : 2 ^ 23 ≤ m ∨ e = -149) : Holds sign (.finite sign m e hm) (m * 2 ^ e)

namespace Holds

variable {sign : Sign} {datum : UnpackedFloat} {x : ℝ}

/-- The magnitude of a datum is not negative. -/
theorem nonneg (h : Holds sign datum x) : 0 ≤ x := by
  cases h with
  | zero => exact le_rfl
  | finite => positivity

/-- The least magnitude that is not zero. -/
theorem two_zpow_le (h : Holds sign datum x) (hne : x ≠ 0) : 2 ^ (-149 : ℤ) ≤ x := by
  cases h with
  | zero => exact absurd rfl hne
  | @finite m e hm hlt hexponent hnormal =>
      calc (2 : ℝ) ^ (-149 : ℤ) ≤ 2 ^ e := two_zpow_le_two_zpow hexponent
        _ = 1 * 2 ^ e := (one_mul _).symm
        _ ≤ m * 2 ^ e := by
          gcongr
          exact_mod_cast hm

/-- A datum is rounded to itself. -/
theorem rounded (h : Holds sign datum x) : ∃ e n, Rounded x e n ∧ n * 2 ^ e = x := by
  cases h with
  | zero => exact ⟨-149, 0, .zero, by simp⟩
  | @finite m e hm hlt hexponent hnormal =>
      refine ⟨e, m, ⟨hexponent, ?_, ?_, ?_⟩, rfl⟩
      · rw [add_comm, two_zpow_add]
        gcongr
        exact_mod_cast hlt
      · refine hnormal.symm.imp_right fun hle => ?_
        rw [add_comm, two_zpow_add]
        gcongr
        exact_mod_cast hle
      · rw [mul_div_cancel_right₀ _ (two_zpow_pos e).ne']
        exact .natCast m

end Holds

/-! ## The rounding of mantissas -/

/-- The exponent of the result leaves 24 places to the mantissa, but it is never below the least
one. -/
theorem targetExponent_eq (m : ℕ) (e : ℤ) :
    Format.binary32.targetExponent (totalExponent m e) = max (m.log2 + e - 23) (-149) := by
  simp only [Format.targetExponent, totalExponent, Format.mantissaBits, Format.minExponent]
  norm_num
  omega

/-- A mantissa that fits is left as it is. -/
theorem shiftToTargetExponent_of_lt {m : ℕ} {e : ℤ} (hm : m < 2 ^ 24) (he : -149 ≤ e) :
    shiftToTargetExponent .binary32 m e .exact = (⟨m, false, false⟩, e) := by
  have hlog : m.log2 < 24 := by
    rcases Nat.eq_zero_or_pos m with rfl | hpos
    · decide
    · exact (Nat.log2_lt hpos.ne').2 hm
  have hshift : (Format.binary32.targetExponent (totalExponent m e) - e).toNat = 0 := by
    rw [targetExponent_eq]
    omega
  simp only [shiftToTargetExponent, shiftToExponent, hshift]
  simp [HShiftRight.hShiftRight, Nat.repeat, ExtendedMantissa.ofMantissaAndAccuracy]

/-- A mantissa that has been rounded up to one place too many loses a zero. -/
theorem shiftToTargetExponent_two_pow {e : ℤ} (he : -149 ≤ e) :
    shiftToTargetExponent .binary32 (2 ^ 24) e .exact = (⟨2 ^ 23, false, false⟩, e + 1) := by
  have htarget : Format.binary32.targetExponent (totalExponent (2 ^ 24) e) = e + 1 := by
    rw [targetExponent_eq, Nat.log2_two_pow]
    omega
  rw [shiftToTargetExponent, htarget, shiftToExponent, show (e + 1 - e).toNat = 1 by omega]
  rfl

/-- A number between a mantissa and the next one is in the binade of the mantissa. -/
theorem mem_binade {m : ℕ} {x : ℝ} (hm : 0 < m) (hle : (m : ℝ) ≤ x) (hlt : x < m + 1) :
    2 ^ (m.log2 : ℤ) ≤ x ∧ x < 2 ^ ((m.log2 : ℤ) + 1) := by
  constructor
  · refine le_trans ?_ hle
    rw [zpow_natCast]
    exact_mod_cast Nat.log2_self_le hm.ne'
  · have hsucc : m + 1 ≤ 2 ^ (m.log2 + 1) := Nat.lt_log2_self
    refine hlt.trans_le ?_
    rw [← Nat.cast_succ (R := ℤ), zpow_natCast]
    exact_mod_cast hsucc

/-- The number that is rounded keeps 24 places, or comes to the exponent of the format. -/
theorem rounded_shiftToTargetExponent {m : ℕ} {e : ℤ} {accuracy : Accuracy} {x : ℝ} (hm : 0 < m)
    (hx : Represents (.ofMantissaAndAccuracy m accuracy) x)
    (he : e ≤ Format.binary32.targetExponent (totalExponent m e)) :
    Rounded (x * 2 ^ e) (shiftToTargetExponent .binary32 m e accuracy).2
      (shiftToTargetExponent .binary32 m e accuracy).1.roundedMantissa := by
  have hmantissa : (ExtendedMantissa.ofMantissaAndAccuracy m accuracy).mantissa = m := by
    cases accuracy with
    | exact => rfl
    | inexact order => cases order <;> rfl
  obtain ⟨hlog, hlog_lt⟩ :=
    mem_binade hm (hmantissa ▸ hx.mantissa_le) (hmantissa ▸ hx.lt_mantissa_add_one)
  rw [targetExponent_eq] at he
  rw [shiftToTargetExponent, targetExponent_eq, shiftToExponent]
  obtain ⟨t, ht⟩ : ∃ t, t = max ((m.log2 : ℤ) + e - 23) (-149) := ⟨_, rfl⟩
  obtain ⟨shift, hshift⟩ : ∃ shift : ℕ, t = e + shift := ⟨(t - e).toNat, by omega⟩
  rw [← ht, show t - e = shift by omega, Int.toNat_natCast, ← hshift]
  refine ⟨by omega, ?_, ?_, ?_⟩
  · calc x * 2 ^ e < 2 ^ ((m.log2 : ℤ) + 1) * 2 ^ e := by gcongr
      _ = 2 ^ ((m.log2 : ℤ) + 1 + e) := (two_zpow_add _ _).symm
      _ ≤ 2 ^ (t + 24) := two_zpow_le_two_zpow (by omega)
  · rcases max_choice ((m.log2 : ℤ) + e - 23) (-149) with hmax | hmax
    · refine .inr ?_
      calc (2 : ℝ) ^ (t + 23) = 2 ^ (m.log2 : ℤ) * 2 ^ e := by
            rw [← two_zpow_add]
            congr 1
            omega
        _ ≤ x * 2 ^ e := by gcongr
    · exact .inl (ht.trans hmax)
  · have hshifted := (hx.shiftRight shift).nearest
    rwa [hshift, two_zpow_add, zpow_natCast, mul_comm (2 ^ e : ℝ), mul_div_mul_right _ _
      (two_zpow_pos e).ne']

/-- Rounding a mantissa that stands for a number rounds the number. -/
theorem rounded_roundWithAccuracy (sign : Sign) {m : ℕ} {e : ℤ} {accuracy : Accuracy} {x : ℝ}
    (hm : 0 < m) (hx : Represents (.ofMantissaAndAccuracy m accuracy) x)
    (he : e ≤ Format.binary32.targetExponent (totalExponent m e)) :
    ∃ t n, Rounded (x * 2 ^ e) t n ∧
      Holds sign (roundWithAccuracy .binary32 sign m e accuracy) (n * 2 ^ t) := by
  have hrounded := rounded_shiftToTargetExponent hm hx he
  refine ⟨_, _, hrounded, ?_⟩
  rw [roundWithAccuracy]
  generalize shiftToTargetExponent .binary32 m e accuracy = shifted at hrounded ⊢
  obtain ⟨em, t⟩ := shifted
  simp only at hrounded ⊢
  generalize em.roundedMantissa = n at hrounded ⊢
  rcases hrounded.le_two_pow.lt_or_eq with hlt | rfl
  · rw [shiftToTargetExponent_of_lt hlt hrounded.le_exponent]
    rcases Nat.eq_zero_or_pos n with rfl | hpos
    · simpa using Holds.zero
    · simp only [hpos.ne', dite_false]
      refine .finite hlt hrounded.le_exponent ?_
      exact (hrounded.two_zpow_le.imp_right hrounded.two_pow_le).symm
  · rw [shiftToTargetExponent_two_pow hrounded.le_exponent]
    have hvalue : ((2 ^ 24 : ℕ) : ℝ) * 2 ^ t = ((2 ^ 23 : ℕ) : ℝ) * 2 ^ (t + 1) := by
      rw [two_zpow_add]
      norm_num
      ring
    rw [hvalue]
    have hexponent := hrounded.le_exponent
    exact .finite (by norm_num) (by omega) (.inl le_rfl)

/-- Rounding an exact mantissa of any exponent rounds the number. -/
theorem rounded_round (sign : Sign) {m : ℕ} (e : ℤ) (hm : 0 < m) :
    ∃ t n, Rounded (m * 2 ^ e) t n ∧ Holds sign (.round .binary32 sign m e) (n * 2 ^ t) := by
  rw [UnpackedFloat.round, targetExponent_eq]
  obtain ⟨shift, hshift⟩ : ∃ shift : ℕ, (e - max ((m.log2 : ℤ) + e - 23) (-149)).toNat = shift :=
    ⟨_, rfl⟩
  simp only [decreaseExponent, hshift]
  have hlog : (m <<< shift).log2 = m.log2 + shift := by
    rw [Nat.log2_eq_iff (by simp [Nat.shiftLeft_eq, hm.ne']), Nat.shiftLeft_eq, add_right_comm,
      pow_add, pow_add _ _ shift]
    exact ⟨Nat.mul_le_mul_right _ (Nat.log2_self_le hm.ne'),
      Nat.mul_lt_mul_of_pos_right Nat.lt_log2_self (by positivity)⟩
  have hvalue : (m : ℝ) * 2 ^ e = ((m <<< shift : ℕ) : ℝ) * 2 ^ (e - shift) := by
    rw [Nat.shiftLeft_eq, Nat.cast_mul, Nat.cast_pow, Nat.cast_two, mul_assoc, ← zpow_natCast,
      ← two_zpow_add]
    congr 2
    omega
  rw [hvalue]
  refine rounded_roundWithAccuracy sign ?_ (.exact _) ?_
  · rw [Nat.shiftLeft_eq]
    positivity
  · rw [targetExponent_eq, hlog]
    omega

/-! ## The range of the format -/

/-- The greatest finite number of the format. -/
noncomputable def greatest : ℝ := (2 ^ 24 - 1 : ℕ) * 2 ^ (104 : ℤ)

/-- The greatest number whose square is finite. -/
noncomputable def widest : ℝ := (2 ^ 24 - 1 : ℕ) * 2 ^ (40 : ℤ)

/-- The least root of a number that is not zero. -/
noncomputable def narrowest : ℝ := (11863283 : ℕ) * 2 ^ (-98 : ℤ)

theorem greatest_lt : greatest < 2 ^ 128 := by
  norm_num [greatest]

/-- The widest number has a square in the range of the format. -/
theorem widest_mul_widest : widest * widest ≤ greatest := by
  norm_num [widest, greatest]

end Binary32
end CodeSurvey
