import CodeSurvey.Proofs.Binary32.Rounding

/-!
# Operations on finite data

The data behind single-precision numbers are signed mantissas with exponents.  A datum survives
being packed into bits exactly if it is in the range of the format; otherwise it becomes infinite.
Products, sums and square roots of finite data are the rounded exact results.

## Main results

* `Binary32.Holds.unpack_pack`, `Binary32.Holds.unpack_pack_of_le`: what becomes of packed data.
* `Binary32.Holds.mul`, `Binary32.Amounts.sq`: products and squares.
* `Binary32.Amounts.add`, `Binary32.Amounts.sqrt`: sums and roots of numbers that are not negative.
-/

namespace CodeSurvey
namespace Binary32

open Float.Model UnpackedFloat

/-! ## Packing -/

/-- The hidden place stands before the others. -/
theorem toNat_one_append (m : BitVec 23) : (1#1 ++ m).toNat = 2 ^ 23 + m.toNat := by
  rw [BitVec.toNat_append, ← Nat.shiftLeft_add_eq_or_of_lt m.isLt]
  rfl

/-- An infinity is unpacked with its sign. -/
theorem unpack_packedInfinity (sign : Sign) :
    UnpackedFloat.unpack .binary32 (packedInfinity .binary32 sign) = .infinity sign := by
  simp only [UnpackedFloat.unpack, packedInfinity, unpackExponent_packComponents,
    unpackMantissa_packComponents, unpackSign_packComponents]
  simp

/-- The bits of a normal number. -/
theorem unpack_normal (sign : Sign) {m : ℕ} {e : ℤ} (hm : 0 < m) (hge : 2 ^ 23 ≤ m)
    (hlt : m < 2 ^ 24) {biased : ℕ} (hbiased : e + 150 = biased) (hpos : 0 < biased)
    (hmax : biased < 255) :
    UnpackedFloat.unpack .binary32
      (packComponents .binary32 sign (BitVec.ofNat 8 biased) (BitVec.ofNat 23 m)) =
        .finite sign m e hm := by
  have htoNat : (BitVec.ofNat 8 biased).toNat = biased := by
    rw [BitVec.toNat_ofNat]
    omega
  have hne : BitVec.ofNat 8 biased ≠ -1#8 := by
    rw [ne_eq, ← BitVec.toNat_inj, htoNat]
    exact hmax.ne
  have hne' : BitVec.ofNat 8 biased ≠ 0#8 := by
    rw [ne_eq, ← BitVec.toNat_inj, htoNat]
    exact hpos.ne'
  have hmantissa : (1#1 ++ BitVec.ofNat 23 m).toNat = m := by
    rw [toNat_one_append, BitVec.toNat_ofNat]
    omega
  simp only [UnpackedFloat.unpack, unpackExponent_packComponents, unpackMantissa_packComponents,
    unpackSign_packComponents, hne, hne', if_false, Sign.ofBitVec_toBitVec, finite.injEq,
    true_and]
  refine ⟨hmantissa, ?_⟩
  rw [htoNat, show ((Format.binary32.exponentBias : ℕ) : ℤ) = 127 from rfl]
  omega

/-- The bits of a subnormal number. -/
theorem unpack_subnormal (sign : Sign) {m : ℕ} (hm : 0 < m) (hlt : m < 2 ^ 23) :
    UnpackedFloat.unpack .binary32 (packComponents .binary32 sign 0#8 (BitVec.ofNat 23 m)) =
      .finite sign m (-149) hm := by
  have htoNat : (BitVec.ofNat 23 m).toNat = m := by
    rw [BitVec.toNat_ofNat, Nat.mod_eq_of_lt hlt]
  have hne : BitVec.ofNat 23 m ≠ 0#23 := by
    rw [ne_eq, ← BitVec.toNat_inj, htoNat]
    exact hm.ne'
  simp only [UnpackedFloat.unpack, unpackExponent_packComponents, unpackMantissa_packComponents,
    unpackSign_packComponents, hne, dite_false, Sign.ofBitVec_toBitVec]
  rw [if_neg (by decide), if_pos trivial]
  simp only [finite.injEq, htoNat, true_and]
  rfl

namespace Holds

variable {sign : Sign} {datum : UnpackedFloat} {x : ℝ}

/-- The exponents of the numbers in the range of the format. -/
theorem exponent_le_iff {m : ℕ} {e : ℤ} (hm : 0 < m) (hlt : m < 2 ^ 24)
    (hnormal : 2 ^ 23 ≤ m ∨ e = -149) : (m : ℝ) * 2 ^ e < 2 ^ 128 ↔ e ≤ 104 := by
  constructor
  · intro hx
    by_contra hgt
    have hge : 2 ^ 23 ≤ m := hnormal.resolve_right (by omega)
    have : (2 : ℝ) ^ 128 ≤ m * 2 ^ e := by
      calc (2 : ℝ) ^ 128 = 2 ^ (23 : ℤ) * 2 ^ (105 : ℤ) := by norm_num
        _ ≤ m * 2 ^ e := by
          gcongr
          · exact_mod_cast hge
          · norm_num
          · omega
    linarith
  · intro he
    calc (m : ℝ) * 2 ^ e < 2 ^ (24 : ℤ) * 2 ^ e := by
          gcongr
          exact_mod_cast hlt
      _ ≤ 2 ^ (24 : ℤ) * 2 ^ (104 : ℤ) := by
          gcongr
          norm_num
      _ = 2 ^ 128 := by norm_num

/-- A datum in the range of the format survives being packed. -/
theorem unpack_pack (h : Holds sign datum x) (hx : x < 2 ^ 128) :
    UnpackedFloat.unpack .binary32 (UnpackedFloat.pack .binary32 datum) = datum := by
  cases h with
  | zero => exact unpack_packedZero
  | @finite m e hm hlt hexponent hnormal =>
      have he := (exponent_le_iff hm hlt hnormal).1 hx
      rw [UnpackedFloat.pack, show ((Format.binary32.exponentBias : ℕ) : ℤ) = 127 from rfl]
      obtain ⟨biased, hbiased⟩ : ∃ biased : ℕ, e + 150 = biased := ⟨(e + 150).toNat, by omega⟩
      rw [show (e + 127 + (23 : ℕ)).toNat = biased by omega, if_neg (by norm_num; omega)]
      have hlog : m.log2 + 1 = Format.binary32.mantissaBits ↔ 2 ^ 23 ≤ m := by
        rw [show Format.binary32.mantissaBits = 23 + 1 from rfl, Nat.add_right_cancel_iff,
          Nat.log2_eq_iff hm.ne', and_iff_left hlt]
      by_cases hge : 2 ^ 23 ≤ m
      · rw [if_pos (hlog.2 hge)]
        exact unpack_normal sign hm hge hlt hbiased (by omega) (by omega)
      · obtain rfl := hnormal.resolve_left hge
        rw [if_neg (mt hlog.1 hge)]
        exact unpack_subnormal sign hm (by omega)

/-- A datum beyond the range of the format becomes an infinity. -/
theorem unpack_pack_of_le (h : Holds sign datum x) (hx : 2 ^ 128 ≤ x) :
    UnpackedFloat.unpack .binary32 (UnpackedFloat.pack .binary32 datum) = .infinity sign := by
  cases h with
  | zero => norm_num at hx
  | @finite m e hm hlt hexponent hnormal =>
      have he : ¬ e ≤ 104 := mt (exponent_le_iff hm hlt hnormal).2 (not_lt.2 hx)
      rw [UnpackedFloat.pack, show ((Format.binary32.exponentBias : ℕ) : ℤ) = 127 from rfl,
        if_pos (by norm_num; omega)]
      exact unpack_packedInfinity sign

/-! ## Multiplication -/

/-- A product of two data is the product of their values, rounded, with the sign of both. -/
theorem mul {sign' : Sign} {datum' : UnpackedFloat} {y : ℝ} (hx : Holds sign datum x)
    (hy : Holds sign' datum' y) :
    ∃ e n, Rounded (x * y) e n ∧
      Holds (sign * sign') (UnpackedFloat.mul .binary32 datum datum') (n * 2 ^ e) := by
  have hzero : ∀ {datum}, datum = .zero (sign * sign') → x * y = 0 →
      ∃ e n, Rounded (x * y) e n ∧ Holds (sign * sign') datum (n * 2 ^ e) := by
    rintro _ rfl hxy
    exact ⟨-149, 0, hxy ▸ .zero, by simpa using Holds.zero⟩
  cases hx with
  | zero => cases hy <;> exact hzero rfl (zero_mul _)
  | @finite m e hm hlt hexponent hnormal =>
      cases hy with
      | zero => exact hzero rfl (mul_zero _)
      | @finite m' e' hm' hlt' hexponent' hnormal' =>
          have hpos : 0 < m * m' := Nat.mul_pos hm hm'
          have hexponents : e + e' ≤
              Format.binary32.targetExponent (totalExponent (m * m') (e + e')) := by
            rw [targetExponent_eq]
            have hlog : 2 ^ 23 ≤ m * m' → 23 ≤ (m * m').log2 := (Nat.le_log2 hpos.ne').2
            rcases hnormal with hge | rfl
            · have := hlog (hge.trans (Nat.le_mul_of_pos_right m hm'))
              omega
            · rcases hnormal' with hge | rfl
              · have := hlog (hge.trans (Nat.le_mul_of_pos_left m' hm))
                omega
              · omega
          have hvalue : (m : ℝ) * 2 ^ e * (m' * 2 ^ e') = ((m * m' : ℕ) : ℝ) * 2 ^ (e + e') := by
            rw [two_zpow_add]
            push_cast
            ring
          rw [hvalue]
          exact rounded_roundWithAccuracy _ hpos (.exact _) hexponents

end Holds

/-! ## Numbers that are not negative -/

/-- Whether a datum is finite and not negative, and has a value. -/
def Amounts (datum : UnpackedFloat) (x : ℝ) : Prop :=
  ∃ sign, Holds sign datum x ∧ (sign = .positive ∨ x = 0)

namespace Amounts

variable {datum datum' : UnpackedFloat} {x y : ℝ}

theorem of_positive (h : Holds .positive datum x) : Amounts datum x := ⟨_, h, .inl rfl⟩

theorem zero (sign : Sign) : Amounts (.zero sign) 0 := ⟨sign, .zero, .inr rfl⟩

/-- The square of a number, whatever its sign. -/
theorem sq {sign : Sign} (h : Holds sign datum x) :
    ∃ e n, Rounded (x * x) e n ∧
      Amounts (UnpackedFloat.mul .binary32 datum datum) (n * 2 ^ e) := by
  obtain ⟨e, n, hrounded, hholds⟩ := h.mul h
  have hsign : sign * sign = .positive := by cases sign <;> rfl
  rw [hsign] at hholds
  exact ⟨e, n, hrounded, .of_positive hholds⟩

/-- A datum with a value is a zero or positive. -/
theorem cases (h : Amounts datum x) :
    ((∃ sign, datum = .zero sign) ∧ x = 0) ∨ (∃ m e hm, datum = .finite .positive m e hm ∧
      x = m * 2 ^ e ∧ Holds .positive datum x) := by
  obtain ⟨sign, h, hsign⟩ := h
  cases h with
  | zero => exact .inl ⟨⟨sign, rfl⟩, rfl⟩
  | @finite m e hm hlt hexponent hnormal =>
      have hpos : (m : ℝ) * 2 ^ e ≠ 0 := by positivity
      obtain rfl := hsign.resolve_right hpos
      exact .inr ⟨m, e, hm, rfl, rfl, .finite hlt hexponent hnormal⟩

/-- Two positive data are brought to the smaller exponent, where their mantissas are added. -/
theorem add_finite {m m' : ℕ} (e e' : ℤ) (hm : 0 < m) (hm' : 0 < m') :
    ∃ t n, Rounded (m * 2 ^ e + m' * 2 ^ e') t n ∧
      Amounts (UnpackedFloat.add .binary32 (.finite .positive m e hm)
        (.finite .positive m' e' hm')) (n * 2 ^ t) := by
  obtain ⟨k, hk⟩ : ∃ k : ℕ, e = min e e' + k := ⟨(e - min e e').toNat, by omega⟩
  obtain ⟨k', hk'⟩ : ∃ k : ℕ, e' = min e e' + k := ⟨(e' - min e e').toNat, by omega⟩
  have hpos : 0 < m * 2 ^ k + m' * 2 ^ k' := by positivity
  have hvalue : (m : ℝ) * 2 ^ e + m' * 2 ^ e' =
      ((m * 2 ^ k + m' * 2 ^ k' : ℕ) : ℝ) * 2 ^ min e e' := by
    have hpow : (2 : ℝ) ^ e = 2 ^ k * 2 ^ min e e' := by
      rw [← zpow_natCast, ← two_zpow_add, add_comm, ← hk]
    have hpow' : (2 : ℝ) ^ e' = 2 ^ k' * 2 ^ min e e' := by
      rw [← zpow_natCast, ← two_zpow_add, add_comm, ← hk']
    rw [hpow, hpow']
    push_cast
    ring
  have hsum : UnpackedFloat.add .binary32 (.finite .positive m e hm)
      (.finite .positive m' e' hm') =
        .round .binary32 .positive (m * 2 ^ k + m' * 2 ^ k') (min e e') := by
    simp only [UnpackedFloat.add, decreaseExponent, show (e - min e e').toNat = k by omega,
      show (e' - min e e').toNat = k' by omega, Sign.apply, Nat.shiftLeft_eq]
    rw [← Nat.cast_add, UnpackedFloat.normalize, Int.compare_eq_gt.2 (by exact_mod_cast hpos)]
    rfl
  rw [hvalue, hsum]
  obtain ⟨t, n, hrounded, hholds⟩ := rounded_round .positive (min e e') hpos
  exact ⟨t, n, hrounded, .of_positive hholds⟩

/-- The value of a datum is a rounded number already. -/
theorem rounded (h : Amounts datum x) : ∃ e n, Rounded x e n ∧ Amounts datum (n * 2 ^ e) := by
  obtain ⟨sign, h, hsign⟩ := h
  obtain ⟨e, n, hrounded, rfl⟩ := h.rounded
  exact ⟨e, n, hrounded, sign, h, hsign⟩

/-- The sum of numbers that are not negative. -/
theorem add (hx : Amounts datum x) (hy : Amounts datum' y) :
    ∃ e n, Rounded (x + y) e n ∧
      Amounts (UnpackedFloat.add .binary32 datum datum') (n * 2 ^ e) := by
  rcases hx.cases with ⟨⟨sign, rfl⟩, rfl⟩ | ⟨m, e, hm, rfl, rfl, _⟩
  · rw [zero_add]
    rcases hy.cases with ⟨⟨sign', rfl⟩, rfl⟩ | ⟨m', e', hm', rfl, rfl, _⟩
    · refine rounded ?_
      rw [UnpackedFloat.add]
      split <;> exact .zero _
    · exact hy.rounded
  · rcases hy.cases with ⟨⟨sign', rfl⟩, rfl⟩ | ⟨m', e', hm', rfl, rfl, _⟩
    · rw [add_zero]
      exact hx.rounded
    · exact add_finite e e' hm hm'

/-- A natural number with the accuracy that is found for it stands for the root of the sum of its
square and of the rest. -/
theorem represents_root {root rest : ℕ} {x : ℝ} (hx : 0 ≤ x) (hsquare : x ^ 2 = root ^ 2 + rest)
    (hrest : rest ≤ 2 * root) :
    Represents (.ofMantissaAndAccuracy root (if rest = 0 then .exact else
      .inexact (if rest ≤ root then .lt else .gt))) x := by
  rcases Nat.eq_zero_or_pos rest with rfl | hpos
  · rw [Nat.cast_zero, add_zero] at hsquare
    rw [if_pos rfl, (sq_eq_sq₀ hx (Nat.cast_nonneg _)).1 hsquare]
    exact .exact root
  · rw [if_neg hpos.ne']
    by_cases hlow : rest ≤ root
    · have hlow' : (rest : ℝ) ≤ root := by exact_mod_cast hlow
      have hpos' : (0 : ℝ) < rest := by exact_mod_cast hpos
      have hgt : (root : ℝ) < x := lt_of_pow_lt_pow_left₀ 2 hx (by linarith)
      have hlt : x < root + 1 / 2 := lt_of_pow_lt_pow_left₀ 2 (by positivity) (by nlinarith)
      simp only [hlow, if_true, Represents, halves, ExtendedMantissa.ofMantissaAndAccuracy,
        Bool.toNat_false, add_zero]
      push_cast
      constructor <;> linarith
    · have hhigh : (root : ℝ) + 1 ≤ rest := by exact_mod_cast Nat.lt_of_not_le hlow
      have hrest' : (rest : ℝ) ≤ 2 * root := by exact_mod_cast hrest
      have hgt : (root : ℝ) + 1 / 2 < x := lt_of_pow_lt_pow_left₀ 2 hx (by nlinarith)
      have hlt : x < root + 1 := lt_of_pow_lt_pow_left₀ 2 (by positivity) (by nlinarith)
      simp only [hlow, if_false, if_true, Represents, halves,
        ExtendedMantissa.ofMantissaAndAccuracy, Bool.toNat_true]
      push_cast
      constructor <;> linarith

/-- The root of a mantissa, with the accuracy that is found for it, stands for the square root. -/
theorem represents_sqrt (m : ℕ) :
    Represents (.ofMantissaAndAccuracy m.sqrt (if m - m.sqrt * m.sqrt = 0 then .exact else
      .inexact (if m - m.sqrt * m.sqrt ≤ m.sqrt then .lt else .gt))) √m := by
  have hle := Nat.sqrt_le m
  have hlt := Nat.lt_succ_sqrt m
  rw [Nat.succ_mul_succ] at hlt
  refine represents_root (Real.sqrt_nonneg _) ?_ (by omega)
  rw [Real.sq_sqrt (Nat.cast_nonneg _), Nat.cast_sub hle]
  push_cast
  ring

/-- The square root of a number that is not negative. -/
theorem sqrt (hx : Amounts datum x) :
    ∃ e n, Rounded (√x) e n ∧ Amounts (UnpackedFloat.sqrt .binary32 datum) (n * 2 ^ e) := by
  rcases hx.cases with ⟨⟨sign, rfl⟩, rfl⟩ | ⟨m, e, hm, rfl, rfl, _⟩
  · refine ⟨-149, 0, by simpa using Rounded.zero, ?_⟩
    rw [UnpackedFloat.sqrt]
    simpa using zero sign
  · -- The mantissa is extended such that its root has all places that the rounding needs.
    obtain ⟨t, ht⟩ : ∃ t, t = min (e / 2) (max (((m.log2 : ℤ) + 1 + e + 1) / 2 - 24) (-149)) :=
      ⟨_, rfl⟩
    obtain ⟨shift, hshift⟩ : ∃ shift : ℕ, e = shift + 2 * t := ⟨(e - 2 * t).toNat, by omega⟩
    have htarget : min (e.ediv 2)
        (Format.binary32.targetExponent ((totalExponent m e + 1).ediv 2)) = t := by
      rw [ht]
      rfl
    have hvalue : √(m * 2 ^ e) = √((m * 2 ^ shift : ℕ) : ℝ) * 2 ^ t := by
      rw [hshift, two_zpow_add, zpow_natCast, two_mul, two_zpow_add, ← mul_assoc,
        Real.sqrt_mul (by positivity), Real.sqrt_mul_self (by positivity)]
      push_cast
      rfl
    rw [hvalue, UnpackedFloat.sqrt, sqrtCore, htarget]
    simp only [show (e - 2 * t).toNat = shift by omega, Nat.shiftLeft_eq]
    have hpos : 0 < m * 2 ^ shift := by positivity
    have hplaces : t ≤
        Format.binary32.targetExponent (totalExponent (m * 2 ^ shift).sqrt t) := by
      rw [targetExponent_eq]
      by_cases hmin : t ≤ -149
      · omega
      · have hlog : 2 ^ 46 ≤ m * 2 ^ shift := by
          calc 2 ^ 46 ≤ 2 ^ (m.log2 + shift) := Nat.pow_le_pow_right two_pos (by omega)
            _ = 2 ^ m.log2 * 2 ^ shift := pow_add ..
            _ ≤ m * 2 ^ shift := Nat.mul_le_mul_right _ (Nat.log2_self_le hm.ne')
        have hroot : 2 ^ 23 ≤ (m * 2 ^ shift).sqrt := Nat.le_sqrt.2 (by rwa [← pow_add])
        have := (Nat.le_log2 (Nat.sqrt_pos.2 hpos).ne').2 hroot
        omega
    obtain ⟨t', n, hrounded, hholds⟩ := rounded_roundWithAccuracy .positive
      (Nat.sqrt_pos.2 hpos) (represents_sqrt (m * 2 ^ shift)) hplaces
    exact ⟨t', n, hrounded, .of_positive hholds⟩

end Amounts

end Binary32
end CodeSurvey
