import CodeSurvey.Proofs.Binary32.Number

/-!
# The values of finite numbers

Whether a result is finite depends on the values of the operands: a square is finite up to a certain
width, a product of numbers up to this width is finite as well, and a sum of numbers up to a bound
stops growing before it leaves the range of the format.

## Main results

* `Binary32.exists_magnitude`: the magnitude of a finite number.
* `Binary32.Magnitude.sq`, `Binary32.Magnitude.isFinite_mul`: squares and products.
* `Binary32.Amount.add_of_le`: sums of numbers up to a power of two.
* `Binary32.Amount.sqrt`, `Binary32.Amount.mul_ne_zero`: square roots and their products.
* `Binary32.ofNat_ne_zero`: numbers of things.
-/

namespace CodeSurvey
namespace Binary32

open Float.Model UnpackedFloat

/-! ## Values -/

namespace Holds

variable {sign : Sign} {datum : UnpackedFloat} {v : ℝ}

/-- A datum with a value is finite. -/
theorem isFinite (h : Holds sign datum v) : datum.isFinite = true := by
  cases h <;> rfl

/-- A number with 24 places and an exponent of the format is at most the greatest one. -/
theorem le_greatest {m : ℕ} {e : ℤ} (hlt : m < 2 ^ 24) (he : e ≤ 104) :
    (m : ℝ) * 2 ^ e ≤ greatest := by
  rw [greatest]
  gcongr
  · omega
  · norm_num

end Holds

/-- The bits of a finite number hold it, and it is in the range of the format. -/
theorem holds_unpack {bits : BitVec 32}
    (h : (UnpackedFloat.unpack .binary32 bits).isFinite = true) :
    ∃ sign v, Holds sign (UnpackedFloat.unpack .binary32 bits) v ∧ v ≤ greatest := by
  have hmantissa : (@unpackMantissa .binary32 bits).toNat < 2 ^ 23 := BitVec.isLt _
  revert h
  rw [UnpackedFloat.unpack]
  simp only [show ((Format.binary32.exponentBias : ℕ) : ℤ) = 127 from rfl]
  split
  · split <;> exact nofun
  rename_i hne
  split
  · split
    · exact fun _ => ⟨_, 0, .zero, by rw [greatest]; positivity⟩
    · rename_i hzero _
      rw [hzero]
      exact fun _ => ⟨_, _, .finite (hmantissa.trans (by norm_num)) (by decide) (.inr (by decide)),
        Holds.le_greatest (hmantissa.trans (by norm_num)) (by decide)⟩
  · rename_i hnonzero
    have hpos : 0 < (@unpackExponent .binary32 bits).toNat := by
      rw [Nat.pos_iff_ne_zero]
      exact fun hzero => hnonzero (BitVec.toNat_inj.1 hzero)
    have hmax : (@unpackExponent .binary32 bits).toNat < 255 := by
      have hlt : (@unpackExponent .binary32 bits).toNat < 256 := BitVec.isLt _
      have hne' : (@unpackExponent .binary32 bits).toNat ≠ 255 :=
        fun hmax => hne (BitVec.toNat_inj.1 hmax)
      omega
    have hnormal := toNat_one_append (@unpackMantissa .binary32 bits)
    refine fun _ => ⟨_, _, .finite ?_ ?_ (.inl ?_), Holds.le_greatest ?_ ?_⟩
    · rw [hnormal]
      omega
    · push_cast
      omega
    · rw [hnormal]
      omega
    · rw [hnormal]
      omega
    · push_cast
      omega

/-- A datum that stays finite is not changed by packing, and its value is in range. -/
theorem settle_of_isFinite {sign : Sign} {datum : UnpackedFloat} {v : ℝ} (h : Holds sign datum v)
    (hfinite : (settle datum).isFinite = true) : v < 2 ^ 128 ∧ settle datum = datum := by
  rcases lt_or_ge v (2 ^ 128) with hlt | hge
  · exact ⟨hlt, h.unpack_pack hlt⟩
  · rw [settle, h.unpack_pack_of_le hge] at hfinite
    cases hfinite

/-- A number that is not negative keeps its value in the range of the format. -/
theorem amounts_settle {datum : UnpackedFloat} {v : ℝ} (h : Amounts datum v) (hlt : v < 2 ^ 128) :
    Amounts (settle datum) v := by
  obtain ⟨sign, hholds, hsign⟩ := h
  have hsettle : settle datum = datum := hholds.unpack_pack hlt
  rw [hsettle]
  exact ⟨sign, hholds, hsign⟩

/-- A datum that stays finite keeps its value when it is packed. -/
theorem amounts_settle_of_isFinite {datum : UnpackedFloat} {v : ℝ} (h : Amounts datum v)
    (hfinite : (settle datum).isFinite = true) : v < 2 ^ 128 ∧ Amounts (settle datum) v := by
  have hlt : v < 2 ^ 128 := by
    obtain ⟨_, hholds, _⟩ := h
    exact (settle_of_isFinite hholds hfinite).1
  exact ⟨hlt, amounts_settle h hlt⟩

/-- A datum that is not zero does not become zero. -/
theorem settle_ne_zero {sign : Sign} {datum : UnpackedFloat} {v : ℝ} (h : Holds sign datum v)
    (hv : v ≠ 0) (sign' : Sign) : settle datum ≠ .zero sign' := by
  intro hzero
  obtain ⟨_, hsettle⟩ := settle_of_isFinite h (by rw [hzero]; rfl)
  rw [hsettle] at hzero
  subst hzero
  cases h
  exact hv rfl

/-- Whether a number is finite and has a magnitude. -/
def Magnitude (x : Float32) (v : ℝ) : Prop := ∃ sign, Holds sign x.toModel.unpack v

/-- Whether a number is finite and not negative, and has a value. -/
def Amount (x : Float32) (v : ℝ) : Prop := Amounts x.toModel.unpack v

section Values

variable {x y : Float32} {v w : ℝ}

/-- A number with a magnitude is finite. -/
theorem Magnitude.isFinite (h : Magnitude x v) : x.isFinite = true := by
  obtain ⟨_, h⟩ := h
  exact h.isFinite

theorem amount_zero : Amount 0 0 := Amounts.zero .positive

/-- The value of a number that is not negative is its magnitude. -/
theorem Amount.magnitude (h : Amount x v) : Magnitude x v := by
  obtain ⟨sign, h, _⟩ := h
  exact ⟨sign, h⟩

/-- Every finite number has a magnitude within the range of the format. -/
theorem exists_magnitude (h : x.isFinite = true) : ∃ v, Magnitude x v ∧ v ≤ greatest := by
  obtain ⟨sign, v, hv, hle⟩ := holds_unpack h
  exact ⟨v, ⟨sign, hv⟩, hle⟩

/-- A datum has one magnitude. -/
theorem Holds.unique {sign sign' : Sign} {datum : UnpackedFloat} (h : Holds sign datum v)
    (h' : Holds sign' datum w) : v = w := by
  cases h <;> cases h' <;> rfl

/-- No value is above the greatest number of the format. -/
theorem Amount.le_greatest (h : Amount x v) : v ≤ greatest := by
  obtain ⟨sign, h⟩ := h.magnitude
  obtain ⟨w, ⟨sign', hw⟩, hle⟩ := exists_magnitude h.isFinite
  rwa [h.unique hw]

/-- A number above has a square that is too great. -/
theorem Holds.le_widest {sign : Sign} {datum : UnpackedFloat} (h : Holds sign datum v)
    (hlt : v < 2 ^ 64) : v ≤ widest := by
  cases h with
  | zero =>
      rw [widest]
      positivity
  | @finite m e hm hlt' hexponent hnormal =>
      have he : e ≤ 40 := by
        by_contra hgt
        have hge : 2 ^ 23 ≤ m := hnormal.resolve_right (by omega)
        have : (2 : ℝ) ^ 64 ≤ m * 2 ^ e := by
          calc (2 : ℝ) ^ 64 = 2 ^ (23 : ℤ) * 2 ^ (41 : ℤ) := by norm_num
            _ ≤ m * 2 ^ e := by
              gcongr
              · exact_mod_cast hge
              · norm_num
              · omega
        linarith
      rw [widest]
      gcongr
      · omega
      · norm_num

/-- The square of a number, if it is finite. -/
theorem Magnitude.sq (h : Magnitude x v) (hfinite : (x * x).isFinite = true) :
    v ≤ widest ∧ ∃ w, Amount (x * x) w := by
  obtain ⟨sign, h⟩ := h
  obtain ⟨e, n, hrounded, hsquare⟩ := Amounts.sq h
  obtain ⟨hlt, hsettled⟩ := amounts_settle_of_isFinite hsquare hfinite
  refine ⟨h.le_widest ?_, n * 2 ^ e, hsettled⟩
  by_contra hge
  have hsq : ((2 ^ 23 : ℕ) : ℝ) * 2 ^ (105 : ℤ) ≤ v * v := by
    calc ((2 ^ 23 : ℕ) : ℝ) * 2 ^ (105 : ℤ) = 2 ^ 64 * 2 ^ 64 := by norm_num
      _ ≤ v * v := by
        have hv : (2 : ℝ) ^ 64 ≤ v := not_lt.1 hge
        gcongr
  have hle := hrounded.ge (by norm_num) (by norm_num) hsq
  norm_num at hle hlt
  linarith

/-- Numbers whose squares are finite have a finite product. -/
theorem Magnitude.isFinite_mul (hx : Magnitude x v) (hy : Magnitude y w) (hv : v ≤ widest)
    (hw : w ≤ widest) : (x * y).isFinite = true := by
  obtain ⟨sign, hx⟩ := hx
  obtain ⟨sign', hy⟩ := hy
  obtain ⟨e, n, hrounded, hholds⟩ := hx.mul hy
  have hproduct : v * w ≤ greatest :=
    (mul_le_mul hv hw hy.nonneg (by rw [widest]; positivity)).trans widest_mul_widest
  have hle := hrounded.le (by norm_num) (by norm_num) hproduct
  have hsettle := hholds.unpack_pack (hle.trans_lt greatest_lt)
  change (settle _).isFinite = true
  rw [settle, hsettle]
  exact hholds.isFinite

/-- The sum of numbers that are not negative, if it is finite. -/
theorem Amount.add (hx : Amount x v) (hy : Amount y w) (hfinite : (x + y).isFinite = true) :
    ∃ u, Amount (x + y) u := by
  obtain ⟨e, n, _, hsum⟩ := Amounts.add hx hy
  exact ⟨n * 2 ^ e, (amounts_settle_of_isFinite hsum hfinite).2⟩

/-- Adding a number up to a power of two does not lead above the number from which on no such number
can be told apart any more. -/
theorem Amount.add_of_le {k : ℤ} (hk : -149 ≤ k) (hk' : k ≤ 103) (hx : Amount x v)
    (hv : v ≤ 2 ^ (k + 24)) (hy : Amount y w) (hw : w ≤ 2 ^ k) :
    ∃ u, Amount (x + y) u ∧ u ≤ 2 ^ (k + 24) := by
  obtain ⟨e, n, hrounded, hsum⟩ := Amounts.add hx hy
  have hpow : ∀ i : ℤ, (2 : ℝ) ^ (k + i) = 2 ^ k * 2 ^ i := two_zpow_add k
  have hpos := two_zpow_pos k
  have hle : (n : ℝ) * 2 ^ e ≤ 2 ^ (k + 24) := by
    rcases le_or_gt (v + w) (2 ^ (k + 24)) with hlow | hhigh
    · have hone : ((1 : ℕ) : ℝ) * 2 ^ (k + 24) = 2 ^ (k + 24) := by norm_num
      rw [← hone] at hlow ⊢
      exact hrounded.le (by norm_num) (by omega) hlow
    · have hexponent : e = k + 1 := by
        refine hrounded.exponent_eq (by omega) ?_ ?_
        · rw [add_assoc]
          exact hhigh.le
        · rw [add_assoc, hpow]
          rw [hpow] at hv
          norm_num at hv ⊢
          linarith
      subst hexponent
      have hn : n ≤ 2 ^ 23 := by
        refine hrounded.nearest.le_of_even ?_ (by decide)
        rw [div_le_iff₀ (two_zpow_pos _), hpow]
        rw [hpow] at hv
        norm_num at hv ⊢
        linarith
      calc (n : ℝ) * 2 ^ (k + 1) ≤ (2 ^ 23 : ℕ) * 2 ^ (k + 1) := by gcongr
        _ = 2 ^ (k + 24) := by
          rw [hpow, hpow]
          norm_num
          ring
  have hlt : (2 : ℝ) ^ (k + 24) < 2 ^ 128 := by
    rw [← zpow_natCast]
    exact zpow_lt_zpow_right₀ one_lt_two (by push_cast; omega)
  exact ⟨n * 2 ^ e, amounts_settle hsum (hle.trans_lt hlt), hle⟩

/-- The square root of a finite number. -/
theorem Amount.sqrt (h : Amount x v) (hv : v ≤ greatest) :
    ∃ w, Amount x.sqrt w ∧ w ≤ widest ∧ (v ≠ 0 → narrowest ≤ w) := by
  obtain ⟨e, n, hrounded, hroot⟩ := Amounts.sqrt h
  have hle : (n : ℝ) * 2 ^ e ≤ widest := by
    rcases lt_or_ge √v (2 ^ (63 : ℤ)) with hlow | hhigh
    · refine (hrounded.le (b := 2 ^ 23) (f := 40) (by norm_num) (by norm_num) ?_).trans ?_
      · norm_num at hlow ⊢
        exact hlow.le
      · norm_num [widest]
    · have hmiddle : √v < (((2 ^ 24 - 1 : ℕ) : ℝ) + 1 / 2) * 2 ^ (40 : ℤ) := by
        rw [Real.sqrt_lt' (by positivity)]
        refine hv.trans_lt ?_
        norm_num [greatest]
      have hexponent : e = 40 := by
        refine hrounded.exponent_eq (by norm_num) hhigh (hmiddle.trans ?_)
        norm_num
      subst hexponent
      have hn := hrounded.le_of_lt hmiddle
      rw [widest]
      gcongr
  have hge : v ≠ 0 → narrowest ≤ n * 2 ^ e := by
    intro hne
    obtain ⟨_, hholds, _⟩ := h
    refine hrounded.ge (by norm_num) (by norm_num) (Real.le_sqrt_of_sq_le ?_)
    refine le_trans ?_ (hholds.two_zpow_le hne)
    norm_num
  have hlt : widest < 2 ^ 128 := by norm_num [widest]
  exact ⟨n * 2 ^ e, amounts_settle hroot (hle.trans_lt hlt), hle, hge⟩

/-- The root of zero is zero, whatever its sign. -/
theorem Amount.sqrt_eq_zero (h : Amount x 0) : (x.sqrt == 0) = true := by
  obtain ⟨sign, h, _⟩ := h
  have hzero : x.toModel.unpack = .zero sign := by
    generalize hvalue : (0 : ℝ) = v at h
    generalize x.toModel.unpack = datum at h
    cases h with
    | zero => rfl
    | finite => exact absurd hvalue (by positivity)
  change UnpackedFloat.beq x.sqrt.toModel.unpack (.zero .positive) = true
  rw [unpack_sqrt, hzero, UnpackedFloat.sqrt, settle_zero]
  rfl

/-- The product of roots that are not zero is not zero. -/
theorem Amount.mul_ne_zero (hx : Amount x v) (hy : Amount y w) (hv : narrowest ≤ v)
    (hw : narrowest ≤ w) (sign : Sign) : (x * y).toModel.unpack ≠ .zero sign := by
  obtain ⟨_, hx, _⟩ := hx
  obtain ⟨_, hy, _⟩ := hy
  obtain ⟨e, n, hrounded, hholds⟩ := hx.mul hy
  have hproduct : narrowest * narrowest ≤ v * w :=
    mul_le_mul hv hw (by rw [narrowest]; positivity) hx.nonneg
  have hpos : (0 : ℝ) < n * 2 ^ e := by
    rcases lt_or_ge (v * w) (2 ^ (-126 : ℤ)) with hlt | hge
    · obtain rfl := hrounded.exponent_eq_min hlt
      have hn : 1 ≤ n := by
        refine hrounded.ge_of_lt (lt_of_lt_of_le ?_ hproduct)
        norm_num [narrowest]
      positivity
    · have hle := hrounded.ge (b := 1) (f := -126) (by norm_num) (by norm_num) (by simpa using hge)
      exact lt_of_lt_of_le (by positivity) hle
  exact settle_ne_zero hholds hpos.ne' sign

/-- A datum of the unit interval. -/
theorem amounts_of_unit {datum : UnpackedFloat}
    (hholds : datum.isFinite = true → ∃ sign v, Holds sign datum v)
    (hle : ∃ order, UnpackedFloat.compare (.zero .positive) datum = some order ∧ order.isLE = true)
    (hge : ∃ order, UnpackedFloat.compare datum (.finite .positive (2 ^ 23) (-23) (by decide)) =
      some order ∧ order.isLE = true) : ∃ v, Amounts datum v ∧ v ≤ 1 := by
  obtain ⟨below, hbelow, hbelowLE⟩ := hle
  obtain ⟨above, habove, haboveLE⟩ := hge
  cases datum with
  | notANumber => cases hbelow
  | zero sign => exact ⟨0, .zero sign, zero_le_one⟩
  | infinity sign =>
      cases sign with
      | negative =>
          cases hbelow
          cases hbelowLE
      | positive =>
          cases habove
          cases haboveLE
  | finite sign m e hm =>
      cases sign with
      | negative =>
          cases hbelow
          cases hbelowLE
      | positive =>
          obtain ⟨sign, v, hv⟩ := hholds rfl
          cases hv with
          | finite hlt hexponent hnormal =>
              refine ⟨_, .of_positive (.finite hlt hexponent hnormal), ?_⟩
              cases habove
              rw [Ordering.isLE_then_iff_and] at haboveLE
              rw [Int.isLE_compare, Int.compare_eq_lt, Nat.isLE_compare] at haboveLE
              obtain ⟨he, hlow | hm'⟩ := haboveLE
              · calc (m : ℝ) * 2 ^ e ≤ (2 ^ 24 : ℕ) * 2 ^ (-24 : ℤ) := by
                      gcongr
                      · norm_num
                      · omega
                  _ = 1 := by norm_num
              · calc (m : ℝ) * 2 ^ e ≤ (2 ^ 23 : ℕ) * 2 ^ (-23 : ℤ) := by
                      gcongr
                      norm_num
                  _ = 1 := by norm_num

/-- The numbers of the unit interval. -/
theorem exists_amount_of_unit (hle : 0 ≤ x) (hge : x ≤ 1) : ∃ v, Amount x v ∧ v ≤ 1 := by
  refine amounts_of_unit ?_ (le_iff.1 hle) (le_iff.1 hge)
  intro hfinite
  obtain ⟨v, ⟨sign, hv⟩, _⟩ := exists_magnitude hfinite
  exact ⟨sign, v, hv⟩

theorem holds_one : Holds .positive (1 : Float32).toModel.unpack 1 := by
  have h : Holds .positive (.finite .positive (2 ^ 23) (-23) (by decide))
      ((2 ^ 23 : ℕ) * 2 ^ (-23 : ℤ)) :=
    .finite (by norm_num) (by norm_num) (.inl le_rfl)
  norm_num at h
  exact h

/-- A small natural number is converted exactly. -/
theorem holds_toFloat32 {n : ℕ} (hn : 1 ≤ n) (hlt : n < 2 ^ 23) :
    ∃ v, Holds .positive n.toUInt64.toFloat32.toModel.unpack v ∧ 1 ≤ v := by
  have hconvert : n.toUInt64.toFloat32.toModel.unpack =
      settle (.round .binary32 .positive n 0) := by
    change settle (UnpackedFloat.normalize .binary32 (n.toUInt64.toNat : ℤ) 0 .positive) = _
    have hnat : n.toUInt64.toNat = n := by
      rw [UInt64.toNat_ofNat', Nat.mod_eq_of_lt (hlt.trans (by norm_num))]
    rw [hnat, UnpackedFloat.normalize, Int.compare_eq_gt.2 (by exact_mod_cast hn)]
    rfl
  obtain ⟨e, k, hrounded, hholds⟩ := rounded_round .positive 0 hn
  rw [zpow_zero, mul_one] at hrounded
  have hge := hrounded.ge (b := 1) (f := 0) (by norm_num) (by norm_num) (by simpa using hn)
  have hle := hrounded.le (b := 1) (f := 23) (by norm_num) (by norm_num) (by
    norm_num
    exact_mod_cast hlt.le)
  have hsettle : settle _ = _ := hholds.unpack_pack (hle.trans_lt (by norm_num))
  refine ⟨_, ?_, by simpa using hge⟩
  rw [hconvert, hsettle]
  exact hholds

/-- A great natural number is rounded. -/
theorem holds_ofScientific {n : ℕ} (hn : 2 ^ 23 ≤ n) :
    ∃ v, Holds .positive (UnpackedFloat.ofScientific .binary32 n 0) v ∧ v ≠ 0 := by
  have hsize : 2 ^ 47 ≤ n <<< 24 * 10 ^ 0 := by
    rw [pow_zero, mul_one, Nat.shiftLeft_eq]
    exact Nat.mul_le_mul_right (2 ^ 24) hn
  have hpos : 0 < n <<< 24 * 10 ^ 0 := Nat.lt_of_lt_of_le (by norm_num) hsize
  have hlog : 47 ≤ (n <<< 24 * 10 ^ 0).log2 := (Nat.le_log2 hpos.ne').2 hsize
  have hdatum : UnpackedFloat.ofScientific .binary32 n 0 =
      roundWithAccuracy .binary32 (.positive * .positive) (n <<< 24 * 10 ^ 0) (-24 + 0) .exact := by
    rw [UnpackedFloat.ofScientific, dif_neg (by omega), if_neg (by norm_num), if_neg (by norm_num),
      if_pos le_rfl]
    rfl
  have hvalue : ((1 : ℕ) : ℝ) * 2 ^ (0 : ℤ) ≤ (n <<< 24 * 10 ^ 0 : ℕ) * 2 ^ (-24 + 0 : ℤ) := by
    calc ((1 : ℕ) : ℝ) * 2 ^ (0 : ℤ) ≤ (2 ^ 47 : ℕ) * 2 ^ (-24 + 0 : ℤ) := by norm_num
      _ ≤ (n <<< 24 * 10 ^ 0 : ℕ) * 2 ^ (-24 + 0 : ℤ) := by gcongr
  obtain ⟨e, k, hrounded, hholds⟩ := rounded_roundWithAccuracy (.positive * .positive) hpos
    (.exact (n <<< 24 * 10 ^ 0)) (e := -24 + 0) (by rw [targetExponent_eq]; omega)
  have hge := hrounded.ge (by norm_num) (by norm_num) hvalue
  refine ⟨k * 2 ^ e, by rwa [hdatum], ?_⟩
  norm_num at hge
  linarith

/-- A number of things that is not zero is a number that is not zero. -/
theorem ofNat_ne_zero {n : ℕ} (hn : 1 ≤ n) :
    (Float32.ofNat n).isNaN = false ∧ ∀ sign, (Float32.ofNat n).toModel.unpack ≠ .zero sign := by
  rw [show Float32.ofNat n = Float32.ofScientific n false 0 from rfl, Float32.ofScientific]
  split
  · rename_i hsmall
    obtain ⟨v, hv, hone⟩ := holds_toFloat32 hn hsmall.1
    obtain ⟨e, k, hrounded, hholds⟩ := hv.mul holds_one
    have hge := hrounded.ge (b := 1) (f := 0) (by norm_num) (by norm_num) (by simpa using hone)
    have hpos : (k : ℝ) * 2 ^ e ≠ 0 := by
      norm_num at hge
      linarith
    exact ⟨(isNaN_settle _).trans (isNaN_of_isFinite hholds.isFinite), settle_ne_zero hholds hpos⟩
  · rename_i hlarge
    have hlarge : 2 ^ 23 ≤ n := by
      norm_num at hlarge ⊢
      exact hlarge
    obtain ⟨v, hholds, hv⟩ := holds_ofScientific hlarge
    exact ⟨(isNaN_settle _).trans (isNaN_of_isFinite hholds.isFinite), settle_ne_zero hholds hv⟩

end Values

end Binary32
end CodeSurvey
