import CodeSurvey.Proofs.Binary32.Value

/-!
# Numbers that are not negative

A number that is not below zero is finite and has a value, or it is infinite.  Sums and square roots
of such numbers are such numbers again, and so is the square of any finite number; a product with an
infinite factor is infinite unless the other factor is zero.  Dividing by an infinity leads to a
number exactly if the dividend is finite.

## Main results

* `Binary32.nonneg_iff`: the numbers that are not below zero.
* `Binary32.nonneg_add`, `Binary32.nonneg_sqrt`, `Binary32.nonneg_sq`: sums, roots and squares.
* `Binary32.mul_eq_infinity`: products with an infinite factor.
* `Binary32.isNaN_div_infinity`: quotients by an infinity.
-/

namespace CodeSurvey
namespace Binary32

open Float.Model UnpackedFloat

variable {x y : Float32} {v : ℝ} {datum : UnpackedFloat}

/-! ## Numbers that are not below zero -/

theorem compare_zero_isLE (h : Amounts datum v) :
    ∃ order, UnpackedFloat.compare (.zero .positive) datum = some order ∧ order.isLE = true := by
  rcases h.cases with ⟨⟨sign, rfl⟩, _⟩ | ⟨m, e, hm, rfl, _⟩
  · exact ⟨.eq, rfl, rfl⟩
  · exact ⟨.lt, rfl, rfl⟩

/-- A number is not below zero if it is finite with a value, or infinite. -/
theorem nonneg_iff :
    0 ≤ x ↔ (∃ v, Amount x v) ∨ x.toModel.unpack = .infinity .positive := by
  rw [le_iff]
  constructor
  · rintro ⟨order, horder, hle⟩
    change UnpackedFloat.compare (.zero .positive) x.toModel.unpack = some order at horder
    cases hdatum : x.toModel.unpack with
    | notANumber =>
        rw [hdatum] at horder
        cases horder
    | infinity sign =>
        cases sign with
        | positive => exact .inr rfl
        | negative =>
            rw [hdatum] at horder
            cases horder
            cases hle
    | zero sign =>
        refine .inl ⟨0, ?_⟩
        rw [Amount, hdatum]
        exact .zero sign
    | finite sign m e hm =>
        have hfinite : x.isFinite = true := by
          change x.toModel.unpack.isFinite = true
          rw [hdatum]
          rfl
        obtain ⟨v, ⟨sign', hv⟩, _⟩ := exists_magnitude hfinite
        refine .inl ⟨v, sign', hv, .inl ?_⟩
        rw [hdatum] at hv horder
        cases hv
        cases sign with
        | positive => rfl
        | negative =>
            cases horder
            cases hle
  · rintro (⟨v, hv⟩ | hinfinity)
    · exact compare_zero_isLE hv
    · rw [hinfinity]
      exact ⟨.lt, rfl, rfl⟩

/-- What becomes of an amount when it is packed is not below zero. -/
theorem nonneg_of_settle (h : Amounts datum v) (hx : x.toModel.unpack = settle datum) : 0 ≤ x := by
  obtain ⟨sign, hholds, hsign⟩ := h
  simp only [nonneg_iff, Amount, hx]
  rcases lt_or_ge v (2 ^ 128) with hlt | hge
  · have hsettle : settle datum = datum := hholds.unpack_pack hlt
    rw [hsettle]
    exact .inl ⟨v, sign, hholds, hsign⟩
  · have hsettle : settle datum = .infinity sign := hholds.unpack_pack_of_le hge
    rw [hsettle]
    refine .inr (congrArg _ (hsign.resolve_right ?_))
    rintro rfl
    norm_num at hge

theorem eq_infinity_of_nonneg (h : 0 ≤ x) (hfinite : x.isFinite = false) :
    x.toModel.unpack = .infinity .positive := by
  refine (nonneg_iff.1 h).resolve_left ?_
  rintro ⟨v, hv⟩
  rw [hv.magnitude.isFinite] at hfinite
  cases hfinite

/-! ## Sums, roots and squares -/

theorem nonneg_sq (h : x.isFinite = true) : 0 ≤ x * x := by
  obtain ⟨v, ⟨sign, hv⟩, _⟩ := exists_magnitude h
  obtain ⟨e, n, _, hsquare⟩ := Amounts.sq hv
  exact nonneg_of_settle hsquare (unpack_mul x x)

theorem nonneg_add (hx : 0 ≤ x) (hy : 0 ≤ y) : 0 ≤ x + y := by
  rcases nonneg_iff.1 hx with ⟨v, hv⟩ | hx
  · rcases nonneg_iff.1 hy with ⟨w, hw⟩ | hy
    · obtain ⟨e, n, _, hsum⟩ := Amounts.add hv hw
      exact nonneg_of_settle hsum (unpack_add x y)
    · refine nonneg_iff.2 (.inr ?_)
      rw [unpack_add, hy]
      rcases hv.cases with ⟨⟨sign, hdatum⟩, _⟩ | ⟨m, e, hm, hdatum, _⟩ <;> rw [hdatum] <;>
        exact settle_infinity .positive
  · refine nonneg_iff.2 (.inr ?_)
    rw [unpack_add, hx]
    rcases nonneg_iff.1 hy with ⟨w, hw⟩ | hy
    · rw [infinity_add .positive hw.magnitude.isFinite]
      exact settle_infinity .positive
    · rw [hy]
      exact settle_infinity .positive

theorem nonneg_sqrt (h : 0 ≤ x) : 0 ≤ x.sqrt := by
  rcases nonneg_iff.1 h with ⟨v, hv⟩ | hx
  · obtain ⟨e, n, _, hroot⟩ := Amounts.sqrt hv
    exact nonneg_of_settle hroot (unpack_sqrt x)
  · refine nonneg_iff.2 (.inr ?_)
    rw [unpack_sqrt, hx]
    exact settle_infinity .positive

/-! ## Infinite products and quotients -/

/-- The data of a number above zero. -/
theorem unpack_of_pos (h : 0 ≤ x) (hne : (x == 0) = false) :
    (∃ m e hm, x.toModel.unpack = .finite .positive m e hm) ∨
      x.toModel.unpack = .infinity .positive := by
  refine (nonneg_iff.1 h).imp_left ?_
  rintro ⟨v, hv⟩
  rcases hv.cases with ⟨⟨sign, hdatum⟩, _⟩ | ⟨m, e, hm, hdatum, _⟩
  · have hzero : (x == 0) = true := by
      change UnpackedFloat.beq x.toModel.unpack (.zero .positive) = true
      rw [hdatum]
      rfl
    rw [hzero] at hne
    cases hne
  · exact ⟨m, e, hm, hdatum⟩

/-- A product of numbers above zero is infinite if one of them is. -/
theorem mul_eq_infinity (hx : 0 ≤ x) (hy : 0 ≤ y) (hxne : (x == 0) = false)
    (hyne : (y == 0) = false) (h : x.isFinite = false ∨ y.isFinite = false) :
    (x * y).toModel.unpack = .infinity .positive := by
  rw [unpack_mul]
  rcases h with hinfinite | hinfinite
  · rw [eq_infinity_of_nonneg hx hinfinite]
    rcases unpack_of_pos hy hyne with ⟨m, e, hm, hdatum⟩ | hdatum <;> rw [hdatum] <;>
      exact settle_infinity .positive
  · rw [eq_infinity_of_nonneg hy hinfinite]
    rcases unpack_of_pos hx hxne with ⟨m, e, hm, hdatum⟩ | hdatum <;> rw [hdatum] <;>
      exact settle_infinity .positive

/-- A quotient by an infinity is a number exactly if the dividend is finite. -/
theorem isNaN_div_infinity {sign : Sign} (hy : y.toModel.unpack = .infinity sign) :
    (x / y).isNaN = !x.isFinite := by
  change (settle (UnpackedFloat.div .binary32 x.toModel.unpack y.toModel.unpack)).isNaN =
    !x.toModel.unpack.isFinite
  rw [isNaN_settle, hy]
  cases x.toModel.unpack <;> rfl

end Binary32
end CodeSurvey
