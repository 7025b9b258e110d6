import CodeSurvey.Proofs.Binary32.Infinity
import CodeSurvey.Proofs.Cosine

/-!
# The range of the similarity

A similarity is meant to lie between zero and one.  The clamped cosine of two vectors with finite
components does so unless it is not a number, and it is not a number exactly if the computation
overflows twice: a length is infinite, and so the product of the lengths is, and the scalar product
is not finite either.  Nothing of this happens as long as the components are at most `2 ^ 51`.

## Main results

* `isNaN_cosine_iff`: the vectors that have no cosine.
* `isFinite_norm`: vectors of finite length, however many components they have.
* `Similarity.cosine_range`: the vectors whose similarity lies between zero and one.
-/

namespace CodeSurvey

open Binary32

variable {x s : Float32} {xs a b : Vector32}

/-! ## Lengths of finite vectors -/

theorem nonneg_foldl_add (hs : 0 ≤ s) (h : ∀ x ∈ xs, 0 ≤ x) : 0 ≤ xs.foldl (· + ·) s := by
  induction xs generalizing s with
  | nil => exact hs
  | cons x xs ih =>
      rw [List.forall_mem_cons] at h
      exact ih (nonneg_add hs h.1) h.2

/-- The length of a vector with finite components is not below zero; it may be infinite. -/
theorem nonneg_norm (h : ∀ x ∈ a, x.isFinite = true) : 0 ≤ norm a := by
  rw [norm, dot_self]
  refine nonneg_sqrt (nonneg_foldl_add (nonneg_iff.2 (.inl ⟨0, amount_negativeZero⟩)) ?_)
  intro y hy
  obtain ⟨x, hx, rfl⟩ := List.mem_map.1 hy
  exact nonneg_sq (h x hx)

/-- The square of a number up to `2 ^ 51`. -/
theorem exists_amount_sq {v : ℝ} (h : Magnitude x v) (hv : v ≤ 2 ^ 51) :
    ∃ w, Amount (x * x) w ∧ w ≤ 2 ^ (102 : ℤ) := by
  obtain ⟨sign, h⟩ := h
  obtain ⟨e, n, hrounded, hsquare⟩ := Amounts.sq h
  have hsq : v * v ≤ ((1 : ℕ) : ℝ) * 2 ^ (102 : ℤ) := by
    calc v * v ≤ 2 ^ 51 * 2 ^ 51 := mul_le_mul hv hv h.nonneg (by positivity)
      _ = ((1 : ℕ) : ℝ) * 2 ^ (102 : ℤ) := by norm_num
  have hle := hrounded.le (by norm_num) (by norm_num) hsq
  rw [Nat.cast_one, one_mul] at hle
  exact ⟨n * 2 ^ e, amounts_settle hsquare (hle.trans_lt (by norm_num)), hle⟩

/-- A vector whose components are at most `2 ^ 51` has a finite length, however many they are. -/
theorem isFinite_norm (h : ∀ x ∈ a, ∃ v, Magnitude x v ∧ v ≤ 2 ^ 51) :
    (norm a).isFinite = true := by
  have hdot : ∃ v, Amount (dot a a) v := by
    rw [dot_self]
    refine exists_amount_foldl_add_of_le (k := 102) (by norm_num) (by norm_num)
      amount_negativeZero (by positivity) fun y hy => ?_
    obtain ⟨x, hx, rfl⟩ := List.mem_map.1 hy
    obtain ⟨v, hv, hle⟩ := h x hx
    exact exists_amount_sq hv hle
  obtain ⟨v, hv⟩ := hdot
  obtain ⟨w, hw, _⟩ := hv.sqrt hv.le_greatest
  exact hw.magnitude.isFinite

/-! ## Vectors without a cosine -/

/-- Whether two vectors are so long that their cosine cannot be computed: they have a direction in
common space, but a length is infinite and the scalar product is not finite either. -/
structure Overflows (a b : Vector32) : Prop where
  length_eq : a.length = b.length
  left_ne_zero : (norm a == 0) = false
  right_ne_zero : (norm b == 0) = false
  norm_infinite : (norm a).isFinite = false ∨ (norm b).isFinite = false
  dot_infinite : (dot a b).isFinite = false

theorem Overflows.not_finite (h : Overflows a b) :
    ¬ ((norm a).isFinite = true ∧ (norm b).isFinite = true) := by
  rintro ⟨ha, hb⟩
  rcases h.norm_infinite with hnorm | hnorm
  · exact absurd ha (Bool.eq_false_iff.1 hnorm)
  · exact absurd hb (Bool.eq_false_iff.1 hnorm)

theorem cosine_eq_div (hlength : a.length = b.length) (ha : (norm a == 0) = false)
    (hb : (norm b == 0) = false) : cosine a b = dot a b / (norm a * norm b) := by
  have hempty : a.isEmpty = false := by
    cases a with
    | nil => exact absurd ha (by decide)
    | cons => rfl
  rw [cosine, hempty, ha, hb, bne_eq_false_iff_eq.2 hlength]
  rfl

theorem cosine_eq_zero
    (h : ¬ (a.length = b.length ∧ (norm a == 0) = false ∧ (norm b == 0) = false)) :
    cosine a b = 0 := by
  rw [cosine]
  split
  · rfl
  rename_i hlength
  split
  · rfl
  rename_i hzero
  rw [Bool.or_eq_true, not_or, bne_iff_ne, not_not] at hlength
  rw [Bool.or_eq_true, not_or, Bool.not_eq_true, Bool.not_eq_true] at hzero
  exact absurd ⟨hlength.1, hzero⟩ h

/-- The cosine of finite vectors is a number unless the computation overflows. -/
theorem isNaN_cosine_iff (ha : ∀ x ∈ a, x.isFinite = true) (hb : ∀ x ∈ b, x.isFinite = true) :
    (cosine a b).isNaN = true ↔ Overflows a b := by
  by_cases hdirected :
      a.length = b.length ∧ (norm a == 0) = false ∧ (norm b == 0) = false
  · obtain ⟨hlength, hane, hbne⟩ := hdirected
    by_cases hfinite : (norm a).isFinite = true ∧ (norm b).isFinite = true
    · rw [isNaN_cosine hfinite.1 hfinite.2]
      exact ⟨nofun, fun h => absurd hfinite h.not_finite⟩
    · rw [not_and_or, Bool.not_eq_true, Bool.not_eq_true] at hfinite
      have hproduct := mul_eq_infinity (nonneg_norm ha) (nonneg_norm hb) hane hbne hfinite
      rw [cosine_eq_div hlength hane hbne, isNaN_div_infinity hproduct, Bool.not_eq_true']
      exact ⟨fun hdot => ⟨hlength, hane, hbne, hfinite, hdot⟩, Overflows.dot_infinite⟩
  · rw [cosine_eq_zero hdirected]
    exact ⟨nofun, fun h => absurd ⟨h.length_eq, h.left_ne_zero, h.right_ne_zero⟩ hdirected⟩

/-! ## The range -/

/-- The similarity of two vectors with finite components lies between zero and one unless the
computation overflows; then it is not a number.  Components up to `2 ^ 51` do not overflow, in
vectors of any number of components. -/
theorem Similarity.cosine_range (ha : ∀ x ∈ a, x.isFinite = true)
    (hb : ∀ x ∈ b, x.isFinite = true) :
    (0 ≤ Similarity.cosine a b ∧ Similarity.cosine a b ≤ 1 ↔ ¬ Overflows a b) ∧
      ((Similarity.cosine a b).isNaN = true ↔ Overflows a b) ∧
      ((∀ x ∈ a ++ b, ∃ v, Magnitude x v ∧ v ≤ 2 ^ 51) → ¬ Overflows a b) := by
  have hnumber : (Similarity.cosine a b).isNaN = true ↔ Overflows a b := by
    rw [Similarity.cosine, isNaN_clampUnit, isNaN_cosine_iff ha hb]
  refine ⟨⟨fun hrange hoverflows => ?_, fun h => ?_⟩, hnumber, fun hle hoverflows => ?_⟩
  · have hnumber' := (isNaN_of_le hrange.1).2
    rw [hnumber.2 hoverflows] at hnumber'
    cases hnumber'
  · rw [← isNaN_cosine_iff ha hb, Bool.not_eq_true] at h
    exact clampUnit_mem h
  · rw [List.forall_mem_append] at hle
    exact hoverflows.not_finite ⟨isFinite_norm hle.1, isFinite_norm hle.2⟩

/-- The similarity of a vector with itself is not a number if the square of its only component is
beyond the range of the format. -/
theorem Similarity.cosine_range_long :
    Overflows [1e30] [1e30] ∧ (Similarity.cosine [1e30] [1e30]).isNaN = true := by
  have hfinite : ∀ x ∈ ([1e30] : Vector32), x.isFinite = true := by decide +kernel
  have hoverflows : Overflows [1e30] [1e30] :=
    ⟨rfl, by decide +kernel, by decide +kernel, .inl (by decide +kernel), by decide +kernel⟩
  exact ⟨hoverflows, (Similarity.cosine_range hfinite hfinite).2.1.2 hoverflows⟩

/-- Not all vectors with finite components have a similarity between zero and one. -/
theorem Similarity.cosine_outside_range :
    ¬ ∀ a b : Vector32, (∀ x ∈ a, x.isFinite = true) → (∀ x ∈ b, x.isFinite = true) →
      0 ≤ Similarity.cosine a b ∧ Similarity.cosine a b ≤ 1 := by
  intro h
  have hfinite : ∀ x ∈ ([1e30] : Vector32), x.isFinite = true := by decide +kernel
  have hle := (h [1e30] [1e30] hfinite hfinite).1
  revert hle
  decide +kernel

end CodeSurvey
