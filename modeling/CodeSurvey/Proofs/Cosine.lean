import CodeSurvey.Proofs.Binary32.Value
import CodeSurvey.Similarity

/-!
# When a cosine is a number

The cosine of two vectors is a quotient, and it is not a number if both its dividend and its divisor
are infinite.  This happens for vectors that are too long: the squares of their components are
beyond the range of the format.  As long as both lengths are finite the cosine is a number.

## Main results

* `isNaN_cosine`: vectors of finite length have a cosine.
* `isNaN_clampUnit`, `clampUnit_mem`: clamping leads to the unit interval unless there is no number.
-/

namespace CodeSurvey

open Binary32

variable {x s : Float32} {xs a b : Vector32}

/-! ## Sums -/

/-- What is not a number stays so in every sum. -/
theorem isNaN_foldl_add (h : s.isNaN = true ∨ ∃ x ∈ xs, x.isNaN = true) :
    (xs.foldl (· + ·) s).isNaN = true := by
  induction xs generalizing s with
  | nil => simpa using h
  | cons x xs ih =>
      refine ih ?_
      rcases h with hs | ⟨y, hy, hnan⟩
      · exact .inl (isNaN_add_left x hs)
      · rcases List.mem_cons.1 hy with rfl | hrest
        · exact .inl (isNaN_add_right s hnan)
        · exact .inr ⟨y, hrest, hnan⟩

/-- A sum of finite numbers is a number. -/
theorem isNaN_foldl_add_eq_false (hs : s.isNaN = false) (h : ∀ x ∈ xs, x.isFinite = true) :
    (xs.foldl (· + ·) s).isNaN = false := by
  induction xs generalizing s with
  | nil => exact hs
  | cons x xs ih =>
      rw [List.forall_mem_cons] at h
      exact ih (isNaN_add_eq_false hs h.1) h.2

/-- A finite sum has finite terms. -/
theorem isFinite_of_foldl_add (h : (xs.foldl (· + ·) s).isFinite = true) :
    s.isFinite = true ∧ ∀ x ∈ xs, x.isFinite = true := by
  induction xs generalizing s with
  | nil => exact ⟨h, by simp⟩
  | cons x xs ih =>
      obtain ⟨hsum, hrest⟩ := ih h
      obtain ⟨hs, hx⟩ := isFinite_of_isFinite_add hsum
      exact ⟨hs, List.forall_mem_cons.2 ⟨hx, hrest⟩⟩

/-- A finite sum of numbers that are not negative is not negative. -/
theorem exists_amount_foldl_add {v : ℝ} (hs : Amount s v)
    (h : ∀ x ∈ xs, ∃ w, Amount x w) (hfinite : (xs.foldl (· + ·) s).isFinite = true) :
    ∃ u, Amount (xs.foldl (· + ·) s) u := by
  induction xs generalizing s v with
  | nil => exact ⟨v, hs⟩
  | cons x xs ih =>
      rw [List.forall_mem_cons] at h
      obtain ⟨⟨w, hw⟩, hrest⟩ := h
      rw [List.foldl_cons] at hfinite ⊢
      obtain ⟨u, hu⟩ := hs.add hw (isFinite_of_foldl_add hfinite).1
      exact ih hu hrest hfinite

/-- A sum of numbers up to a power of two does not leave the range of the format, however many they
are: it stops growing before. -/
theorem exists_amount_foldl_add_of_le {k : ℤ} {v : ℝ} (hk : -149 ≤ k) (hk' : k ≤ 103)
    (hs : Amount s v) (hv : v ≤ 2 ^ (k + 24)) (h : ∀ x ∈ xs, ∃ w, Amount x w ∧ w ≤ 2 ^ k) :
    ∃ u, Amount (xs.foldl (· + ·) s) u := by
  induction xs generalizing s v with
  | nil => exact ⟨v, hs⟩
  | cons x xs ih =>
      rw [List.forall_mem_cons] at h
      obtain ⟨⟨w, hw, hwle⟩, hrest⟩ := h
      obtain ⟨u, hu, hule⟩ := hs.add_of_le hk hk' hv hw hwle
      exact ih hu hule hrest

/-! ## Lengths -/

theorem dot_self (a : Vector32) : dot a a = (a.map fun x => x * x).foldl (· + ·) negativeZero := by
  rw [dot, sum32, List.zipWith_self]

theorem amount_negativeZero : Amount negativeZero 0 := Amounts.zero .negative

/-- The components of a vector of finite length, and the square of the length. -/
theorem components_of_isFinite_norm (h : (norm a).isFinite = true) :
    (∀ x ∈ a, ∃ v, Magnitude x v ∧ v ≤ widest) ∧ ∃ v, Amount (dot a a) v := by
  have hdot : (dot a a).isFinite = true := isFinite_of_isFinite_sqrt h
  rw [dot_self] at hdot ⊢
  have hterms : ∀ x ∈ a, (∃ v, Magnitude x v ∧ v ≤ widest) ∧ ∃ w, Amount (x * x) w := by
    intro x hx
    have hsq := (isFinite_of_foldl_add hdot).2 (x * x) (List.mem_map_of_mem hx)
    obtain ⟨v, hv, _⟩ := exists_magnitude (isFinite_of_isFinite_sq hsq)
    obtain ⟨hle, hamount⟩ := hv.sq hsq
    exact ⟨⟨v, hv, hle⟩, hamount⟩
  refine ⟨fun x hx => (hterms x hx).1, exists_amount_foldl_add amount_negativeZero ?_ hdot⟩
  intro y hy
  obtain ⟨x, hx, rfl⟩ := List.mem_map.1 hy
  exact (hterms x hx).2

/-- The length of a vector of finite length. -/
theorem exists_amount_norm (h : (norm a).isFinite = true) :
    ∃ v, Amount (norm a) v ∧ v ≤ widest ∧ ((norm a == 0) = false → narrowest ≤ v) := by
  obtain ⟨_, v, hv⟩ := components_of_isFinite_norm h
  obtain ⟨w, hw, hle, hge⟩ := hv.sqrt hv.le_greatest
  refine ⟨w, hw, hle, fun hne => hge ?_⟩
  rintro rfl
  rw [norm, hv.sqrt_eq_zero] at hne
  cases hne

/-! ## Cosines -/

/-- Vectors of finite length have a cosine. -/
theorem isNaN_cosine (ha : (norm a).isFinite = true) (hb : (norm b).isFinite = true) :
    (cosine a b).isNaN = false := by
  rw [cosine]
  split
  · rfl
  split
  · rfl
  rename_i hzero
  rw [Bool.or_eq_true, not_or, Bool.not_eq_true, Bool.not_eq_true] at hzero
  obtain ⟨v, hv, hvle, hvge⟩ := exists_amount_norm ha
  obtain ⟨w, hw, hwle, hwge⟩ := exists_amount_norm hb
  have hproduct := hv.magnitude.isFinite_mul hw.magnitude hvle hwle
  refine isNaN_div_eq_false ?_ (isNaN_of_isFinite hproduct)
    (hv.mul_ne_zero hw (hvge hzero.1) (hwge hzero.2)) (.inr hproduct)
  refine isNaN_foldl_add_eq_false rfl ?_
  intro x hx
  rw [← List.map_uncurry_zip_eq_zipWith] at hx
  obtain ⟨⟨y, z⟩, hyz, rfl⟩ := List.mem_map.1 hx
  obtain ⟨hy, hz⟩ := List.of_mem_zip hyz
  obtain ⟨_, hymagnitude, hyle⟩ := (components_of_isFinite_norm ha).1 y hy
  obtain ⟨_, hzmagnitude, hzle⟩ := (components_of_isFinite_norm hb).1 z hz
  exact hymagnitude.isFinite_mul hzmagnitude hyle hzle

/-! ## Clamping -/

theorem clampUnit_of_isNaN (h : x.isNaN = true) : clampUnit x = x := by
  simp only [clampUnit, gt_iff_lt, if_neg (not_lt_of_isNaN (.inl h))]
  rw [if_neg (not_lt_of_isNaN (.inr h))]

/-- A clamped number lies in the unit interval. -/
theorem clampUnit_mem (h : x.isNaN = false) : 0 ≤ clampUnit x ∧ clampUnit x ≤ 1 := by
  simp only [clampUnit, gt_iff_lt]
  split
  · rename_i hneg
    rw [if_neg (by decide)]
    decide
  · rename_i hnonneg
    split
    · decide
    · rename_i hle
      exact ⟨le_of_not_lt h rfl hnonneg, le_of_not_lt rfl h hle⟩

theorem isNaN_clampUnit (x : Float32) : (clampUnit x).isNaN = x.isNaN := by
  cases h : x.isNaN with
  | true => rw [clampUnit_of_isNaN h, h]
  | false => exact (isNaN_of_le (clampUnit_mem h).1).2

end CodeSurvey
