import OpenAssetWatch.Temporal.Expectation

namespace OpenAssetWatch.Temporal

open Library

section Median

variable {values : List ℚ} {bound : ℚ}

theorem zero_representable (format : Format) : format.Representable 0 :=
  ⟨0, format.least, pow_pos (Nat.lt_of_succ_lt format.radix_gt_one) _, le_rfl, by simp⟩

theorem getD_of_forall {property : ℚ → Prop} (all : ∀ value ∈ values, property value) (zero : property 0) (i : ℕ) :
    property (values.getD i 0) := by
  rcases lt_or_ge i values.length with here | past
  · rw [List.getD_eq_getElem _ _ here]
    exact all _ (List.getElem_mem here)
  · rwa [List.getD_eq_default _ _ past]

theorem sorted_of_forall {property : ℚ → Prop} (all : ∀ value ∈ values, property value) (zero : property 0) (i : ℕ) :
    property ((values.insertionSort (· ≤ ·)).getD i 0) :=
  getD_of_forall (fun value member => all value ((List.mem_insertionSort _).mp member)) zero i

theorem median_bounds (inside : ∀ value ∈ values, 0 ≤ value ∧ value ≤ bound) (nonneg : 0 ≤ bound)
    (single : decimal28.Representable bound) (double : decimal28.Representable (2 * bound)) :
    0 ≤ median values ∧ median values ≤ bound := by
  have within := sorted_of_forall inside ⟨le_rfl, nonneg⟩
  rw [median]
  split
  · exact within _
  · have low := within ((values.insertionSort (· ≤ ·)).length / 2 - 1)
    have high := within ((values.insertionSort (· ≤ ·)).length / 2)
    have sum : rounded28 ((values.insertionSort (· ≤ ·)).getD ((values.insertionSort (· ≤ ·)).length / 2 - 1) 0 +
        (values.insertionSort (· ≤ ·)).getD ((values.insertionSort (· ≤ ·)).length / 2) 0) ≤ 2 * bound :=
      Format.nearest_le (add_nonneg low.1 high.1) double (by linarith)
    have positive : 0 ≤ rounded28 ((values.insertionSort (· ≤ ·)).getD ((values.insertionSort (· ≤ ·)).length / 2 - 1) 0 +
        (values.insertionSort (· ≤ ·)).getD ((values.insertionSort (· ≤ ·)).length / 2) 0) :=
      Format.nearest_nonneg (add_nonneg low.1 high.1)
    exact ⟨Format.nearest_nonneg (div_nonneg positive two_pos.le),
      Format.nearest_le (div_nonneg positive two_pos.le) single (by linarith)⟩

theorem median_representable (all : ∀ value ∈ values, decimal28.Representable value) : decimal28.Representable (median values) := by
  have within := sorted_of_forall all (zero_representable _)
  rw [median]
  split
  · exact within _
  · apply Format.nearest_representable
    exact div_nonneg (Format.nearest_nonneg (add_nonneg (within _).nonneg (within _).nonneg)) two_pos.le

end Median

section Rounded

theorem decimal_representable (digit : ℕ) (few : digit < 10 ^ 28) (place : ℕ) :
    decimal28.Representable (digit * 10 ^ place) :=
  ⟨digit, place, few, by show (-1000026 : ℤ) ≤ place; omega, by simp [decimal28]⟩

theorem binary_representable (place : ℤ) (above : -1074 ≤ place) : binary64.Representable (2 ^ place) :=
  ⟨1, place, by decide, above, by simp [binary64]⟩

theorem halfUp_mono {x y : ℚ} (nonneg : 0 ≤ x) (le : x ≤ y) : halfUp x ≤ halfUp y := by
  rw [halfUp, halfUp, if_pos nonneg, if_pos (nonneg.trans le)]
  exact Int.floor_mono (by linarith)

theorem halfUp_nonneg {x : ℚ} (nonneg : 0 ≤ x) : 0 ≤ halfUp x := by
  rw [halfUp, if_pos nonneg]
  exact Int.floor_nonneg.mpr (by linarith)

/-- The float of a quantized number. -/
def quantizedFloat (value : ℚ) : ℚ := float (halfUp (value * 10 ^ 6) / 10 ^ 6)

theorem quantizedFloat_mono {x y : ℚ} (nonneg : 0 ≤ x) (le : x ≤ y) : quantizedFloat x ≤ quantizedFloat y := by
  apply Format.nearest_mono
  · exact div_nonneg (by exact_mod_cast halfUp_nonneg (by positivity)) (by positivity)
  · apply div_le_div_of_nonneg_right _ (by positivity)
    exact Int.cast_le.mpr (halfUp_mono (by positivity) (mul_le_mul_of_nonneg_right le (by positivity)))

theorem quantizedFloat_nonneg {x : ℚ} (nonneg : 0 ≤ x) : 0 ≤ quantizedFloat x :=
  Format.nearest_nonneg (div_nonneg (by exact_mod_cast halfUp_nonneg (by positivity)) (by positivity))

/-- The floats of a range are no larger than that, and not below a millionth unless they are zero. -/
structure InRange (x : ℚ) : Prop where
  nonneg : 0 ≤ x
  le : x ≤ 2 ^ (67 : ℤ)
  apart : x ≠ 0 → 2 ^ (-20 : ℤ) ≤ x

theorem quantizedFloat_inRange {x : ℚ} (nonneg : 0 ≤ x) (le : x ≤ 10 ^ 20) : InRange (quantizedFloat x) := by
  refine ⟨quantizedFloat_nonneg nonneg, ?_, fun nonzero => ?_⟩
  · apply Format.nearest_le
    · exact div_nonneg (by exact_mod_cast halfUp_nonneg (by positivity)) (by positivity)
    · exact binary_representable 67 (by norm_num)
    · have small : halfUp (x * 10 ^ 6) ≤ 10 ^ 26 := by
        have := halfUp_mono (by positivity) (show x * 10 ^ 6 ≤ 10 ^ 26 by linarith)
        apply this.trans
        norm_num [halfUp]
      rw [div_le_iff₀ (by positivity)]
      calc (halfUp (x * 10 ^ 6) : ℚ) ≤ 10 ^ 26 := by exact_mod_cast small
        _ ≤ 2 ^ (67 : ℤ) * 10 ^ 6 := by norm_num
  · have positive : 1 ≤ halfUp (x * 10 ^ 6) := by
      have := halfUp_nonneg (show 0 ≤ x * 10 ^ 6 by positivity)
      by_contra below
      have zero : halfUp (x * 10 ^ 6) = 0 := by omega
      apply nonzero
      rw [quantizedFloat, zero, Int.cast_zero, zero_div, float]
      exact Format.nearest_fixed (zero_representable _)
    have fixed := Format.nearest_fixed (binary_representable (-20) (by norm_num))
    rw [← fixed]
    apply Format.nearest_mono (by positivity)
    rw [le_div_iff₀ (by positivity)]
    calc (2 : ℚ) ^ (-20 : ℤ) * 10 ^ 6 ≤ 1 := by norm_num
      _ ≤ halfUp (x * 10 ^ 6) := by exact_mod_cast positive

theorem InRange.isFinite {x : ℚ} (range : InRange x) : isFinite x = true := by
  rw [Temporal.isFinite, decide_eq_true_iff, abs_of_nonneg range.nonneg]
  calc x ≤ (2 : ℚ) ^ 67 := by exact_mod_cast range.le
    _ < 2 ^ 1024 := pow_lt_pow_right₀ (by norm_num) (by norm_num)

theorem roundedFloat_eq {x : ℚ} (nonneg : 0 ≤ x) (le : x ≤ 10 ^ 20) : roundedFloat x = .ok (quantizedFloat x) := by
  have few : (halfUp (x * 10 ^ 6)).natAbs < 10 ^ 28 := by
    have small := halfUp_mono (by positivity) (show x * 10 ^ 6 ≤ 10 ^ 26 by linarith)
    have := halfUp_nonneg (show 0 ≤ x * 10 ^ 6 by positivity)
    have bound : halfUp (10 ^ 26) = 10 ^ 26 := by norm_num [halfUp]
    omega
  have finite : isFinite (float (halfUp (x * 10 ^ 6) / 10 ^ 6)) = true := (quantizedFloat_inRange nonneg le).isFinite
  simp only [roundedFloat, few, finite, decide_true]
  rfl

theorem robustExpectedRange_eq {values : List ℚ} (some : values ≠ [])
    (counts : ∀ value ∈ values, ∃ count : ℕ, value = count ∧ count < 2 ^ 63) :
    ∃ expected lower upper, robustExpectedRange values = .ok (expected, lower, upper) ∧
      InRange expected ∧ InRange lower ∧ InRange upper ∧ lower ≤ expected ∧ expected ≤ upper := by
  have representable : ∀ value ∈ values, decimal28.Representable value := by
    rintro value member
    obtain ⟨count, rfl, small⟩ := counts value member
    exact Format.representable_natCast (small.trans (by decide)) (by decide)
  have bounded : ∀ value ∈ values, 0 ≤ value ∧ value ≤ (10 : ℚ) ^ 19 := by
    rintro value member
    obtain ⟨count, rfl, small⟩ := counts value member
    refine ⟨Nat.cast_nonneg _, ?_⟩
    calc (count : ℚ) ≤ 2 ^ 63 := by exact_mod_cast small.le
      _ ≤ 10 ^ 19 := by norm_num
  have ten : decimal28.Representable (10 ^ 19) := by simpa using decimal_representable 1 (by norm_num) 19
  have twenty : decimal28.Representable (2 * 10 ^ 19) := decimal_representable 2 (by norm_num) 19
  have center := median_bounds bounded (by positivity) ten twenty
  have centered := median_representable representable
  generalize hcenter : median values = middle at center centered
  have deviations : ∀ value ∈ values.map fun value => rounded28 |rounded28 (value - middle)|, 0 ≤ value ∧ value ≤ (10 : ℚ) ^ 19 := by
    intro deviation member
    obtain ⟨value, listed, rfl⟩ := List.mem_map.mp member
    have inside := bounded value listed
    have away : |rounded28 (value - middle)| ≤ 10 ^ 19 := by
      rw [rounded28, Format.abs_nearest, ← Format.nearest_of_nonneg (abs_nonneg _)]
      exact Format.nearest_le (abs_nonneg _) ten (abs_le.mpr ⟨by linarith, by linarith⟩)
    exact ⟨Format.nearest_nonneg (abs_nonneg _), Format.nearest_le (abs_nonneg _) ten away⟩
  have spread := median_bounds deviations (by positivity) ten twenty
  generalize hspread : median (values.map fun value => rounded28 |rounded28 (value - middle)|) = deviation at spread
  have scaled : 0 ≤ rounded28 (deviation * 1.4826) ∧ rounded28 (deviation * 1.4826) ≤ 2 * 10 ^ 19 := by
    have nonneg : 0 ≤ deviation * 1.4826 := mul_nonneg spread.1 (by norm_num)
    exact ⟨Format.nearest_nonneg nonneg, Format.nearest_le nonneg twenty (by linarith)⟩
  have width : 0 ≤ rounded28 (rounded28 (deviation * 1.4826) * 3) ∧ rounded28 (rounded28 (deviation * 1.4826) * 3) ≤ 6 * 10 ^ 19 := by
    have nonneg : 0 ≤ rounded28 (deviation * 1.4826) * 3 := mul_nonneg scaled.1 (by norm_num)
    exact ⟨Format.nearest_nonneg nonneg, Format.nearest_le nonneg (decimal_representable 6 (by norm_num) 19) (by linarith)⟩
  generalize hwidth : rounded28 (rounded28 (deviation * 1.4826) * 3) = half at width
  have lower : 0 ≤ max 0 (rounded28 (middle - half)) ∧ max 0 (rounded28 (middle - half)) ≤ middle := by
    refine ⟨le_max_left _ _, max_le center.1 ?_⟩
    rcases le_total 0 (middle - half) with nonneg | nonpos
    · exact Format.nearest_le nonneg centered (by linarith)
    · exact (Format.nearest_nonpos nonpos).trans center.1
  have upper : middle ≤ rounded28 (middle + half) ∧ rounded28 (middle + half) ≤ 7 * 10 ^ 19 := by
    constructor
    · calc middle = rounded28 middle := (Format.nearest_fixed centered).symm
        _ ≤ rounded28 (middle + half) := Format.nearest_mono center.1 (by linarith)
    · exact Format.nearest_le (by linarith) (decimal_representable 7 (by norm_num) 19) (by linarith)
  have middleSmall : middle ≤ 10 ^ 20 := center.2.trans (by norm_num)
  have upperSmall : rounded28 (middle + half) ≤ 10 ^ 20 := upper.2.trans (by norm_num)
  refine ⟨quantizedFloat middle, quantizedFloat (max 0 (rounded28 (middle - half))),
    quantizedFloat (rounded28 (middle + half)), ?_, quantizedFloat_inRange center.1 middleSmall,
    quantizedFloat_inRange lower.1 (lower.2.trans middleSmall), quantizedFloat_inRange (center.1.trans upper.1) upperSmall,
    quantizedFloat_mono lower.1 lower.2, quantizedFloat_mono center.1 upper.1⟩
  have nonempty : values.isEmpty = false := by simpa using some
  simp only [robustExpectedRange, hcenter, hspread, hwidth, roundedFloat_eq center.1 middleSmall,
    roundedFloat_eq lower.1 (lower.2.trans middleSmall), roundedFloat_eq (center.1.trans upper.1) upperSmall, nonempty]
  rfl

end Rounded

end OpenAssetWatch.Temporal
