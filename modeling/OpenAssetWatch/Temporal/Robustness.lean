import OpenAssetWatch.Temporal.Range
import OpenAssetWatch.Library.OrderStatistics

namespace OpenAssetWatch.Temporal

open Library

/-- A decimal that the context holds with a digit to spare, none of its places below the smallest normal one. -/
def WithinPrecision (value : ℚ) : Prop :=
  ∃ (digits : ℕ) (place : ℤ), digits < 10 ^ 27 ∧ -999999 ≤ place ∧ value = digits * 10 ^ place

section Precision

variable {value other : ℚ}

theorem WithinPrecision.representable (within : WithinPrecision value) : decimal28.Representable value := by
  obtain ⟨digits, place, few, above, rfl⟩ := within
  exact ⟨digits, place, few.trans (by decide), by show (-1000026 : ℤ) ≤ place; omega, by simp [decimal28]⟩

theorem WithinPrecision.double (within : WithinPrecision value) : decimal28.Representable (value + value) := by
  obtain ⟨digits, place, few, above, rfl⟩ := within
  refine ⟨digits + digits, place, ?_, by show (-1000026 : ℤ) ≤ place; omega, ?_⟩
  · show digits + digits < 10 ^ 28
    omega
  · simp only [decimal28]
    push_cast
    ring

theorem WithinPrecision.nonneg (within : WithinPrecision value) : 0 ≤ value := within.representable.nonneg

/-- The unit of the smallest normal place. -/
def smallestNormal : ℚ := decimal28.radix ^ (-999999 : ℤ)

theorem smallestNormal_pos : 0 < smallestNormal := decimal28.unit_pos _

/-- A number whose rounding keeps all its digits. -/
def Normal (x : ℚ) : Prop := x = 0 ∨ smallestNormal ≤ x

theorem WithinPrecision.whole (within : WithinPrecision value) : ∃ count : ℕ, value = count * smallestNormal := by
  obtain ⟨digits, place, -, above, rfl⟩ := within
  obtain ⟨shift, rfl⟩ : ∃ shift : ℕ, place = -999999 + shift := ⟨(place + 999999).toNat, by omega⟩
  refine ⟨digits * 10 ^ shift, ?_⟩
  rw [zpow_add₀ (by norm_num), zpow_natCast]
  show (digits : ℚ) * (smallestNormal * 10 ^ shift) = _
  push_cast
  ring

theorem WithinPrecision.sub (less : WithinPrecision value) (more : WithinPrecision other) (le : value ≤ other) :
    Normal (other - value) := by
  obtain ⟨few, rfl⟩ := less.whole
  obtain ⟨many, rfl⟩ := more.whole
  have counted : (few : ℚ) ≤ many := le_of_mul_le_mul_right le smallestNormal_pos
  rcases counted.eq_or_lt with same | apart
  · left
    rw [same, sub_self]
  · right
    have next : 1 ≤ (many : ℚ) - few := by
      have : (few : ℚ) + 1 ≤ many := by exact_mod_cast apart
      linarith
    calc smallestNormal = 1 * smallestNormal := (one_mul _).symm
      _ ≤ (many - few) * smallestNormal := mul_le_mul_of_nonneg_right next smallestNormal_pos.le
      _ = many * smallestNormal - few * smallestNormal := sub_mul _ _ _

theorem Normal.nonneg (normal : Normal value) : 0 ≤ value := by
  rcases normal with rfl | large
  · exact le_rfl
  · exact smallestNormal_pos.le.trans large

theorem Normal.mul (normal : Normal value) {factor : ℚ} (grows : 1 ≤ factor) : Normal (value * factor) := by
  rcases normal with rfl | large
  · left
    rw [zero_mul]
  · right
    exact large.trans (le_mul_of_one_le_right (smallestNormal_pos.le.trans large) grows)

theorem rounded28_le (normal : Normal value) : rounded28 value ≤ value * 1.0001 := by
  rcases normal with rfl | large
  · rw [rounded28, Format.nearest_fixed (zero_representable _), zero_mul]
  · have place : decimal28.least + decimal28.precision - 1 = -999999 := rfl
    have rounded : rounded28 value ≤ value * (1 + (decimal28.radix : ℚ) ^ (1 - decimal28.precision : ℤ) / 2) := by
      apply Format.nearest_le_mul
      rwa [place]
    apply rounded.trans
    apply mul_le_mul_of_nonneg_left _ (smallestNormal_pos.le.trans large)
    show 1 + ((10 : ℕ) : ℚ) ^ (1 - (28 : ℕ) : ℤ) / 2 ≤ 1.0001
    norm_num

theorem rounded28_le_mul {x : ℚ} (factor : ℚ) (nonneg : 0 ≤ x) (normal : Normal value) (grows : 1 ≤ factor) (le : x ≤ value * factor) :
    rounded28 x ≤ value * (factor * 1.0001) :=
  calc rounded28 x ≤ rounded28 (value * factor) := Format.nearest_mono nonneg le
    _ ≤ value * factor * 1.0001 := rounded28_le (normal.mul grows)
    _ = value * (factor * 1.0001) := mul_assoc _ _ _

end Precision

section Middle

variable {values : List ℚ} {bound : ℚ}

theorem middle_le (most : values.length < 2 * values.countP (· ≤ bound)) {i : ℕ} (early : i ≤ values.length / 2) :
    (values.insertionSort (· ≤ ·)).getD i 0 ≤ bound := by
  have total := List.countP_le_length (p := (· ≤ bound)) (l := values)
  have here : i < (values.insertionSort (· ≤ ·)).length := by
    rw [List.length_insertionSort]
    omega
  rw [List.getD_eq_getElem _ _ here]
  exact orderStatistic_le values bound here (by omega)

theorem le_middle (few : 2 * values.countP (· < bound) < values.length) {i : ℕ} (here : i < values.length)
    (late : values.length ≤ 2 * i + 2) : bound ≤ (values.insertionSort (· ≤ ·)).getD i 0 := by
  have inside : i < (values.insertionSort (· ≤ ·)).length := by rwa [List.length_insertionSort]
  rw [List.getD_eq_getElem _ _ inside]
  exact le_orderStatistic values bound inside (by omega)

theorem median_nonneg (nonneg : ∀ value ∈ values, 0 ≤ value) : 0 ≤ median values := by
  have within := sorted_of_forall nonneg le_rfl
  rw [median]
  split
  · exact within _
  · exact Format.nearest_nonneg (div_nonneg (Format.nearest_nonneg (add_nonneg (within _) (within _))) two_pos.le)

theorem median_le_or (nonneg : ∀ value ∈ values, 0 ≤ value) (most : values.length < 2 * values.countP (· ≤ bound)) :
    median values ≤ bound ∨ median values ≤ rounded28 (rounded28 (bound + bound) / 2) := by
  have within := sorted_of_forall nonneg le_rfl
  have length := List.length_insertionSort (· ≤ ·) values
  rw [median]
  split
  · left
    exact middle_le most (by omega)
  · right
    have low := middle_le most (i := (values.insertionSort (· ≤ ·)).length / 2 - 1) (by omega)
    have high := middle_le most (i := (values.insertionSort (· ≤ ·)).length / 2) (by omega)
    have sum := add_nonneg (within ((values.insertionSort (· ≤ ·)).length / 2 - 1)) (within ((values.insertionSort (· ≤ ·)).length / 2))
    apply Format.nearest_mono (div_nonneg (Format.nearest_nonneg sum) two_pos.le)
    exact div_le_div_of_nonneg_right (Format.nearest_mono sum (add_le_add low high)) two_pos.le

theorem median_le (nonneg : ∀ value ∈ values, 0 ≤ value) (most : values.length < 2 * values.countP (· ≤ bound))
    (single : decimal28.Representable bound) (double : decimal28.Representable (bound + bound)) : median values ≤ bound := by
  rcases median_le_or nonneg most with one | two
  · exact one
  · rw [rounded28, rounded28, Format.nearest_fixed double, add_self_div_two, Format.nearest_fixed single] at two
    exact two

theorem le_median (few : 2 * values.countP (· < bound) < values.length) (nonneg : 0 ≤ bound)
    (single : decimal28.Representable bound) (double : decimal28.Representable (bound + bound)) : bound ≤ median values := by
  have length := List.length_insertionSort (· ≤ ·) values
  rw [median]
  split
  · exact le_middle few (by omega) (by omega)
  · have low := le_middle few (i := (values.insertionSort (· ≤ ·)).length / 2 - 1) (by omega) (by omega)
    have high := le_middle few (i := (values.insertionSort (· ≤ ·)).length / 2) (by omega) (by omega)
    have sum : bound + bound ≤ rounded28 ((values.insertionSort (· ≤ ·)).getD ((values.insertionSort (· ≤ ·)).length / 2 - 1) 0 +
        (values.insertionSort (· ≤ ·)).getD ((values.insertionSort (· ≤ ·)).length / 2) 0) := by
      rw [← Format.nearest_fixed double]
      exact Format.nearest_mono (add_nonneg nonneg nonneg) (add_le_add low high)
    rw [← Format.nearest_fixed single]
    apply Format.nearest_mono nonneg
    linarith

theorem median_perm {permuted : List ℚ} (same : permuted.Perm values) : median permuted = median values := by
  rw [median, median, insertionSort_perm values same]

end Middle

/-- The median absolute deviation, and the numbers around the median before they are quantized. -/
def medianAbsoluteDeviation (values : List ℚ) : ℚ := median (values.map fun value => rounded28 |rounded28 (value - median values)|)

def halfWidth (values : List ℚ) : ℚ := rounded28 (rounded28 (medianAbsoluteDeviation values * 1.4826) * 3)

def lowerEnd (values : List ℚ) : ℚ := max 0 (rounded28 (median values - halfWidth values))

def upperEnd (values : List ℚ) : ℚ := rounded28 (median values + halfWidth values)

theorem robustExpectedRange_ends {values : List ℚ} (some : values ≠ []) :
    robustExpectedRange values = (do
      return (← roundedFloat (median values), ← roundedFloat (lowerEnd values), ← roundedFloat (upperEnd values))) := by
  have nonempty : values.isEmpty = false := by simpa using some
  rw [robustExpectedRange, nonempty]
  rfl

theorem deviation_nonneg (values : List ℚ) : 0 ≤ medianAbsoluteDeviation values := by
  apply median_nonneg
  intro deviation member
  obtain ⟨value, -, rfl⟩ := List.mem_map.mp member
  exact Format.nearest_nonneg (abs_nonneg _)

theorem halfWidth_nonneg (values : List ℚ) : 0 ≤ halfWidth values := by
  have deviation := deviation_nonneg values
  have scaled : 0 ≤ rounded28 (medianAbsoluteDeviation values * 1.4826) := Format.nearest_nonneg (mul_nonneg deviation (by norm_num))
  exact Format.nearest_nonneg (mul_nonneg scaled (by norm_num))

/-- Most of a sample lies between two values. -/
structure MostlyBetween (values : List ℚ) (least greatest : ℚ) : Prop where
  nonneg : ∀ value ∈ values, 0 ≤ value
  low : WithinPrecision least
  high : WithinPrecision greatest
  le : least ≤ greatest
  most : values.length < 2 * values.countP fun value => least ≤ value ∧ value ≤ greatest

namespace MostlyBetween

variable {values : List ℚ} {least greatest : ℚ} (between : MostlyBetween values least greatest)

include between

theorem most_le : values.length < 2 * values.countP (· ≤ greatest) := by
  have fewer : (values.countP fun value => least ≤ value ∧ value ≤ greatest) ≤ values.countP (· ≤ greatest) := by
    apply List.countP_mono_left
    intro value _ inside
    simp only [decide_eq_true_eq] at inside ⊢
    exact inside.2
  have := between.most
  omega

theorem few_lt : 2 * values.countP (· < least) < values.length := by
  have outside : values.countP (· < least) ≤ values.countP fun value => ¬(least ≤ value ∧ value ≤ greatest) := by
    apply List.countP_mono_left
    intro value _ below
    simp only [decide_eq_true_eq] at below ⊢
    exact fun inside => absurd inside.1 (not_le.mpr below)
  have split := List.length_eq_countP_add_countP (fun value : ℚ => least ≤ value ∧ value ≤ greatest) (l := values)
  have := between.most
  simp only [decide_not, decide_eq_true_eq] at outside split
  omega

theorem le_median : least ≤ median values :=
  Temporal.le_median between.few_lt between.low.nonneg between.low.representable between.low.double

theorem median_le : median values ≤ greatest :=
  Temporal.median_le between.nonneg between.most_le between.high.representable between.high.double

theorem deviation_le : medianAbsoluteDeviation values ≤ (greatest - least) * 1.001 := by
  have spread := between.low.sub between.high between.le
  have near := rounded28_le spread
  have deviations : ∀ value ∈ values.map fun value => rounded28 |rounded28 (value - median values)|, 0 ≤ value := by
    intro deviation member
    obtain ⟨value, -, rfl⟩ := List.mem_map.mp member
    exact Format.nearest_nonneg (abs_nonneg _)
  have most : (values.map fun value => rounded28 |rounded28 (value - median values)|).length <
      2 * (values.map fun value => rounded28 |rounded28 (value - median values)|).countP (· ≤ rounded28 (greatest - least)) := by
    have fewer : (values.countP fun value => least ≤ value ∧ value ≤ greatest) ≤
        (values.map fun value => rounded28 |rounded28 (value - median values)|).countP (· ≤ rounded28 (greatest - least)) := by
      rw [List.countP_map]
      apply List.countP_mono_left
      intro value _ inside
      simp only [Function.comp_apply, decide_eq_true_eq] at inside ⊢
      have away : |value - median values| ≤ greatest - least := by
        have := between.le_median
        have := between.median_le
        exact abs_le.mpr ⟨by linarith, by linarith⟩
      rw [rounded28, rounded28, Format.abs_nearest, ← Format.nearest_of_nonneg (abs_nonneg _),
        Format.nearest_fixed (Format.nearest_representable (abs_nonneg _))]
      exact Format.nearest_mono (abs_nonneg _) away
    have := between.most
    rw [List.length_map]
    omega
  rw [medianAbsoluteDeviation]
  have positive := spread.nonneg
  rcases median_le_or deviations most with one | two
  · linarith
  · have rounded : 0 ≤ rounded28 (greatest - least) := Format.nearest_nonneg positive
    have sum := rounded28_le_mul (2 * 1.0001) (add_nonneg rounded rounded) spread (by norm_num) (by linarith)
    have summed : 0 ≤ rounded28 (rounded28 (greatest - least) + rounded28 (greatest - least)) :=
      Format.nearest_nonneg (add_nonneg rounded rounded)
    have half := rounded28_le_mul (1.0001 * 1.0001) (div_nonneg summed two_pos.le) spread (by norm_num) (by linarith)
    linarith

theorem halfWidth_le : halfWidth values ≤ (greatest - least) * 4.5 := by
  have spread := between.low.sub between.high between.le
  have positive := spread.nonneg
  have deviation := between.deviation_le
  have scale : 0 ≤ medianAbsoluteDeviation values * 1.4826 := mul_nonneg (deviation_nonneg values) (by norm_num)
  have scaled := rounded28_le_mul (1.001 * 1.4826) scale spread (by norm_num) (by linarith)
  have triple : 0 ≤ rounded28 (medianAbsoluteDeviation values * 1.4826) * 3 := mul_nonneg (Format.nearest_nonneg scale) (by norm_num)
  have tripled := rounded28_le_mul (1.001 * 1.4826 * 1.0001 * 3) triple spread (by norm_num) (by linarith)
  rw [halfWidth]
  linarith

theorem upperEnd_le : upperEnd values ≤ median values + (greatest - least) * 10 := by
  have above := between.le_median
  have below := between.median_le
  have wide := between.halfWidth_le
  have positive := halfWidth_nonneg values
  have closest := Format.abs_nearest_sub_le (add_nonneg (between.low.nonneg.trans above) positive) between.high.representable
  have upper := (le_abs_self _).trans closest
  have distance : |greatest - (median values + halfWidth values)| ≤ greatest - least + halfWidth values :=
    abs_le.mpr ⟨by linarith, by linarith⟩
  rw [upperEnd, rounded28]
  linarith

theorem le_lowerEnd : median values - (greatest - least) * 10 ≤ lowerEnd values := by
  have above := between.le_median
  have below := between.median_le
  have wide := between.halfWidth_le
  have positive := halfWidth_nonneg values
  rcases le_total 0 (median values - halfWidth values) with inside | clamped
  · have closest := Format.abs_nearest_sub_le inside between.high.representable
    have lower := (neg_abs_le _).trans' (neg_le_neg closest)
    have distance : |greatest - (median values - halfWidth values)| ≤ greatest - least + halfWidth values :=
      abs_le.mpr ⟨by linarith, by linarith⟩
    apply le_trans _ (le_max_right _ _)
    rw [rounded28]
    linarith
  · apply le_trans _ (le_max_left _ _)
    have := between.le
    linarith

theorem upperEnd_small (small : greatest ≤ 10 ^ 21) : upperEnd values ≤ 9 * 10 ^ 21 := by
  have below := between.median_le
  have wide := between.halfWidth_le
  have positive := add_nonneg (median_nonneg between.nonneg) (halfWidth_nonneg values)
  apply Format.nearest_le positive
  · exact_mod_cast decimal_representable 9 (by norm_num) 21
  · have := between.low.nonneg
    linarith

theorem lowerEnd_small (small : greatest ≤ 10 ^ 21) : lowerEnd values ≤ 9 * 10 ^ 21 := by
  have below := between.median_le
  apply max_le (by norm_num)
  rcases le_total 0 (median values - halfWidth values) with inside | clamped
  · apply Format.nearest_le inside
    · exact_mod_cast decimal_representable 9 (by norm_num) 21
    · have := halfWidth_nonneg values
      linarith
  · exact (Format.nearest_nonpos clamped).trans (by norm_num)

end MostlyBetween

section Range

variable {values : List ℚ}

theorem median_le_upperEnd (nonneg : 0 ≤ median values) (representable : decimal28.Representable (median values)) :
    median values ≤ upperEnd values := by
  rw [upperEnd, ← Format.nearest_fixed representable]
  apply Format.nearest_mono nonneg
  have := halfWidth_nonneg values
  rw [Format.nearest_fixed representable]
  linarith

theorem lowerEnd_le_median (representable : decimal28.Representable (median values)) : lowerEnd values ≤ median values := by
  have positive := halfWidth_nonneg values
  apply max_le representable.nonneg
  rcases le_total 0 (median values - halfWidth values) with inside | clamped
  · exact Format.nearest_le inside representable (by linarith)
  · exact (Format.nearest_nonpos clamped).trans representable.nonneg

theorem roundedFloat_inv {x y : ℚ} (done : roundedFloat x = .ok y) : y = quantizedFloat x := by
  obtain ⟨-, rest⟩ := require_bind_eq_ok.mp done
  obtain ⟨-, finished⟩ := require_bind_eq_ok.mp rest
  exact (Except.ok.inj finished).symm

theorem roundedFloat_ok {x : ℚ} (nonneg : 0 ≤ x) (small : x ≤ 9 * 10 ^ 21) : roundedFloat x = .ok (quantizedFloat x) := by
  have scaled : 0 ≤ x * 10 ^ 6 := by positivity
  have quantized : halfUp (x * 10 ^ 6) ≤ 9 * 10 ^ 27 := by
    have bound : halfUp (9 * 10 ^ 27) = 9 * 10 ^ 27 := by norm_num [halfUp]
    rw [← bound]
    exact halfUp_mono scaled (by linarith)
  have few : (halfUp (x * 10 ^ 6)).natAbs < 10 ^ 28 := by
    have := halfUp_nonneg scaled
    omega
  have finite : isFinite (quantizedFloat x) = true := by
    have below : quantizedFloat x ≤ 2 ^ (73 : ℤ) := by
      apply Format.nearest_le (div_nonneg (by exact_mod_cast halfUp_nonneg scaled) (by positivity))
      · exact binary_representable 73 (by norm_num)
      · rw [div_le_iff₀ (by positivity)]
        calc (halfUp (x * 10 ^ 6) : ℚ) ≤ 9 * 10 ^ 27 := by exact_mod_cast quantized
          _ ≤ 2 ^ (73 : ℤ) * 10 ^ 6 := by norm_num
    rw [isFinite, decide_eq_true_iff, abs_of_nonneg (quantizedFloat_nonneg nonneg)]
    calc quantizedFloat x ≤ (2 : ℚ) ^ 73 := by exact_mod_cast below
      _ < 2 ^ 1024 := pow_lt_pow_right₀ (by norm_num) (by norm_num)
  apply require_bind_eq_ok.mpr ⟨decide_eq_true few, _⟩
  exact require_bind_eq_ok.mpr ⟨finite, rfl⟩

theorem robustExpectedRange_inv {expected lower upper : ℚ} (some : values ≠ [])
    (done : robustExpectedRange values = .ok (expected, lower, upper)) :
    expected = quantizedFloat (median values) ∧ lower = quantizedFloat (lowerEnd values) ∧
      upper = quantizedFloat (upperEnd values) := by
  rw [robustExpectedRange_ends some] at done
  obtain ⟨center, first, rest⟩ := bind_eq_ok.mp done
  obtain ⟨low, second, last⟩ := bind_eq_ok.mp rest
  obtain ⟨high, third, same⟩ := bind_eq_ok.mp last
  cases same
  exact ⟨roundedFloat_inv first, roundedFloat_inv second, roundedFloat_inv third⟩

theorem robustExpectedRange_perm {permuted : List ℚ} (same : permuted.Perm values) :
    robustExpectedRange permuted = robustExpectedRange values := by
  have empty : permuted.isEmpty = values.isEmpty := by
    rw [Bool.eq_iff_iff, List.isEmpty_iff_length_eq_zero, List.isEmpty_iff_length_eq_zero, same.length_eq]
  have deviations := median_perm (same.map fun value => rounded28 |rounded28 (value - median values)|)
  simp only [robustExpectedRange, empty, median_perm same, deviations]

namespace MostlyBetween

variable {least greatest : ℚ} (between : MostlyBetween values least greatest)

include between

theorem nonempty : values ≠ [] := by
  have := between.most
  rintro rfl
  simp at this

theorem ok (small : greatest ≤ 10 ^ 21) : ∃ range, robustExpectedRange values = .ok range := by
  have center := median_nonneg between.nonneg
  have below := between.median_le
  have lower : 0 ≤ lowerEnd values := le_max_left _ _
  have upper : 0 ≤ upperEnd values := Format.nearest_nonneg (add_nonneg center (halfWidth_nonneg values))
  rw [robustExpectedRange_ends between.nonempty, roundedFloat_ok center (by linarith),
    roundedFloat_ok lower (between.lowerEnd_small small), roundedFloat_ok upper (between.upperEnd_small small)]
  exact ⟨_, rfl⟩

theorem robust {expected lower upper : ℚ} (done : robustExpectedRange values = .ok (expected, lower, upper)) :
    quantizedFloat least ≤ expected ∧ expected ≤ quantizedFloat greatest ∧
      ∃ low high, 0 ≤ low ∧ lower = quantizedFloat low ∧ upper = quantizedFloat high ∧ high - low ≤ (greatest - least) * 20 := by
  obtain ⟨rfl, rfl, rfl⟩ := robustExpectedRange_inv between.nonempty done
  have low := between.le_lowerEnd
  have high := between.upperEnd_le
  exact ⟨quantizedFloat_mono between.low.nonneg between.le_median,
    quantizedFloat_mono (median_nonneg between.nonneg) between.median_le,
    lowerEnd values, upperEnd values, le_max_left _ _, rfl, rfl, by linarith⟩

end MostlyBetween

theorem mostlyBetween_of_kept {kept new : List ℚ} {least greatest : ℚ} (same : values.Perm (kept ++ new))
    (fewer : new.length < kept.length) (within : ∀ value ∈ kept, WithinPrecision value) (nonneg : ∀ value ∈ new, 0 ≤ value)
    (first : least ∈ kept) (last : greatest ∈ kept) (bounds : ∀ value ∈ kept, least ≤ value ∧ value ≤ greatest) :
    MostlyBetween values least greatest where
  nonneg value member := by
    rcases List.mem_append.mp (same.mem_iff.mp member) with old | other
    · exact (within value old).nonneg
    · exact nonneg value other
  low := within least first
  high := within greatest last
  le := (bounds least first).2
  most := by
    have all : kept.countP (fun value => least ≤ value ∧ value ≤ greatest) = kept.length :=
      List.countP_eq_length.mpr fun value member => decide_eq_true (bounds value member)
    rw [same.countP_eq, same.length_eq, List.countP_append, List.length_append, all]
    omega

/-- A range holds its expected value, in whatever order the values come, and does not follow a minority of them. -/
theorem robustExpectedRange_robust (some : values ≠ []) (within : ∀ value ∈ values, WithinPrecision value) :
    ((∀ value ∈ values, value ≤ 10 ^ 21) → ∃ range, robustExpectedRange values = .ok range) ∧
    (∀ expected lower upper, robustExpectedRange values = .ok (expected, lower, upper) →
      0 ≤ lower ∧ lower ≤ expected ∧ expected ≤ upper) ∧
    (∀ permuted : List ℚ, permuted.Perm values → robustExpectedRange permuted = robustExpectedRange values) ∧
    ∀ kept old new replaced : List ℚ, values.Perm (kept ++ old) → replaced.Perm (kept ++ new) → new.length = old.length →
      old.length < kept.length → (∀ value ∈ new, 0 ≤ value) →
      ∀ least ∈ kept, ∀ greatest ∈ kept, (∀ value ∈ kept, least ≤ value ∧ value ≤ greatest) →
        (greatest ≤ 10 ^ 21 → ∃ range, robustExpectedRange replaced = .ok range) ∧
        ∀ expected lower upper, robustExpectedRange replaced = .ok (expected, lower, upper) →
          quantizedFloat least ≤ expected ∧ expected ≤ quantizedFloat greatest ∧
            ∃ low high, 0 ≤ low ∧ lower = quantizedFloat low ∧ upper = quantizedFloat high ∧
              high - low ≤ (greatest - least) * 20 := by
  refine ⟨fun small => ?_, fun expected lower upper done => ?_, fun permuted same => robustExpectedRange_perm same, ?_⟩
  · -- The values themselves are all kept.
    have nonempty := (List.toFinset_nonempty_iff values).mpr some
    obtain ⟨least, first, low⟩ := values.toFinset.exists_min_image id nonempty
    obtain ⟨greatest, last, high⟩ := values.toFinset.exists_max_image id nonempty
    have whole : values.Perm (values ++ []) := by rw [List.append_nil]
    have between := mostlyBetween_of_kept whole (List.length_pos_iff.mpr some) within (by simp) (List.mem_toFinset.mp first)
      (List.mem_toFinset.mp last) fun value member =>
        ⟨low value (List.mem_toFinset.mpr member), high value (List.mem_toFinset.mpr member)⟩
    exact between.ok (small greatest (List.mem_toFinset.mp last))
  · have representable := median_representable fun value member => (within value member).representable
    obtain ⟨rfl, rfl, rfl⟩ := robustExpectedRange_inv some done
    exact ⟨quantizedFloat_nonneg (le_max_left _ _), quantizedFloat_mono (le_max_left _ _) (lowerEnd_le_median representable),
      quantizedFloat_mono representable.nonneg (median_le_upperEnd representable.nonneg representable)⟩
  · intro kept old new replaced listed same length fewer nonneg least first greatest last bounds
    have between := mostlyBetween_of_kept same (length ▸ fewer)
      (fun value member => within value (listed.mem_iff.mpr (List.mem_append_left _ member))) nonneg first last bounds
    exact ⟨between.ok, fun _ _ _ done => between.robust done⟩

theorem withinPrecision_natCast {n : ℕ} (small : n < 10 ^ 27) : WithinPrecision n :=
  ⟨n, 0, small, by norm_num, by simp⟩

theorem robustExpectedRange_robust_outlier : ∃ expected lower upper,
    robustExpectedRange [10, 1000, 12] = .ok (expected, lower, upper) ∧
      quantizedFloat 10 ≤ expected ∧ expected ≤ quantizedFloat 12 := by
  have counts : ∀ value ∈ [(10 : ℚ), 12, 11], WithinPrecision value := by
    intro value member
    simp only [List.mem_cons, List.not_mem_nil, or_false] at member
    rcases member with rfl | rfl | rfl
    · exact withinPrecision_natCast (n := 10) (by norm_num)
    · exact withinPrecision_natCast (n := 12) (by norm_num)
    · exact withinPrecision_natCast (n := 11) (by norm_num)
  obtain ⟨total, inside⟩ := (robustExpectedRange_robust (List.cons_ne_nil _ _) counts).2.2.2 [10, 12] [11] [1000] [10, 1000, 12]
    (List.Perm.refl _) ((List.Perm.swap _ _ []).cons 10) rfl (by simp) (by simp) 10 (by simp) 12 (by simp) (by norm_num)
  obtain ⟨⟨expected, lower, upper⟩, done⟩ := total (by norm_num)
  exact ⟨expected, lower, upper, done, (inside expected lower upper done).1, (inside expected lower upper done).2.1⟩

end Range

end OpenAssetWatch.Temporal
