import Mathlib

namespace Library

/-- The nearest integer, a tie to the even one. -/
def roundEven (x : ℚ) : ℤ :=
  if x - ⌊x⌋ < 1 / 2 then ⌊x⌋
  else if 1 / 2 < x - ⌊x⌋ then ⌊x⌋ + 1
  else if ⌊x⌋ % 2 = 0 then ⌊x⌋
  else ⌊x⌋ + 1

theorem floor_le_roundEven (x : ℚ) : ⌊x⌋ ≤ roundEven x := by
  unfold roundEven
  split_ifs <;> omega

theorem roundEven_le_floor (x : ℚ) : roundEven x ≤ ⌊x⌋ + 1 := by
  unfold roundEven
  split_ifs <;> omega

theorem roundEven_mono {x y : ℚ} (le : x ≤ y) : roundEven x ≤ roundEven y := by
  rcases (Int.floor_mono le).lt_or_eq with apart | same
  · calc roundEven x ≤ ⌊x⌋ + 1 := roundEven_le_floor x
      _ ≤ ⌊y⌋ := apart
      _ ≤ roundEven y := floor_le_roundEven y
  · unfold roundEven
    rw [same]
    split_ifs <;> first | omega | linarith

/-- The nearest integer is no further than the two around a number. -/
theorem abs_roundEven_sub_le (x : ℚ) : |roundEven x - x| ≤ x - ⌊x⌋ ∧ |roundEven x - x| ≤ ⌊x⌋ + 1 - x := by
  have below := Int.floor_le x
  have above := (Int.lt_floor_add_one x).le
  unfold roundEven
  split_ifs
  · rw [abs_sub_comm, abs_of_nonneg (by linarith)]
    exact ⟨le_rfl, by linarith⟩
  · push_cast
    rw [abs_of_nonneg (by linarith)]
    exact ⟨by linarith, le_rfl⟩
  · rw [abs_sub_comm, abs_of_nonneg (by linarith)]
    exact ⟨le_rfl, by linarith⟩
  · push_cast
    rw [abs_of_nonneg (by linarith)]
    exact ⟨by linarith, le_rfl⟩

theorem roundEven_intCast (n : ℤ) : roundEven n = n := by
  simp [roundEven]

/-- Numbers of `precision` digits to the base `radix`, the last of them at `least` or above. -/
structure Format where
  radix : ℕ
  precision : ℕ
  least : ℤ
  radix_gt_one : 1 < radix
  precision_pos : 0 < precision

namespace Format

variable (format : Format)

/-- The exponent of the last digit of a number as large as `x`. -/
def lastPlace (x : ℚ) : ℤ := max (Int.log format.radix x + 1 - format.precision) format.least

/-- The number nearest to `x`, when `x` is not negative. -/
def magnitude (x : ℚ) : ℚ :=
  roundEven (x / (format.radix : ℚ) ^ format.lastPlace x) * (format.radix : ℚ) ^ format.lastPlace x

def nearest (x : ℚ) : ℚ := if x < 0 then -format.magnitude (-x) else format.magnitude x

def Representable (x : ℚ) : Prop :=
  ∃ (digits : ℕ) (place : ℤ), digits < format.radix ^ format.precision ∧ format.least ≤ place ∧
    x = digits * (format.radix : ℚ) ^ place

theorem radix_pos : (0 : ℚ) < format.radix := by
  exact_mod_cast Nat.lt_of_succ_lt format.radix_gt_one

theorem one_le_radix : (1 : ℚ) ≤ format.radix := by
  exact_mod_cast Nat.le_of_lt format.radix_gt_one

theorem unit_pos (place : ℤ) : (0 : ℚ) < (format.radix : ℚ) ^ place := zpow_pos format.radix_pos place

variable {format} {x y : ℚ}

theorem nearest_of_nonneg (nonneg : 0 ≤ x) : format.nearest x = format.magnitude x := by
  rw [nearest, if_neg (not_lt.mpr nonneg)]

theorem magnitude_nonneg (nonneg : 0 ≤ x) : 0 ≤ format.magnitude x := by
  have unit := format.unit_pos (format.lastPlace x)
  have digits : (0 : ℤ) ≤ roundEven (x / (format.radix : ℚ) ^ format.lastPlace x) := by
    have := roundEven_mono (div_nonneg nonneg unit.le)
    rwa [show roundEven 0 = 0 from roundEven_intCast 0] at this
  exact mul_nonneg (by exact_mod_cast digits) unit.le

theorem nearest_nonneg (nonneg : 0 ≤ x) : 0 ≤ format.nearest x := by
  rw [nearest_of_nonneg nonneg]
  exact magnitude_nonneg nonneg

theorem nearest_nonpos (nonpos : x ≤ 0) : format.nearest x ≤ 0 := by
  rcases nonpos.lt_or_eq with negative | rfl
  · rw [nearest, if_pos negative, neg_nonpos]
    exact magnitude_nonneg (neg_nonneg.mpr nonpos)
  · rw [nearest_of_nonneg le_rfl, magnitude, zero_div, show roundEven 0 = 0 from roundEven_intCast 0]
    simp

theorem abs_nearest (x : ℚ) : |format.nearest x| = format.magnitude |x| := by
  by_cases negative : x < 0
  · rw [nearest, if_pos negative, abs_neg, abs_of_neg negative]
    exact abs_of_nonneg (magnitude_nonneg (neg_nonneg.mpr negative.le))
  · have nonneg := not_lt.mp negative
    rw [nearest_of_nonneg nonneg, abs_of_nonneg nonneg]
    exact abs_of_nonneg (magnitude_nonneg nonneg)

/-- A nonnegative number is less than the unit after its own digits. -/
theorem lt_unit (x : ℚ) : x < (format.radix : ℚ) ^ (format.lastPlace x + format.precision) := by
  have above : x < (format.radix : ℚ) ^ (Int.log format.radix x + 1) := Int.lt_zpow_succ_log_self format.radix_gt_one x
  apply above.trans_le
  apply zpow_le_zpow_right₀ format.one_le_radix
  have := le_max_left (Int.log format.radix x + 1 - format.precision) format.least
  rw [lastPlace]
  omega

theorem digits_le (x : ℚ) : roundEven (x / (format.radix : ℚ) ^ format.lastPlace x) ≤ (format.radix : ℤ) ^ format.precision := by
  have unit := format.unit_pos (format.lastPlace x)
  have below : x / (format.radix : ℚ) ^ format.lastPlace x ≤ ((format.radix : ℤ) ^ format.precision : ℤ) := by
    rw [div_le_iff₀ unit]
    push_cast
    rw [← zpow_natCast, ← zpow_add₀ format.radix_pos.ne', add_comm]
    exact (lt_unit x).le
  calc roundEven (x / (format.radix : ℚ) ^ format.lastPlace x) ≤ roundEven ((format.radix : ℤ) ^ format.precision : ℤ) :=
      roundEven_mono below
    _ = (format.radix : ℤ) ^ format.precision := roundEven_intCast _

theorem magnitude_le_unit (x : ℚ) : format.magnitude x ≤ (format.radix : ℚ) ^ (format.lastPlace x + format.precision) := by
  rw [magnitude, add_comm, zpow_add₀ format.radix_pos.ne', zpow_natCast]
  exact mul_le_mul_of_nonneg_right (by exact_mod_cast digits_le x) (format.unit_pos _).le

theorem lastPlace_mono (positive : 0 < x) (le : x ≤ y) : format.lastPlace x ≤ format.lastPlace y := by
  have logs : Int.log format.radix x ≤ Int.log format.radix y := Int.log_mono_right positive le
  unfold lastPlace
  omega

theorem leading_digit : (format.radix : ℚ) ^ (format.precision - 1 : ℤ) = ((format.radix : ℤ) ^ (format.precision - 1) : ℤ) := by
  have := format.precision_pos
  rw [show (format.precision - 1 : ℤ) = ((format.precision - 1 : ℕ) : ℤ) by omega, zpow_natCast]
  push_cast
  rfl

/-- Above the least place, a number has all its digits. -/
theorem leading_le (positive : 0 < x) (above : format.least < format.lastPlace x) :
    (format.radix : ℚ) ^ (format.precision - 1 : ℤ) * (format.radix : ℚ) ^ format.lastPlace x ≤ x := by
  have place : format.lastPlace x = Int.log format.radix x + 1 - format.precision := by
    unfold lastPlace at above ⊢
    omega
  rw [← zpow_add₀ format.radix_pos.ne', place, show (format.precision - 1 + (Int.log format.radix x + 1 - format.precision) : ℤ) =
    Int.log format.radix x by ring]
  exact Int.zpow_log_le_self format.radix_gt_one positive

theorem magnitude_mono (nonneg : 0 ≤ x) (le : x ≤ y) : format.magnitude x ≤ format.magnitude y := by
  rcases nonneg.eq_or_lt with rfl | positive
  · have zero : format.nearest 0 ≤ 0 := nearest_nonpos le_rfl
    rw [nearest_of_nonneg le_rfl] at zero
    exact zero.trans (magnitude_nonneg le)
  · have unit := format.unit_pos (format.lastPlace y)
    have places : format.lastPlace x ≤ format.lastPlace y := lastPlace_mono positive le
    rcases places.lt_or_eq with apart | same
    · -- The places differ, so that a power of the radix lies between the two.
      have below : (format.radix : ℚ) ^ (format.lastPlace x + format.precision) ≤
          (format.radix : ℚ) ^ (format.precision - 1 : ℤ) * (format.radix : ℚ) ^ format.lastPlace y := by
        rw [← zpow_add₀ format.radix_pos.ne']
        exact zpow_le_zpow_right₀ format.one_le_radix (by omega)
      have digits : (format.radix : ℤ) ^ (format.precision - 1) ≤ roundEven (y / (format.radix : ℚ) ^ format.lastPlace y) := by
        rw [← roundEven_intCast ((format.radix : ℤ) ^ (format.precision - 1))]
        apply roundEven_mono
        rw [le_div_iff₀ unit, ← leading_digit]
        exact leading_le (positive.trans_le le) (lt_of_le_of_lt (le_max_right _ _) apart)
      calc format.magnitude x ≤ (format.radix : ℚ) ^ (format.lastPlace x + format.precision) := magnitude_le_unit x
        _ ≤ (format.radix : ℚ) ^ (format.precision - 1 : ℤ) * (format.radix : ℚ) ^ format.lastPlace y := below
        _ ≤ format.magnitude y := by
          rw [leading_digit, magnitude]
          exact mul_le_mul_of_nonneg_right (by exact_mod_cast digits) unit.le
    · rw [magnitude, magnitude, same]
      apply mul_le_mul_of_nonneg_right _ unit.le
      exact_mod_cast roundEven_mono (div_le_div_of_nonneg_right le unit.le)

theorem nearest_mono (nonneg : 0 ≤ x) (le : x ≤ y) : format.nearest x ≤ format.nearest y := by
  rw [nearest_of_nonneg nonneg, nearest_of_nonneg (nonneg.trans le)]
  exact magnitude_mono nonneg le

theorem Representable.nonneg (representable : format.Representable x) : 0 ≤ x := by
  obtain ⟨digits, place, -, -, rfl⟩ := representable
  exact mul_nonneg (Nat.cast_nonneg _) (format.unit_pos _).le

theorem magnitude_fixed (representable : format.Representable x) : format.magnitude x = x := by
  have unit := format.unit_pos (format.lastPlace x)
  rcases representable.nonneg.eq_or_lt with rfl | positive
  · rw [magnitude, zero_div, show roundEven 0 = 0 from roundEven_intCast 0]
    simp
  obtain ⟨digits, place, few, above, rfl⟩ := representable
  have placed : format.lastPlace (digits * (format.radix : ℚ) ^ place) ≤ place := by
    have small : (digits * (format.radix : ℚ) ^ place) < (format.radix : ℚ) ^ (format.precision + place : ℤ) := by
      rw [zpow_add₀ format.radix_pos.ne', zpow_natCast]
      exact mul_lt_mul_of_pos_right (by exact_mod_cast few) (format.unit_pos place)
    have := (Int.lt_zpow_iff_log_lt format.radix_gt_one positive).mp small
    unfold lastPlace
    omega
  rw [magnitude]
  generalize format.lastPlace (digits * (format.radix : ℚ) ^ place) = last at placed unit
  obtain ⟨shift, rfl⟩ : ∃ shift : ℕ, place = last + shift := ⟨(place - last).toNat, by omega⟩
  have whole : digits * (format.radix : ℚ) ^ (last + shift : ℤ) =
      ((digits * format.radix ^ shift : ℕ) : ℤ) * (format.radix : ℚ) ^ last := by
    rw [zpow_add₀ format.radix_pos.ne', zpow_natCast]
    push_cast
    ring
  rw [whole, mul_div_cancel_right₀ _ unit.ne', roundEven_intCast]

theorem nearest_le (nonneg : 0 ≤ x) (representable : format.Representable y) (le : x ≤ y) : format.nearest x ≤ y := by
  calc format.nearest x ≤ format.nearest y := nearest_mono nonneg le
    _ = y := by rw [nearest_of_nonneg representable.nonneg, magnitude_fixed representable]

theorem nearest_fixed (representable : format.Representable x) : format.nearest x = x := by
  rw [nearest_of_nonneg representable.nonneg, magnitude_fixed representable]

/-- Rounding gives a number of the format. -/
theorem nearest_representable (nonneg : 0 ≤ x) : format.Representable (format.nearest x) := by
  rw [nearest_of_nonneg nonneg, magnitude]
  have unit := format.unit_pos (format.lastPlace x)
  have above : format.least ≤ format.lastPlace x := le_max_right _ _
  obtain ⟨digits, counted⟩ : ∃ digits : ℕ, roundEven (x / (format.radix : ℚ) ^ format.lastPlace x) = digits := by
    apply Int.eq_ofNat_of_zero_le
    have := roundEven_mono (div_nonneg nonneg unit.le)
    rwa [show roundEven 0 = 0 from roundEven_intCast 0] at this
  have few : roundEven (x / (format.radix : ℚ) ^ format.lastPlace x) ≤ (format.radix : ℤ) ^ format.precision := digits_le x
  rw [counted] at few ⊢
  rcases (show digits ≤ format.radix ^ format.precision by exact_mod_cast few).lt_or_eq with fewer | carry
  · exact ⟨digits, _, fewer, above, rfl⟩
  · -- The digits carry into one more: the next power of the radix.
    refine ⟨format.radix ^ (format.precision - 1), format.lastPlace x + 1, ?_, by omega, ?_⟩
    · exact Nat.pow_lt_pow_right format.radix_gt_one (Nat.sub_lt format.precision_pos one_pos)
    · obtain ⟨before, length⟩ := Nat.exists_eq_succ_of_ne_zero format.precision_pos.ne'
      rw [carry, length, Nat.succ_sub_one, zpow_add₀ format.radix_pos.ne', zpow_one]
      push_cast
      rw [Nat.succ_eq_add_one, pow_succ]
      ring

theorem representable_natCast {n : ℕ} (few : n < format.radix ^ format.precision) (whole : format.least ≤ 0) :
    format.Representable n :=
  ⟨n, 0, few, whole, by simp⟩

/-- The numbers of the format do not lie between the two multiples of the unit around a number. -/
theorem Representable.apart (representable : format.Representable y) (positive : 0 < x) :
    y ≤ ⌊x / (format.radix : ℚ) ^ format.lastPlace x⌋ * (format.radix : ℚ) ^ format.lastPlace x ∨
      (⌊x / (format.radix : ℚ) ^ format.lastPlace x⌋ + 1) * (format.radix : ℚ) ^ format.lastPlace x ≤ y := by
  have unit := format.unit_pos (format.lastPlace x)
  have fixed := magnitude_fixed representable
  rcases lt_or_ge (format.lastPlace y) (format.lastPlace x) with smaller | larger
  · left
    have leading := leading_le positive (lt_of_le_of_lt (le_max_right _ _) smaller)
    rw [leading_digit, ← le_div_iff₀ unit] at leading
    calc y = format.magnitude y := fixed.symm
      _ ≤ (format.radix : ℚ) ^ (format.lastPlace y + format.precision) := magnitude_le_unit y
      _ ≤ (format.radix : ℚ) ^ (format.precision - 1 : ℤ) * (format.radix : ℚ) ^ format.lastPlace x := by
        rw [← zpow_add₀ format.radix_pos.ne']
        exact zpow_le_zpow_right₀ format.one_le_radix (by omega)
      _ ≤ _ := by
        rw [leading_digit]
        exact mul_le_mul_of_nonneg_right (by exact_mod_cast Int.le_floor.mpr leading) unit.le
  · -- The number is a multiple of the unit.
    obtain ⟨shift, place⟩ : ∃ shift : ℕ, format.lastPlace y = format.lastPlace x + shift :=
      ⟨(format.lastPlace y - format.lastPlace x).toNat, by omega⟩
    have whole : y = ((roundEven (y / (format.radix : ℚ) ^ format.lastPlace y) * (format.radix : ℤ) ^ shift : ℤ) : ℚ) *
        (format.radix : ℚ) ^ format.lastPlace x := by
      conv_lhs => rw [← fixed, magnitude]
      conv_lhs => arg 2; rw [place, zpow_add₀ format.radix_pos.ne', zpow_natCast]
      push_cast
      ring
    generalize roundEven (y / (format.radix : ℚ) ^ format.lastPlace y) * (format.radix : ℤ) ^ shift = count at whole
    rw [whole]
    rcases le_or_gt count ⌊x / (format.radix : ℚ) ^ format.lastPlace x⌋ with low | high
    · left
      exact mul_le_mul_of_nonneg_right (by exact_mod_cast low) unit.le
    · right
      exact mul_le_mul_of_nonneg_right (by exact_mod_cast high) unit.le

theorem abs_magnitude_sub (x : ℚ) : |format.magnitude x - x| =
    |roundEven (x / (format.radix : ℚ) ^ format.lastPlace x) - x / (format.radix : ℚ) ^ format.lastPlace x| *
      (format.radix : ℚ) ^ format.lastPlace x := by
  have unit := format.unit_pos (format.lastPlace x)
  rw [← abs_of_pos unit, ← abs_mul, abs_of_pos unit, sub_mul, div_mul_cancel₀ _ unit.ne']
  rfl

/-- No number of the format is nearer. -/
theorem abs_nearest_sub_le (nonneg : 0 ≤ x) (representable : format.Representable y) : |format.nearest x - x| ≤ |y - x| := by
  rw [nearest_of_nonneg nonneg]
  rcases nonneg.eq_or_lt with rfl | positive
  · have zero : format.nearest 0 ≤ 0 := nearest_nonpos le_rfl
    rw [nearest_of_nonneg le_rfl] at zero
    rw [le_antisymm zero (magnitude_nonneg le_rfl), sub_zero, abs_zero]
    exact abs_nonneg _
  have unit := format.unit_pos (format.lastPlace x)
  have close := abs_roundEven_sub_le (x / (format.radix : ℚ) ^ format.lastPlace x)
  have whole := div_mul_cancel₀ x unit.ne'
  rw [abs_magnitude_sub]
  rcases representable.apart positive with below | above
  · calc _ ≤ (x / (format.radix : ℚ) ^ format.lastPlace x - ⌊x / (format.radix : ℚ) ^ format.lastPlace x⌋) *
          (format.radix : ℚ) ^ format.lastPlace x := mul_le_mul_of_nonneg_right close.1 unit.le
      _ ≤ x - y := by rw [sub_mul, whole]; linarith
      _ ≤ |y - x| := by rw [abs_sub_comm]; exact le_abs_self _
  · calc _ ≤ (⌊x / (format.radix : ℚ) ^ format.lastPlace x⌋ + 1 - x / (format.radix : ℚ) ^ format.lastPlace x) *
          (format.radix : ℚ) ^ format.lastPlace x := mul_le_mul_of_nonneg_right close.2 unit.le
      _ ≤ y - x := by rw [sub_mul, whole]; linarith
      _ ≤ |y - x| := le_abs_self _

/-- Rounding moves a number by half of its unit. -/
theorem nearest_le_add (nonneg : 0 ≤ x) : format.nearest x ≤ x + (format.radix : ℚ) ^ format.lastPlace x / 2 := by
  have unit := format.unit_pos (format.lastPlace x)
  have close := abs_roundEven_sub_le (x / (format.radix : ℚ) ^ format.lastPlace x)
  have moved : |format.nearest x - x| ≤ 1 / 2 * (format.radix : ℚ) ^ format.lastPlace x := by
    rw [nearest_of_nonneg nonneg, abs_magnitude_sub]
    exact mul_le_mul_of_nonneg_right (by linarith) unit.le
  have := le_abs_self (format.nearest x - x)
  linarith

/-- Rounding a number that has all its digits. -/
theorem nearest_le_mul (large : (format.radix : ℚ) ^ (format.least + format.precision - 1) ≤ x) :
    format.nearest x ≤ x * (1 + (format.radix : ℚ) ^ (1 - format.precision : ℤ) / 2) := by
  have positive : 0 < x := (format.unit_pos _).trans_le large
  have leading : (format.radix : ℚ) ^ (format.precision - 1 : ℤ) * (format.radix : ℚ) ^ format.lastPlace x ≤ x := by
    rcases (le_max_right (Int.log format.radix x + 1 - format.precision) format.least).lt_or_eq with above | least
    · exact leading_le positive above
    · rw [← zpow_add₀ format.radix_pos.ne', lastPlace, ← least]
      convert large using 2
      ring
  have unit : (format.radix : ℚ) ^ format.lastPlace x ≤ x * (format.radix : ℚ) ^ (1 - format.precision : ℤ) := by
    rw [show (1 - format.precision : ℤ) = -(format.precision - 1 : ℤ) by ring, zpow_neg, ← div_eq_mul_inv,
      le_div_iff₀ (format.unit_pos _), mul_comm]
    exact leading
  calc format.nearest x ≤ x + (format.radix : ℚ) ^ format.lastPlace x / 2 := nearest_le_add positive.le
    _ ≤ x * (1 + (format.radix : ℚ) ^ (1 - format.precision : ℤ) / 2) := by linarith

end Format

end Library
