import Mathlib

namespace Library.Decimal

def digit (c : Char) : Nat := c.toNat - '0'.toNat

/-- The number that a text of decimal digits writes. -/
def value (digits : List Char) : Nat := digits.foldl (fun n c => 10 * n + digit c) 0

/-- Written without a leading zero, zero itself apart. -/
def Canonical (digits : List Char) : Prop := 0 < digits.length ∧ (1 < digits.length → digits.head? ≠ some '0')

theorem digit_lt {c : Char} (h : c.isDigit) : digit c < 10 := by
  simp only [Char.isDigit, Bool.and_eq_true, decide_eq_true_eq] at h
  have high : c.toNat ≤ 57 := UInt32.le_iff_toNat_le.mp h.2
  have zero : '0'.toNat = 48 := rfl
  unfold digit
  omega

theorem digit_toNat {c : Char} (h : c.isDigit) : c.toNat = digit c + 48 := by
  simp only [Char.isDigit, Bool.and_eq_true, decide_eq_true_eq] at h
  have low : 48 ≤ c.toNat := UInt32.le_iff_toNat_le.mp h.1
  have zero : '0'.toNat = 48 := rfl
  unfold digit
  omega

theorem digit_injective {c d : Char} (hc : c.isDigit) (hd : d.isDigit) (h : digit c = digit d) : c = d := by
  have same : c.toNat = d.toNat := by rw [digit_toNat hc, digit_toNat hd, h]
  rw [← Char.ofNat_toNat c, ← Char.ofNat_toNat d, same]

theorem compare_digit {c d : Char} (hc : c.isDigit) (hd : d.isDigit) : compare c d = compare (digit c) (digit d) := by
  rcases Nat.lt_trichotomy (digit c) (digit d) with less | same | more
  · rw [compare_lt_iff_lt.mpr less, compare_lt_iff_lt, Char.lt_def, UInt32.lt_iff_toNat_lt]
    show c.toNat < d.toNat
    rw [digit_toNat hc, digit_toNat hd]
    omega
  · rw [digit_injective hc hd same, compare_eq_iff_eq.mpr rfl, compare_eq_iff_eq.mpr rfl]
  · rw [compare_gt_iff_gt.mpr more, compare_gt_iff_gt, Char.lt_def, UInt32.lt_iff_toNat_lt]
    show d.toNat < c.toNat
    rw [digit_toNat hc, digit_toNat hd]
    omega

theorem foldl_digits (n : Nat) (digits : List Char) :
    digits.foldl (fun n c => 10 * n + digit c) n = n * 10 ^ digits.length + value digits := by
  induction digits generalizing n with
  | nil => simp [value]
  | cons c rest ih =>
    simp only [value, List.foldl_cons, List.length_cons]
    rw [ih, ih (10 * 0 + digit c), pow_succ]
    ring

theorem value_cons (c : Char) (rest : List Char) :
    value (c :: rest) = digit c * 10 ^ rest.length + value rest := by
  rw [value, List.foldl_cons, foldl_digits, Nat.mul_zero, Nat.zero_add]

theorem value_lt {digits : List Char} (h : ∀ c ∈ digits, c.isDigit) : value digits < 10 ^ digits.length := by
  induction digits with
  | nil => decide
  | cons c rest ih =>
    have head := digit_lt (h c List.mem_cons_self)
    have tail := ih fun d hd => h d (List.mem_cons_of_mem _ hd)
    rw [value_cons, List.length_cons, pow_succ]
    have bound : digit c * 10 ^ rest.length ≤ 9 * 10 ^ rest.length := Nat.mul_le_mul_right _ (by omega)
    omega

theorem value_dropZeros (digits : List Char) : value (digits.dropWhile (· == '0')) = value digits := by
  induction digits with
  | nil => rfl
  | cons c rest ih =>
    by_cases zero : c = '0'
    · subst zero
      rw [List.dropWhile_cons_of_pos (by decide), ih, value_cons]
      have none : digit '0' = 0 := rfl
      rw [none, Nat.zero_mul, Nat.zero_add]
    · rw [List.dropWhile_cons_of_neg (by rw [beq_iff_eq]; exact zero)]

theorem compare_same_length {xs ys : List Char} (hx : ∀ c ∈ xs, c.isDigit) (hy : ∀ c ∈ ys, c.isDigit)
    (lengths : xs.length = ys.length) : compare xs ys = compare (value xs) (value ys) := by
  induction xs generalizing ys with
  | nil =>
    rw [List.length_eq_zero_iff.mp lengths.symm]
    rfl
  | cons c xs ih =>
    rcases ys with _ | ⟨d, ys⟩
    · cases lengths
    · have tails : xs.length = ys.length := Nat.succ.inj lengths
      have hxs : ∀ e ∈ xs, e.isDigit := fun e he => hx e (List.mem_cons_of_mem _ he)
      have hys : ∀ e ∈ ys, e.isDigit := fun e he => hy e (List.mem_cons_of_mem _ he)
      have left := value_lt hxs
      have right := value_lt hys
      rw [List.compare_cons_cons, compare_digit (hx c List.mem_cons_self) (hy d List.mem_cons_self), ih hxs hys tails,
        value_cons, value_cons, tails]
      rw [tails] at left
      rcases Nat.lt_trichotomy (digit c) (digit d) with less | same | more
      · have step : (digit c + 1) * 10 ^ ys.length ≤ digit d * 10 ^ ys.length := Nat.mul_le_mul_right _ less
        rw [compare_lt_iff_lt.mpr less, Ordering.lt_then, eq_comm, compare_lt_iff_lt]
        rw [Nat.add_mul] at step
        omega
      · rw [compare_eq_iff_eq.mpr same, Ordering.eq_then, same]
        rcases Nat.lt_trichotomy (value xs) (value ys) with below | equal | above
        · rw [compare_lt_iff_lt.mpr below, eq_comm, compare_lt_iff_lt]
          omega
        · rw [equal, compare_eq_iff_eq.mpr rfl, compare_eq_iff_eq.mpr rfl]
        · rw [compare_gt_iff_gt.mpr above, eq_comm, compare_gt_iff_gt]
          omega
      · have step : (digit d + 1) * 10 ^ ys.length ≤ digit c * 10 ^ ys.length := Nat.mul_le_mul_right _ more
        rw [compare_gt_iff_gt.mpr more, Ordering.gt_then, eq_comm, compare_gt_iff_gt]
        rw [Nat.add_mul] at step
        omega

theorem value_lt_of_shorter {xs ys : List Char} (hx : ∀ c ∈ xs, c.isDigit) (hy : ∀ c ∈ ys, c.isDigit)
    (some : 0 < xs.length) (canonical : Canonical ys) (shorter : xs.length < ys.length) : value xs < value ys := by
  rcases ys with _ | ⟨d, ys⟩
  · cases shorter
  · have length : xs.length ≤ ys.length := Nat.le_of_lt_succ shorter
    have positive : 0 < digit d := by
      apply Nat.pos_of_ne_zero
      intro zero
      apply canonical.2 (by omega)
      have first : d = '0' := digit_injective (hy d List.mem_cons_self) rfl zero
      rw [first, List.head?_cons]
    calc value xs < 10 ^ xs.length := value_lt hx
      _ ≤ 10 ^ ys.length := Nat.pow_le_pow_right (by decide) length
      _ ≤ digit d * 10 ^ ys.length := Nat.le_mul_of_pos_left _ positive
      _ ≤ value (d :: ys) := by
        rw [value_cons]
        exact Nat.le_add_right _ _

theorem compare_canonical {xs ys : List Char} (hx : ∀ c ∈ xs, c.isDigit) (hy : ∀ c ∈ ys, c.isDigit)
    (left : Canonical xs) (right : Canonical ys) :
    (compare xs.length ys.length).then (compare xs ys) = compare (value xs) (value ys) := by
  rcases Nat.lt_trichotomy xs.length ys.length with shorter | same | longer
  · rw [compare_lt_iff_lt.mpr shorter, Ordering.lt_then, eq_comm, compare_lt_iff_lt]
    exact value_lt_of_shorter hx hy left.1 right shorter
  · rw [compare_eq_iff_eq.mpr same, Ordering.eq_then]
    exact compare_same_length hx hy same
  · rw [compare_gt_iff_gt.mpr longer, Ordering.gt_then, eq_comm, compare_gt_iff_gt]
    exact value_lt_of_shorter hy hx right.1 left longer

end Library.Decimal
