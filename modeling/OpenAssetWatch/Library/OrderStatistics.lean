import Mathlib

namespace Library

variable {α : Type*} [LinearOrder α]

section Sorted

variable {values : List α}

theorem getElem_le_of_lt_countP (sorted : values.Pairwise (· ≤ ·)) (bound : α) (i : ℕ) (here : i < values.length)
    (few : i < values.countP (· ≤ bound)) : values[i] ≤ bound := by
  induction values generalizing i with
  | nil => simp at here
  | cons head tail ih =>
    have order := List.pairwise_cons.mp sorted
    by_cases below : head ≤ bound
    · cases i with
      | zero => exact below
      | succ i =>
        rw [List.countP_cons_of_pos (by simpa using below)] at few
        exact ih order.2 i (Nat.lt_of_succ_lt_succ here) (by omega)
    · -- Nothing after a value past the bound is within it.
      have none : tail.countP (· ≤ bound) = 0 := by
        apply List.countP_eq_zero.mpr
        intro value member within
        exact below ((order.1 value member).trans (by simpa using within))
      rw [List.countP_cons_of_neg (by simpa using below), none] at few
      omega

theorem le_getElem_of_countP_le (sorted : values.Pairwise (· ≤ ·)) (bound : α) (i : ℕ) (here : i < values.length)
    (many : values.countP (· < bound) ≤ i) : bound ≤ values[i] := by
  induction values generalizing i with
  | nil => simp at here
  | cons head tail ih =>
    have order := List.pairwise_cons.mp sorted
    by_cases below : head < bound
    · rw [List.countP_cons_of_pos (by simpa using below)] at many
      cases i with
      | zero => omega
      | succ i => exact ih order.2 i (Nat.lt_of_succ_lt_succ here) (by omega)
    · cases i with
      | zero => exact not_lt.mp below
      | succ i => exact (not_lt.mp below).trans (order.1 _ (List.getElem_mem _))

end Sorted

section OrderStatistic

variable (values : List α)

theorem insertionSort_perm {permuted : List α} (same : permuted.Perm values) :
    permuted.insertionSort (· ≤ ·) = values.insertionSort (· ≤ ·) := by
  apply List.Perm.eq_of_pairwise' (r := (· ≤ ·)) (List.pairwise_insertionSort _ _) (List.pairwise_insertionSort _ _)
  exact ((List.perm_insertionSort _ _).trans same).trans (List.perm_insertionSort _ _).symm

theorem orderStatistic_le (bound : α) {i : ℕ} (here : i < (values.insertionSort (· ≤ ·)).length)
    (few : i < values.countP (· ≤ bound)) : (values.insertionSort (· ≤ ·))[i] ≤ bound := by
  apply getElem_le_of_lt_countP (List.pairwise_insertionSort _ _) _ _ here
  rwa [(List.perm_insertionSort _ _).countP_eq]

theorem le_orderStatistic (bound : α) {i : ℕ} (here : i < (values.insertionSort (· ≤ ·)).length)
    (many : values.countP (· < bound) ≤ i) : bound ≤ (values.insertionSort (· ≤ ·))[i] := by
  apply le_getElem_of_countP_le (List.pairwise_insertionSort _ _) _ _ here
  rwa [(List.perm_insertionSort _ _).countP_eq]

end OrderStatistic

end Library
