import Mathlib

namespace Library.Comparator

variable {α κ : Type*}

/-- `total` gives the answer of `cmp` wherever `cmp` answers; `cmp` may refuse pairs. -/
def Extends (total : α → α → Ordering) (cmp : α → α → Option Ordering) : Prop :=
  ∀ x y order, cmp x y = some order → total x y = order

section Extension

variable {total : α → α → Ordering} {cmp : α → α → Option Ordering} [Std.TransCmp total]

theorem Extends.swap (h : Extends total cmp) {x y : α} {forward backward : Ordering}
    (hxy : cmp x y = some forward) (hyx : cmp y x = some backward) :
    backward = forward.swap := by
  rw [← h _ _ _ hxy, ← h _ _ _ hyx]
  exact Std.OrientedCmp.eq_swap

theorem Extends.isLE_trans (h : Extends total cmp) {x y z : α} {first second third : Ordering}
    (hxy : cmp x y = some first) (hyz : cmp y z = some second) (hxz : cmp x z = some third)
    (hfirst : first.isLE) (hsecond : second.isLE) : third.isLE := by
  rw [← h _ _ _ hxz]
  rw [← h _ _ _ hxy] at hfirst
  rw [← h _ _ _ hyz] at hsecond
  exact Std.TransCmp.isLE_trans hfirst hsecond

theorem Extends.congr (h : Extends total cmp) {x y z : α} {left right : Ordering}
    (hxy : cmp x y = some .eq) (hxz : cmp x z = some left) (hyz : cmp y z = some right) :
    left = right := by
  rw [← h _ _ _ hxz, ← h _ _ _ hyz]
  exact Std.TransCmp.congr_left (h _ _ _ hxy)

end Extension

theorem Extends.orElse_refl {total : α → α → Ordering} {cmp : α → α → Option Ordering}
    [DecidableEq α] [Std.ReflCmp total] (h : Extends total cmp) :
    Extends total (fun x y => if x = y then some .eq else cmp x y) := by
  intro x y order hcmp
  simp only at hcmp
  split at hcmp
  · rename_i same
    cases hcmp
    exact same ▸ Std.ReflCmp.compare_self
  · exact h _ _ _ hcmp

theorem transCmp_onKey (key : α → κ) (cmp : κ → κ → Ordering) [Std.TransCmp cmp] :
    Std.TransCmp (fun x y => cmp (key x) (key y)) where
  eq_swap := Std.OrientedCmp.eq_swap
  isLE_trans := Std.TransCmp.isLE_trans

/-- Compare two values by the keys they parse to; an unparsed value comes first. -/
def onParsed (parse : α → Option κ) (cmp : κ → κ → Ordering) (x y : α) : Ordering :=
  match parse x, parse y with
  | none, none => .eq
  | none, some _ => .lt
  | some _, none => .gt
  | some k, some l => cmp k l

instance (parse : α → Option κ) (cmp : κ → κ → Ordering) [Std.OrientedCmp cmp] :
    Std.OrientedCmp (onParsed parse cmp) where
  eq_swap {x y} := by
    unfold onParsed
    cases parse x <;> cases parse y <;> first | rfl | exact Std.OrientedCmp.eq_swap

instance (parse : α → Option κ) (cmp : κ → κ → Ordering) [Std.TransCmp cmp] :
    Std.TransCmp (onParsed parse cmp) where
  isLE_trans {x y z} hxy hyz := by
    unfold onParsed at *
    cases hx : parse x <;> cases hy : parse y <;> cases hz : parse z <;>
      simp only [hx, hy, hz] at hxy hyz ⊢ <;> try first | rfl | contradiction
    exact Std.TransCmp.isLE_trans hxy hyz

theorem onParsed_some {parse : α → Option κ} {cmp : κ → κ → Ordering} {x y : α} {k l : κ}
    (hx : parse x = some k) (hy : parse y = some l) : onParsed parse cmp x y = cmp k l := by
  simp only [onParsed, hx, hy]

section Padding

variable (cmp : α → α → Ordering) (d : α)

def padNil : List α → Ordering
  | [] => .eq
  | y :: ys => (cmp d y).then (padNil ys)

/-- Lexicographic comparison in which the shorter list continues with `d` for ever. -/
def padCompare : List α → List α → Ordering
  | [], ys => padNil cmp d ys
  | x :: xs, ys => (cmp x (ys.headD d)).then (padCompare xs ys.tail)

theorem padCompare_step [Std.ReflCmp cmp] (xs ys : List α) :
    padCompare cmp d xs ys = (cmp (xs.headD d) (ys.headD d)).then (padCompare cmp d xs.tail ys.tail) := by
  rcases xs with _ | ⟨x, xs⟩
  · rcases ys with _ | ⟨y, ys⟩
    · have same : cmp d d = .eq := Std.ReflCmp.compare_self
      simp only [List.headD_nil, same]
      rfl
    · rfl
  · rfl

def padTo (n : Nat) (xs : List α) : List α := xs ++ List.replicate (n - xs.length) d

theorem padTo_cons (n : Nat) (x : α) (xs : List α) :
    padTo d (n + 1) (x :: xs) = x :: padTo d n xs := by
  simp only [padTo, List.length_cons, Nat.add_sub_add_right, List.cons_append]

theorem padTo_nil_succ (n : Nat) : padTo d (n + 1) [] = d :: padTo d n [] := by
  simp only [padTo, List.length_nil, Nat.sub_zero, List.nil_append, List.replicate_succ]

theorem compareLex_cons (x y : α) (xs ys : List α) :
    List.compareLex cmp (x :: xs) (y :: ys) = (cmp x y).then (List.compareLex cmp xs ys) :=
  List.compareLex_cons_cons

theorem padCompare_eq_compareLex [Std.ReflCmp cmp] (n : Nat) (xs ys : List α)
    (hxs : xs.length ≤ n) (hys : ys.length ≤ n) :
    padCompare cmp d xs ys = List.compareLex cmp (padTo d n xs) (padTo d n ys) := by
  induction n generalizing xs ys with
  | zero =>
    rw [List.length_eq_zero_iff.mp (Nat.le_zero.mp hxs), List.length_eq_zero_iff.mp (Nat.le_zero.mp hys)]
    exact (@Std.ReflCmp.compare_self _ (List.compareLex cmp) _ _).symm
  | succ n ih =>
    rcases xs with _ | ⟨x, xs⟩ <;> rcases ys with _ | ⟨y, ys⟩
    · exact (@Std.ReflCmp.compare_self _ (List.compareLex cmp) _ _).symm
    · have hys := Nat.le_of_succ_le_succ hys
      rw [padTo_nil_succ, padTo_cons, compareLex_cons, ← ih [] ys (Nat.zero_le _) hys]
      rfl
    · have hxs := Nat.le_of_succ_le_succ hxs
      rw [padTo_nil_succ, padTo_cons, compareLex_cons, ← ih xs [] hxs (Nat.zero_le _)]
      rfl
    · have hxs := Nat.le_of_succ_le_succ hxs
      have hys := Nat.le_of_succ_le_succ hys
      rw [padTo_cons, padTo_cons, compareLex_cons, ← ih xs ys hxs hys]
      rfl

instance [Std.OrientedCmp cmp] : Std.OrientedCmp (padCompare cmp d) where
  eq_swap {xs ys} := by
    have hxs : xs.length ≤ max xs.length ys.length := le_max_left _ _
    have hys : ys.length ≤ max xs.length ys.length := le_max_right _ _
    rw [padCompare_eq_compareLex cmp d _ xs ys hxs hys, padCompare_eq_compareLex cmp d _ ys xs hys hxs]
    exact Std.OrientedCmp.eq_swap

instance [Std.TransCmp cmp] : Std.TransCmp (padCompare cmp d) where
  isLE_trans {xs ys zs} hxy hyz := by
    let n := max xs.length (max ys.length zs.length)
    have hxs : xs.length ≤ n := le_max_left _ _
    have hys : ys.length ≤ n := (le_max_left _ _).trans (le_max_right _ _)
    have hzs : zs.length ≤ n := (le_max_right _ _).trans (le_max_right _ _)
    rw [padCompare_eq_compareLex cmp d n xs ys hxs hys] at hxy
    rw [padCompare_eq_compareLex cmp d n ys zs hys hzs] at hyz
    rw [padCompare_eq_compareLex cmp d n xs zs hxs hzs]
    exact Std.TransCmp.isLE_trans hxy hyz

end Padding

theorem compare_chars (a b : List Char) : compare a b = .lt ↔ a < b := by
  induction a generalizing b with
  | nil => cases b <;> simp
  | cons c a ih =>
    cases b with
    | nil => simp
    | cons d b =>
      rw [List.compare_cons_cons, List.cons_lt_cons_iff, Ordering.then_eq_lt, ih, compare_lt_iff_lt, compare_eq_iff_eq]

/-- Strings are ordered as their lists of characters are. -/
theorem compare_ofList (a b : List Char) : compare (String.ofList a) (String.ofList b) = compare a b := by
  have less : ∀ x y : List Char, compare (String.ofList x) (String.ofList y) = .lt ↔ compare x y = .lt := by
    intro x y
    rw [compare_chars, Std.LawfulLTCmp.eq_lt_iff_lt, String.lt_iff_toList_lt, String.toList_ofList, String.toList_ofList]
  cases h : compare a b with
  | lt => exact (less a b).mpr h
  | eq =>
    have same : a = b := Std.LawfulEqOrd.eq_of_compare h
    rw [same]
    exact compare_eq_iff_eq.mpr rfl
  | gt =>
    rw [Std.OrientedOrd.eq_swap, (less b a).mpr]
    · rfl
    · exact Std.OrientedCmp.lt_of_gt h

end Library.Comparator

namespace Library

variable {α : Type*} [DecidableEq α]

/-- What is left of two lists after their common beginning. -/
def firstDifference : List α → List α → List α × List α
  | x :: xs, y :: ys => if x = y then firstDifference xs ys else (x :: xs, y :: ys)
  | xs, ys => (xs, ys)

theorem firstDifference_common (xs ys : List α) :
    ∃ common, xs = common ++ (firstDifference xs ys).1 ∧ ys = common ++ (firstDifference xs ys).2 := by
  fun_induction firstDifference xs ys with
  | case1 xs x ys ih =>
    obtain ⟨common, left, right⟩ := ih
    exact ⟨x :: common, by rw [List.cons_append, ← left], by rw [List.cons_append, ← right]⟩
  | case2 => exact ⟨[], rfl, rfl⟩
  | case3 => exact ⟨[], rfl, rfl⟩

theorem firstDifference_heads {xs ys left right : List α} {x y : α}
    (h : firstDifference xs ys = (x :: left, y :: right)) : x ≠ y := by
  fun_induction firstDifference xs ys with
  | case1 _ _ _ ih => exact ih h
  | case2 _ _ _ _ different =>
    cases h
    exact different
  | case3 xs ys short =>
    cases h
    exact absurd rfl (short x left y right rfl)

theorem firstDifference_append (common xs ys : List α) :
    firstDifference (common ++ xs) (common ++ ys) = firstDifference xs ys := by
  induction common with
  | nil => rfl
  | cons x common ih =>
    rw [List.cons_append, List.cons_append, firstDifference, if_pos rfl]
    exact ih

omit [DecidableEq α] in
theorem compareLex_append (cmp : α → α → Ordering) [Std.ReflCmp cmp] (common xs ys : List α) :
    List.compareLex cmp (common ++ xs) (common ++ ys) = List.compareLex cmp xs ys := by
  induction common with
  | nil => rfl
  | cons x common ih =>
    have same : cmp x x = .eq := Std.ReflCmp.compare_self
    rw [List.cons_append, List.cons_append, Comparator.compareLex_cons, same, ih]
    rfl

end Library
