import OpenAssetWatch.Library.Comparator

namespace Library.TupleOrder

/-- The values a dynamically typed program puts in sort keys: integers, strings and tuples. -/
inductive Value where
  | int (n : Int)
  | str (s : String)
  | tuple (items : List Value)

mutual

/-- `none` is the type error of ordering two values of different kinds. -/
def compare? : Value → Value → Option Ordering
  | .int m, .int n => some (compare m n)
  | .str s, .str t => some (compare s t)
  | .tuple xs, .tuple ys => compareItems? xs ys
  | _, _ => none

def compareItems? : List Value → List Value → Option Ordering
  | [], [] => some .eq
  | [], _ :: _ => some .lt
  | _ :: _, [] => some .gt
  | x :: xs, y :: ys =>
    match compare? x y with
    | some .eq => compareItems? xs ys
    | decided => decided

end

theorem compareItems?_then {x y : Value} {xs ys : List Value} {first rest : Ordering} (head : compare? x y = some first)
    (tail : compareItems? xs ys = some rest) : compareItems? (x :: xs) (y :: ys) = some (first.then rest) := by
  rw [compareItems?, head, tail]
  cases first <;> rfl

/-- Lists of keys are compared item by item as what they are keys of. -/
theorem compareItems?_map {α : Type*} {key : α → Value} {cmp : α → α → Ordering}
    (h : ∀ x y, compare? (key x) (key y) = some (cmp x y)) (xs ys : List α) :
    compareItems? (xs.map key) (ys.map key) = some (List.compareLex cmp xs ys) := by
  induction xs generalizing ys with
  | nil => cases ys <;> rfl
  | cons x xs ih =>
    cases ys with
    | nil => rfl
    | cons y ys =>
      rw [Comparator.compareLex_cons]
      exact compareItems?_then (h x y) (ih ys)

theorem compare?_nat (m n : Nat) : compare? (.int m) (.int n) = some (compare m n) := by
  rw [compare?, Option.some.injEq]
  rcases Nat.lt_trichotomy m n with less | same | more
  · rw [compare_lt_iff_lt.mpr less, compare_lt_iff_lt]
    exact Int.ofNat_lt.mpr less
  · rw [same, compare_eq_iff_eq.mpr rfl, compare_eq_iff_eq.mpr rfl]
  · rw [compare_gt_iff_gt.mpr more, compare_gt_iff_gt]
    exact Int.ofNat_lt.mpr more

/-- A pair is compared by its rank and, at one rank, by what the rank tells. -/
theorem compare?_pair {rank : Int} {x y : Value} {order : Ordering} (h : compare? x y = some order) :
    compare? (.tuple [.int rank, x]) (.tuple [.int rank, y]) = some order := by
  have ranks : compare? (.int rank) (.int rank) = some .eq := by rw [compare?, compare_eq_iff_eq.mpr rfl]
  have last : compareItems? [x] [y] = some (order.then .eq) := compareItems?_then h rfl
  have pair := compareItems?_then ranks last
  rw [Ordering.eq_then, Ordering.then_eq] at pair
  exact pair

/-- A pair whose ranks differ is decided by the ranks. -/
theorem compare?_ranks {rank rank' : Int} {x y : Value} (h : compare rank rank' ≠ .eq) :
    compare? (.tuple [.int rank, x]) (.tuple [.int rank', y]) = some (compare rank rank') := by
  rw [compare?, compareItems?, compare?]
  cases order : compare rank rank' with
  | eq => exact absurd order h
  | lt => rfl
  | gt => rfl

/-- A value is flattened to tokens: `close` sorts below every token that starts a value. -/
inductive Token where
  | close
  | int (n : Int)
  | str (s : String)
  | opening

def Token.rank : Token → Nat × Int × String
  | .close => (0, 0, "")
  | .int n => (1, n, "")
  | .str s => (2, 0, s)
  | .opening => (3, 0, "")

def tokenCompare : Token → Token → Ordering :=
  compareLex (compareOn (·.rank.1)) (compareLex (compareOn (·.rank.2.1)) (compareOn (·.rank.2.2)))

instance : Std.TransCmp tokenCompare := by unfold tokenCompare; infer_instance

mutual

def flatten : Value → List Token
  | .int n => [.int n]
  | .str s => [.str s]
  | .tuple items => .opening :: flattenItems items

def flattenItems : List Value → List Token
  | [] => [.close]
  | item :: rest => flatten item ++ flattenItems rest

end

/-- The total order on all values that `compare?` is a part of. -/
def totalCompare (x y : Value) : Ordering := List.compareLex tokenCompare (flatten x) (flatten y)

instance : Std.TransCmp totalCompare :=
  Comparator.transCmp_onKey flatten (List.compareLex tokenCompare)

theorem tokenCompare_int (m n : Int) : tokenCompare (.int m) (.int n) = compare m n := by
  simp [tokenCompare, compareLex, compareOn, Token.rank]

theorem tokenCompare_str (s t : String) : tokenCompare (.str s) (.str t) = compare s t := by
  simp [tokenCompare, compareLex, compareOn, Token.rank]

theorem flatten_starts (x : Value) :
    ∃ token rest, flatten x = token :: rest ∧ tokenCompare .close token = .lt := by
  cases x <;> exact ⟨_, _, rfl, rfl⟩

theorem close_below (x : Value) (left right : List Token) :
    List.compareLex tokenCompare (.close :: left) (flatten x ++ right) = .lt := by
  obtain ⟨token, rest, start, below⟩ := flatten_starts x
  rw [start, List.cons_append, Comparator.compareLex_cons, below]
  rfl

theorem compareLex_swap {xs ys : List Token}
    (h : List.compareLex tokenCompare xs ys = .lt) : List.compareLex tokenCompare ys xs = .gt :=
  Std.OrientedCmp.gt_of_lt h

mutual

/-- The tokens of two compared values decide before anything that follows them is read. -/
theorem compare?_flatten (x y : Value) (order : Ordering) (h : compare? x y = some order)
    (left right : List Token) :
    List.compareLex tokenCompare (flatten x ++ left) (flatten y ++ right) =
      order.then (List.compareLex tokenCompare left right) := by
  match x, y with
  | .int m, .int n =>
    cases Option.some.inj h
    rw [flatten, flatten, ← tokenCompare_int]
    exact Comparator.compareLex_cons _ _ _ _ _
  | .str s, .str t =>
    cases Option.some.inj h
    rw [flatten, flatten, ← tokenCompare_str]
    exact Comparator.compareLex_cons _ _ _ _ _
  | .tuple xs, .tuple ys =>
    simp only [flatten, List.cons_append]
    rw [Comparator.compareLex_cons]
    exact compareItems?_flatten xs ys order h left right

theorem compareItems?_flatten (xs ys : List Value) (order : Ordering)
    (h : compareItems? xs ys = some order) (left right : List Token) :
    List.compareLex tokenCompare (flattenItems xs ++ left) (flattenItems ys ++ right) =
      order.then (List.compareLex tokenCompare left right) := by
  match xs, ys with
  | [], [] =>
    cases Option.some.inj h
    exact Comparator.compareLex_cons _ _ _ _ _
  | [], y :: ys =>
    cases Option.some.inj h
    simp only [flattenItems, List.append_assoc]
    exact close_below y _ _
  | x :: xs, [] =>
    cases Option.some.inj h
    simp only [flattenItems, List.append_assoc]
    exact compareLex_swap (close_below x _ _)
  | x :: xs, y :: ys =>
    simp only [flattenItems, List.append_assoc]
    simp only [compareItems?] at h
    cases first : compare? x y with
    | none => simp [first] at h
    | some head =>
      rw [compare?_flatten x y head first]
      cases head with
      | eq =>
        simp only [first] at h
        exact compareItems?_flatten xs ys order h left right
      | lt => simp only [first, Option.some.injEq] at h; subst h; rfl
      | gt => simp only [first, Option.some.injEq] at h; subst h; rfl

end

theorem totalCompare_extends : Comparator.Extends totalCompare compare? := by
  intro x y order h
  have flat := compare?_flatten x y order h [] []
  simp only [List.append_nil] at flat
  rw [totalCompare, flat]
  cases order <;> rfl

mutual

/-- The same pairs are refused in both directions. -/
theorem compare?_swap (x y : Value) : compare? y x = (compare? x y).map Ordering.swap := by
  match x, y with
  | .int m, .int n => exact congrArg some Std.OrientedCmp.eq_swap
  | .str s, .str t => exact congrArg some Std.OrientedCmp.eq_swap
  | .tuple xs, .tuple ys => exact compareItems?_swap xs ys
  | .int _, .str _ => rfl
  | .int _, .tuple _ => rfl
  | .str _, .int _ => rfl
  | .str _, .tuple _ => rfl
  | .tuple _, .int _ => rfl
  | .tuple _, .str _ => rfl

theorem compareItems?_swap (xs ys : List Value) : compareItems? ys xs = (compareItems? xs ys).map Ordering.swap := by
  match xs, ys with
  | [], [] => rfl
  | [], _ :: _ => rfl
  | _ :: _, [] => rfl
  | x :: xs, y :: ys =>
    rw [compareItems?, compareItems?, compare?_swap x y]
    cases compare? x y with
    | none => rfl
    | some first =>
      cases first with
      | lt => rfl
      | eq => exact compareItems?_swap xs ys
      | gt => rfl

end

theorem compare?_self {x : Value} {order : Ordering} (h : compare? x x = some order) : order = .eq := by
  rw [← totalCompare_extends _ _ _ h]
  exact Std.ReflCmp.compare_self

end Library.TupleOrder
