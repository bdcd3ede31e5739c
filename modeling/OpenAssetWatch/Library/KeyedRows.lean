import Mathlib

namespace Library

variable {α β κ : Type*} [DecidableEq κ]

/-- Delete the rows of a key and insert others. -/
def replaceRows (key : β → κ) (k : κ) (rows new : List β) : List β := (rows.filter fun row => key row ≠ k) ++ new

section

variable {key : β → κ} {k : κ} {rows new : List β} {selected : β → Bool}

/-- A selection within the key finds the new rows only. -/
theorem filter_replaceRows_inside (inside : ∀ row, selected row = true → key row = k) :
    (replaceRows key k rows new).filter selected = new.filter selected := by
  have gone : (rows.filter fun row => key row ≠ k).filter selected = [] := by
    apply List.filter_eq_nil_iff.mpr
    intro row member found
    exact of_decide_eq_true (List.mem_filter.mp member).2 (inside row found)
  rw [replaceRows, List.filter_append, gone, List.nil_append]

/-- A selection outside the key finds the old rows. -/
theorem filter_replaceRows_outside (outside : ∀ row, selected row = true → key row ≠ k) (keyed : ∀ row ∈ new, key row = k) :
    (replaceRows key k rows new).filter selected = rows.filter selected := by
  have none : new.filter selected = [] := by
    apply List.filter_eq_nil_iff.mpr
    intro row member found
    exact outside row found (keyed row member)
  rw [replaceRows, List.filter_append, none, List.append_nil, List.filter_filter]
  apply List.filter_congr
  intro row _
  cases found : selected row with
  | false => rw [Bool.false_and]
  | true => rw [Bool.true_and, decide_eq_true (outside row found)]

theorem filter_replaceRows_self (keyed : ∀ row ∈ new, key row = k) :
    ((replaceRows key k rows new).filter fun row => key row = k) = new := by
  rw [filter_replaceRows_inside fun row found => of_decide_eq_true found]
  exact List.filter_eq_self.mpr fun row member => decide_eq_true (keyed row member)

theorem filter_replaceRows_ne {other : κ} (apart : other ≠ k) (keyed : ∀ row ∈ new, key row = k) :
    ((replaceRows key k rows new).filter fun row => key row = other) = rows.filter fun row => key row = other := by
  apply filter_replaceRows_outside _ keyed
  intro row found same
  exact apart ((of_decide_eq_true found).symm.trans same)

end

/-- Of rows grouped under distinct keys, a key selects its own group. -/
theorem filter_flatMap_key {key : β → κ} {id : α → κ} {group : α → List β} {items : List α}
    (keyed : ∀ item ∈ items, ∀ row ∈ group item, key row = id item) (nodup : (items.map id).Nodup) {item : α}
    (member : item ∈ items) : ((items.flatMap group).filter fun row => key row = id item) = group item := by
  induction items with
  | nil => cases member
  | cons first rest ih =>
    obtain ⟨fresh, nodup⟩ := List.nodup_cons.mp nodup
    rw [List.flatMap_cons, List.filter_append]
    rcases List.mem_cons.mp member with rfl | later
    · have own : (group item).filter (fun row => key row = id item) = group item :=
        List.filter_eq_self.mpr fun row listed => decide_eq_true (keyed item List.mem_cons_self row listed)
      have others : (rest.flatMap group).filter (fun row => key row = id item) = [] := by
        apply List.filter_eq_nil_iff.mpr
        intro row listed found
        obtain ⟨other, there, grouped⟩ := List.mem_flatMap.mp listed
        have same := keyed other (List.mem_cons_of_mem _ there) row grouped
        exact fresh (List.mem_map.mpr ⟨other, there, same.symm.trans (of_decide_eq_true found)⟩)
      rw [own, others, List.append_nil]
    · have none : (group first).filter (fun row => key row = id item) = [] := by
        apply List.filter_eq_nil_iff.mpr
        intro row listed found
        have same := keyed first List.mem_cons_self row listed
        exact fresh (List.mem_map.mpr ⟨item, later, (of_decide_eq_true found).symm.trans same⟩)
      rw [none, List.nil_append]
      exact ih (fun other there => keyed other (List.mem_cons_of_mem _ there)) nodup later

end Library
