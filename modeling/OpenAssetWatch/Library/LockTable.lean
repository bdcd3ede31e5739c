import Mathlib

namespace Library

/-- Which transaction holds the lock of each key until it ends. -/
abbrev LockTable (κ ι : Type*) := κ → Option ι

namespace LockTable

variable {κ ι : Type*} {locks : LockTable κ ι} {key other : κ} {i j : ι}

def none : LockTable κ ι := fun _ => Option.none

/-- Nobody else holds the key. -/
def Available (locks : LockTable κ ι) (key : κ) (i : ι) : Prop := locks key = Option.none ∨ locks key = some i

instance [DecidableEq ι] : Decidable (locks.Available key i) := inferInstanceAs (Decidable (_ ∨ _))

/-- Two transactions do not hold one key. -/
theorem holder_eq (first : locks key = some i) (second : locks key = some j) : i = j := by
  rw [first] at second
  exact Option.some.inj second

/-- The keys that a transaction holds. -/
def heldBy (locks : LockTable κ ι) (i : ι) : Set κ := {key | locks key = some i}

theorem heldBy_none : heldBy (none : LockTable κ ι) i = ∅ := by
  ext key
  simp [heldBy, none]

theorem heldBy_subset_compl (apart : i ≠ j) : locks.heldBy i ⊆ (locks.heldBy j)ᶜ := fun _ own other => apart (holder_eq own other)

section Acquire

variable [DecidableEq κ]

def acquire (locks : LockTable κ ι) (key : κ) (i : ι) : LockTable κ ι := Function.update locks key (some i)

@[simp] theorem acquire_self : locks.acquire key i key = some i := Function.update_self _ _ _

theorem acquire_held (available : locks.Available key i) (held : locks other = some j) (apart : j ≠ i) :
    locks.acquire key i other = some j := by
  have unlike : other ≠ key := by
    rintro rfl
    rcases available with free | own
    · rw [free] at held
      cases held
    · exact apart (holder_eq held own)
  rw [acquire, Function.update_of_ne unlike]
  exact held

theorem heldBy_acquire (available : locks.Available key i) (apart : j ≠ i) : (locks.acquire key i).heldBy j = locks.heldBy j := by
  ext other
  constructor
  · intro held
    by_cases same : other = key
    · rw [same, heldBy, Set.mem_ofPred_eq, acquire_self] at held
      exact absurd (Option.some.inj held).symm apart
    · rw [heldBy, Set.mem_ofPred_eq, acquire, Function.update_of_ne same] at held
      exact held
  · exact fun held => acquire_held available held apart

theorem heldBy_acquire_self : (locks.acquire key i).heldBy i = insert key (locks.heldBy i) := by
  ext other
  rw [heldBy, heldBy, Set.mem_ofPred_eq, Set.mem_insert_iff, Set.mem_ofPred_eq]
  by_cases same : other = key
  · simp [same]
  · rw [acquire, Function.update_of_ne same]
    exact (or_iff_right same).symm

end Acquire

section Release

variable [DecidableEq ι]

def release (locks : LockTable κ ι) (i : ι) : LockTable κ ι := fun key => if locks key = some i then Option.none else locks key

theorem release_held (held : locks other = some j) (apart : j ≠ i) : locks.release i other = some j := by
  have unlike : locks other ≠ some i := fun own => apart (holder_eq held own)
  rw [release, if_neg unlike]
  exact held

theorem heldBy_release (apart : j ≠ i) : (locks.release i).heldBy j = locks.heldBy j := by
  ext key
  constructor
  · intro held
    rw [heldBy, Set.mem_ofPred_eq, release] at held
    split at held
    · cases held
    · exact held
  · exact fun held => release_held held apart

theorem heldBy_release_self : (locks.release i).heldBy i = ∅ := by
  ext key
  rw [heldBy, Set.mem_ofPred_eq, release]
  split
  · simp
  · rename_i free
    simp [free]

end Release

end LockTable

end Library
