import Mathlib

namespace Library

/-- How a computation over bytes ends early: with an error that it reports, or by an access outside its input. -/
inductive Fault where
  | reported (message : String)
  | outOfRange
deriving DecidableEq, Repr

abbrev Checked (α : Type) := Except Fault α

namespace Checked

variable {α β : Type}

def fail (message : String) : Checked α := .error (.reported message)

def byteAt (data : List UInt8) (index : Nat) : Checked UInt8 :=
  match data[index]? with
  | some byte => .ok byte
  | none => .error .outOfRange

/-- The bytes from the first index up to the last, which must both lie in the data. -/
def slice (data : List UInt8) (first last : Nat) : Checked (List UInt8) :=
  if first ≤ last ∧ last ≤ data.length then .ok ((data.drop first).take (last - first)) else .error .outOfRange

/-- The computation stays within its input, and what it returns has the property. -/
def Meets (p : α → Prop) : Checked α → Prop
  | .ok a => p a
  | .error (.reported _) => True
  | .error .outOfRange => False

variable {p q : α → Prop} {x : Checked α} {data : List UInt8} {index first last : Nat}

theorem meets_ok {a : α} (holds : p a) : Meets p (.ok a : Checked α) := holds

theorem meets_pure {a : α} (holds : p a) : Meets p (pure a : Checked α) := holds

theorem meets_fail (message : String) : Meets p (fail message) := trivial

theorem Meets.mono (meets : Meets p x) (implies : ∀ a, p a → q a) : Meets q x := by
  match x, meets with
  | .ok a, holds => exact implies a holds
  | .error (.reported _), _ => exact trivial

theorem Meets.bind {f : α → Checked β} {r : β → Prop} (meets : Meets p x) (next : ∀ a, p a → Meets r (f a)) : Meets r (x >>= f) := by
  match x, meets with
  | .ok a, holds => exact next a holds
  | .error (.reported _), _ => exact trivial

theorem Meets.not_outOfRange (meets : Meets p x) : x ≠ .error .outOfRange := by
  rintro rfl
  exact meets

theorem Meets.of_ok (meets : Meets p x) {a : α} (returned : x = .ok a) : p a := by
  subst returned
  exact meets

theorem byteAt_lt (inside : index < data.length) : byteAt data index = .ok data[index] := by
  rw [byteAt, List.getElem?_eq_getElem inside]

theorem meets_byteAt (inside : index < data.length) : Meets (fun byte => data[index]? = some byte) (byteAt data index) := by
  rw [byteAt_lt inside]
  exact List.getElem?_eq_getElem inside

theorem slice_within (order : first ≤ last) (inside : last ≤ data.length) :
    slice data first last = .ok ((data.drop first).take (last - first)) := if_pos ⟨order, inside⟩

theorem meets_slice_eq (order : first ≤ last) (inside : last ≤ data.length) :
    Meets (fun bytes => bytes = (data.drop first).take (last - first)) (slice data first last) := by
  rw [slice_within order inside]
  exact meets_ok rfl

theorem meets_slice (order : first ≤ last) (inside : last ≤ data.length) :
    Meets (fun bytes => bytes.length = last - first) (slice data first last) := by
  rw [slice_within order inside]
  show ((data.drop first).take (last - first)).length = last - first
  rw [List.length_take, List.length_drop]
  omega

end Checked

end Library
