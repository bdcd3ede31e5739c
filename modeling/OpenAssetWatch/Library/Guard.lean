import Mathlib

namespace Library

variable {ε : Type*} {α β : Type}

/-- Stop with the error unless the condition holds. -/
def require (condition : Bool) (error : ε) : Except ε Unit :=
  if condition then .ok () else .error error

@[simp] theorem require_eq_ok {condition : Bool} {error : ε} {done : Unit} :
    require condition error = .ok done ↔ condition = true := by
  cases condition <;> simp [require]

theorem bind_eq_ok {x : Except ε α} {f : α → Except ε β} {b : β} :
    x >>= f = .ok b ↔ ∃ a, x = .ok a ∧ f a = .ok b := by
  cases x with
  | error e => simp [bind, Except.bind]
  | ok a => simp [bind, Except.bind]

theorem require_bind_eq_ok {condition : Bool} {error : ε} {f : Unit → Except ε β} {b : β} :
    require condition error >>= f = .ok b ↔ condition = true ∧ f () = .ok b := by
  rw [bind_eq_ok]
  refine ⟨fun ⟨_, passed, rest⟩ => ⟨require_eq_ok.mp passed, rest⟩, fun ⟨passed, rest⟩ => ?_⟩
  exact ⟨(), require_eq_ok.mpr passed, rest⟩

theorem then_eq_ok {x : Except ε Unit} {f : Unit → Except ε β} {b : β} : x >>= f = .ok b ↔ x = .ok () ∧ f () = .ok b := by
  rw [bind_eq_ok]
  constructor
  · rintro ⟨_, first, second⟩
    exact ⟨first, second⟩
  · exact fun both => ⟨(), both⟩

theorem mapM_eq_ok {f : α → Except ε β} {items : List α} {results : List β} :
    items.mapM f = .ok results ↔ List.Forall₂ (fun item result => f item = .ok result) items results := by
  induction items generalizing results with
  | nil =>
    rw [List.mapM_nil, List.forall₂_nil_left_iff]
    exact ⟨fun done => (Except.ok.inj done).symm, fun empty => congrArg _ empty.symm⟩
  | cons item rest ih =>
    rw [List.mapM_cons, bind_eq_ok, List.forall₂_cons_left_iff]
    constructor
    · rintro ⟨result, first, others⟩
      obtain ⟨remaining, tail, done⟩ := bind_eq_ok.mp others
      cases done
      exact ⟨result, remaining, first, ih.mp tail, rfl⟩
    · rintro ⟨result, remaining, first, tail, rfl⟩
      exact ⟨result, first, bind_eq_ok.mpr ⟨remaining, ih.mpr tail, rfl⟩⟩

/-- What is on the right of a pointwise relation comes from something on the left. -/
theorem exists_left_of_forall₂ {relation : α → β → Prop} {items : List α} {results : List β}
    (related : List.Forall₂ relation items results) {result : β} (member : result ∈ results) :
    ∃ item ∈ items, relation item result := by
  induction related with
  | nil => cases member
  | cons here _ ih =>
    rcases List.mem_cons.mp member with rfl | later
    · exact ⟨_, List.mem_cons_self, here⟩
    · obtain ⟨item, listed, there⟩ := ih later
      exact ⟨item, List.mem_cons_of_mem _ listed, there⟩

theorem forM_eq_ok {f : α → Except ε Unit} {items : List α} :
    items.forM f = .ok () ↔ ∀ item ∈ items, f item = .ok () := by
  induction items with
  | nil => exact ⟨nofun, fun _ => rfl⟩
  | cons item rest ih =>
    show (f item >>= fun _ => rest.forM f) = .ok () ↔ _
    rw [bind_eq_ok, List.forall_mem_cons, ← ih]
    exact ⟨fun ⟨_, first, others⟩ => ⟨first, others⟩, fun ⟨first, others⟩ => ⟨(), first, others⟩⟩

theorem guard_bind_eq_some {p : Prop} [Decidable p] {next : Unit → Option α} {result : α} :
    (guard p : Option Unit).bind next = some result ↔ p ∧ next () = some result := by
  by_cases holds : p
  · rw [guard, if_pos holds]
    exact (and_iff_right holds).symm
  · rw [guard, if_neg holds]
    exact iff_of_false (fun impossible => by cases impossible) fun both => holds both.1

theorem mapError_eq_ok {δ : Type*} {f : ε → δ} {x : Except ε α} {a : α} : x.mapError f = .ok a ↔ x = .ok a := by
  cases x <;> simp [Except.mapError]

end Library
