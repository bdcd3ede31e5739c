import Mathlib

namespace Library.Run

variable {S A : Type*} (step : S → A → S)

/-- `P` holds at every step of the run from `s`, of the state before the step and of its action. -/
def Along (P : S → A → Prop) : S → List A → Prop
  | _, [] => True
  | s, a :: as => P s a ∧ Along P (step s a) as

variable {step}

instance decidableAlong {P : S → A → Prop} [here : ∀ s a, Decidable (P s a)] :
    (s : S) → (as : List A) → Decidable (Along step P s as)
  | _, [] => .isTrue trivial
  | s, a :: as => @instDecidableAnd _ _ (here s a) (decidableAlong (step s a) as)

theorem along_iff {P : S → A → Prop} {s : S} {as : List A} :
    Along step P s as ↔
      ∀ done a rest, as = done ++ a :: rest → P (done.foldl step s) a := by
  induction as generalizing s with
  | nil =>
    refine ⟨fun _ done a rest impossible => ?_, fun _ => trivial⟩
    exact absurd impossible.symm (by simp)
  | cons b bs ih =>
    rw [Along, ih]
    constructor
    · intro h done a rest split
      rcases done with _ | ⟨d, done⟩
      · cases split
        exact h.1
      · cases split
        exact h.2 done a rest rfl
    · intro h
      exact ⟨h [] b bs rfl, fun done a rest split => h (b :: done) a rest (by rw [split]; rfl)⟩

theorem along_append {P : S → A → Prop} (s : S) (as bs : List A) :
    Along step P s (as ++ bs) ↔ Along step P s as ∧ Along step P (as.foldl step s) bs := by
  induction as generalizing s with
  | nil => exact (and_iff_right trivial).symm
  | cons a as ih =>
    rw [List.cons_append, Along, ih, Along, and_assoc]
    exact Iff.rfl

theorem Along.mono {P Q : S → A → Prop} {s : S} {as : List A} (h : ∀ s a, P s a → Q s a)
    (run : Along step P s as) : Along step Q s as := by
  induction as generalizing s with
  | nil => trivial
  | cons a as ih => exact ⟨h s a run.1, ih run.2⟩

theorem along_congr {P Q Admitted : S → A → Prop} (Good : S → Prop)
    (agree : ∀ s a, Good s → Admitted s a → (P s a ↔ Q s a))
    (keep : ∀ s a, Good s → Admitted s a → P s a → Good (step s a))
    {s : S} (good : Good s) {as : List A} (admitted : Along step Admitted s as) :
    Along step P s as ↔ Along step Q s as := by
  induction as generalizing s with
  | nil => exact Iff.rfl
  | cons a as ih =>
    constructor
    · intro run
      have next := keep s a good admitted.1 run.1
      exact ⟨(agree s a good admitted.1).mp run.1, (ih next admitted.2).mp run.2⟩
    · intro run
      have here := (agree s a good admitted.1).mpr run.1
      exact ⟨here, (ih (keep s a good admitted.1 here) admitted.2).mpr run.2⟩

theorem along_of_forall {P : A → Prop} {s : S} {as : List A} (all : ∀ a ∈ as, P a) : Along step (fun _ a => P a) s as := by
  induction as generalizing s with
  | nil => trivial
  | cons a as ih => exact ⟨all a List.mem_cons_self, ih fun b member => all b (List.mem_cons_of_mem _ member)⟩

theorem along_true (s : S) (as : List A) : Along step (fun _ _ => True) s as := by
  induction as generalizing s with
  | nil => trivial
  | cons a as ih => exact ⟨trivial, ih _⟩

theorem invariant_end {P : S → A → Prop} (Good : S → Prop)
    (keep : ∀ s a, Good s → P s a → Good (step s a)) {s : S} (good : Good s) {as : List A}
    (run : Along step P s as) : Good (as.foldl step s) := by
  induction as generalizing s with
  | nil => exact good
  | cons a as ih => exact ih (keep s a good run.1) run.2

theorem along_of_admitted {P Admitted : S → A → Prop} (Good : S → Prop)
    (keep : ∀ s a, Good s → Admitted s a → P s a ∧ Good (step s a)) {s : S} (good : Good s) {as : List A}
    (run : Along step Admitted s as) : Along step P s as := by
  induction as generalizing s with
  | nil => trivial
  | cons a as ih =>
    obtain ⟨here, next⟩ := keep s a good run.1
    exact ⟨here, ih next run.2⟩

theorem along_of_invariant {P : S → A → Prop} (Good : S → Prop) (keep : ∀ s a, Good s → P s a ∧ Good (step s a))
    {s : S} (good : Good s) (as : List A) : Along step P s as :=
  along_of_admitted Good (fun s a good _ => keep s a good) good (along_true s as)

/-- Two systems that take the same actions, side by side. -/
def both {T : Type*} (step : S → A → S) (step' : T → A → T) (pair : S × T) (a : A) : S × T :=
  (step pair.1 a, step' pair.2 a)

theorem along_both {T : Type*} {step' : T → A → T} {Admitted : S → A → Prop} {Q : S × T → A → Prop}
    (Related : S → T → Prop)
    (keep : ∀ s t a, Related s t → Admitted s a → Q (s, t) a ∧ Related (step s a) (step' t a))
    {s : S} {t : T} (related : Related s t) {as : List A} (run : Along step Admitted s as) :
    Along (both step step') Q (s, t) as := by
  induction as generalizing s t with
  | nil => trivial
  | cons a as ih =>
    obtain ⟨here, next⟩ := keep s t a related run.1
    exact ⟨here, ih next run.2⟩

end Library.Run
