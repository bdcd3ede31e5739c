import Mathlib

namespace Library

variable {R K T : Type*} [LinearOrder T] (covers : R → K → Prop) (time : R → T)

/-- `run` has the greatest time among the committed runs that cover the key. -/
def Newest (committed : List R) (key : K) (run : R) : Prop :=
  run ∈ committed ∧ covers run key ∧ ∀ other ∈ committed, covers other key → time other ≤ time run

variable {covers time} {committed : List R} {key : K} {run newest : R}

variable (time) in
theorem exists_newest (member : run ∈ committed) (covered : covers run key) :
    ∃ newest, Newest covers time committed key newest := by
  obtain ⟨newest, ⟨hnewest, hcovers⟩, bound⟩ :=
    Set.exists_max_image {other | other ∈ committed ∧ covers other key} time
      ((List.finite_toSet committed).subset fun _ h => h.1) ⟨run, member, covered⟩
  exact ⟨newest, hnewest, hcovers, fun other hother hcovers => bound other ⟨hother, hcovers⟩⟩

theorem newest_insert {more : List R} (mem_iff : ∀ other, other ∈ more ↔ other ∈ committed ∨ other = run) :
    Newest covers time more key newest ↔
      (newest = run ∧ covers run key ∧ ∀ other ∈ committed, covers other key → time other ≤ time run) ∨
      (Newest covers time committed key newest ∧ (covers run key → time run ≤ time newest)) := by
  simp only [Newest, mem_iff]
  constructor
  · intro ⟨member, covered, bound⟩
    rcases member with member | rfl
    · exact .inr ⟨⟨member, covered, fun other h => bound other (.inl h)⟩, bound run (.inr rfl)⟩
    · exact .inl ⟨rfl, covered, fun other h => bound other (.inl h)⟩
  · intro h
    rcases h with ⟨rfl, covered, bound⟩ | ⟨⟨member, covered, bound⟩, last⟩
    · refine ⟨.inr rfl, covered, fun other h hcovers => ?_⟩
      rcases h with h | rfl
      · exact bound other h hcovers
      · exact le_refl _
    · refine ⟨.inl member, covered, fun other h hcovers => ?_⟩
      rcases h with h | rfl
      · exact bound other h hcovers
      · exact last hcovers

theorem newest_append :
    Newest covers time (committed ++ [run]) key newest ↔
      (newest = run ∧ covers run key ∧ ∀ other ∈ committed, covers other key → time other ≤ time run) ∨
      (Newest covers time committed key newest ∧ (covers run key → time run ≤ time newest)) :=
  newest_insert fun other => by rw [List.mem_append, List.mem_singleton]

theorem newest_cons :
    Newest covers time (run :: committed) key newest ↔
      (newest = run ∧ covers run key ∧ ∀ other ∈ committed, covers other key → time other ≤ time run) ∨
      (Newest covers time committed key newest ∧ (covers run key → time run ≤ time newest)) :=
  newest_insert fun other => by rw [List.mem_cons, or_comm]

theorem Newest.lt_fresh (fresh : ∀ other ∈ committed, time other ≠ time run)
    (bound : ∀ other ∈ committed, covers other key → time other ≤ time run)
    (before : Newest covers time committed key newest) : time newest < time run :=
  lt_of_le_of_ne (bound newest before.1 before.2.1) (fresh newest before.1)

end Library
