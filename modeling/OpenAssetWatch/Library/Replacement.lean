import Mathlib

namespace Library

variable {α : Type*} (le : α → α → Bool)

/-- Keep the current value until one comes that may replace it. -/
def settle (current : α) (items : List α) : α :=
  items.foldl (fun current x => if le current x then x else current) current

/-- The last of the greatest items. -/
def LastGreatest (items : List α) (winner : α) : Prop :=
  ∃ before after, items = before ++ winner :: after ∧ (∀ x ∈ before, le x winner = true) ∧ ∀ x ∈ after, le winner x = false

section

variable {le} {current : α} {items : List α}

theorem settle_cons (x : α) :
    settle le current (x :: items) = settle le (if le current x then x else current) items := rfl

theorem settle_append (first second : List α) :
    settle le current (first ++ second) = settle le (settle le current first) second := List.foldl_append

theorem settle_mem : settle le current items ∈ current :: items := by
  induction items generalizing current with
  | nil => exact List.mem_singleton_self _
  | cons x rest ih =>
    rw [settle_cons]
    rcases List.mem_cons.mp ih with here | later
    · rw [here]
      split
      · exact List.mem_cons_of_mem _ List.mem_cons_self
      · exact List.mem_cons_self
    · exact List.mem_cons_of_mem _ (List.mem_cons_of_mem _ later)

theorem settle_mem_of_replaced {x : α} (member : x ∈ items) (replaced : le current x = true) :
    settle le current items ∈ items := by
  induction items with
  | nil => cases member
  | cons y rest ih =>
    rw [settle_cons]
    by_cases first : le current y = true
    · rw [if_pos first]
      exact settle_mem
    · rw [if_neg first]
      rcases List.mem_cons.mp member with rfl | later
      · exact absurd replaced first
      · exact List.mem_cons_of_mem _ (ih later)

theorem settle_unbeaten (unbeaten : ∀ x ∈ items, le current x = false) : settle le current items = current := by
  induction items with
  | nil => rfl
  | cons x rest ih =>
    rw [settle_cons, unbeaten x List.mem_cons_self]
    exact ih fun y member => unbeaten y (List.mem_cons_of_mem _ member)

variable (le_refl : ∀ a, le a a = true) (le_trans : ∀ a b c, le a b = true → le b c = true → le a c = true)

include le_refl le_trans

theorem le_settle : le current (settle le current items) = true := by
  induction items generalizing current with
  | nil => exact le_refl current
  | cons x rest ih =>
    rw [settle_cons]
    by_cases replaced : le current x = true
    · rw [if_pos replaced]
      exact le_trans _ _ _ replaced ih
    · rw [if_neg replaced]
      exact ih

omit le_refl in
theorem settle_lastGreatest (le_total : ∀ a b, le a b = true ∨ le b a = true) :
    LastGreatest le (current :: items) (settle le current items) := by
  have le_refl (a : α) : le a a = true := (le_total a a).elim id id
  induction items generalizing current with
  | nil => exact ⟨[], [], rfl, nofun, nofun⟩
  | cons x rest ih =>
    rw [settle_cons]
    by_cases replaced : le current x = true
    · rw [if_pos replaced]
      obtain ⟨before, after, split, below, beaten⟩ := @ih x
      refine ⟨current :: before, after, by rw [split]; rfl, fun y member => ?_, beaten⟩
      rcases List.mem_cons.mp member with rfl | earlier
      · exact le_trans _ _ _ replaced (le_settle le_refl le_trans)
      · exact below y earlier
    · rw [if_neg replaced]
      obtain ⟨before, after, split, below, beaten⟩ := @ih current
      have older : le x current = true := (le_total x current).resolve_right replaced
      rcases before with _ | ⟨first, before⟩
      · obtain ⟨same, rfl⟩ := List.cons.inj split
        refine ⟨[], x :: rest, by rw [← same]; rfl, nofun, fun y member => ?_⟩
        rcases List.mem_cons.mp member with rfl | later
        · rw [← same]
          exact Bool.eq_false_iff.mpr replaced
        · exact beaten y later
      · obtain ⟨rfl, same⟩ := List.cons.inj split
        refine ⟨current :: x :: before, after, congrArg (current :: x :: ·) same, fun y member => ?_, beaten⟩
        have first := below current List.mem_cons_self
        rcases List.mem_cons.mp member with rfl | member
        · exact first
        · rcases List.mem_cons.mp member with rfl | earlier
          · exact le_trans _ _ _ older first
          · exact below y (List.mem_cons_of_mem _ earlier)

theorem settle_maximal {x : α} (member : x ∈ items) (outranked : le (settle le current items) x = true) :
    le x (settle le current items) = true := by
  induction items generalizing current with
  | nil => cases member
  | cons y rest ih =>
    rw [settle_cons] at outranked ⊢
    rcases List.mem_cons.mp member with rfl | later
    · by_cases replaced : le current x = true
      · rw [if_pos replaced]
        exact le_settle le_refl le_trans
      · rw [if_neg replaced] at outranked
        exact absurd (le_trans _ _ _ (le_settle le_refl le_trans) outranked) replaced
    · exact ih later outranked

end

section

variable {β : Type*} {le : α → α → Bool} {rank : β → α} {current : α} {items : List β} {m : β}

theorem settle_last {peers : List β} (above : le current (rank m) = true)
    (peer : ∀ x ∈ peers, le (rank x) (rank m) = true) : settle le current ((peers ++ [m]).map rank) = rank m := by
  rw [List.map_append, settle_append]
  have below : le (settle le current (peers.map rank)) (rank m) = true := by
    have left : settle le current (peers.map rank) ∈ current :: peers.map rank := settle_mem
    rcases List.mem_cons.mp left with here | later
    · rw [here]
      exact above
    · obtain ⟨x, listed, same⟩ := List.mem_map.mp later
      rw [← same]
      exact peer x listed
  exact if_pos below

theorem exists_settle (member : m ∈ items) (above : le current (rank m) = true)
    (maximal : ∀ x ∈ items, le (rank m) (rank x) = true → le (rank x) (rank m) = true) :
    ∃ order : List β, order.Perm items ∧ settle le current (order.map rank) = rank m := by
  obtain ⟨before, after, rfl⟩ := List.append_of_mem member
  let peer (x : β) : Bool := le (rank m) (rank x)
  have rest : ∀ x ∈ before ++ after, x ∈ before ++ m :: after := by
    intro x h
    rcases List.mem_append.mp h with h | h
    · exact List.mem_append_left _ h
    · exact List.mem_append_right _ (List.mem_cons_of_mem _ h)
  refine ⟨(before ++ after).filter peer ++ [m] ++ (before ++ after).filter (!peer ·), ?_, ?_⟩
  · have sorted := (List.filter_append_perm peer (before ++ after)).cons m
    have front := sorted.trans List.perm_middle.symm
    rw [List.append_assoc]
    exact List.perm_middle.trans front
  · rw [List.map_append, settle_append, settle_last above]
    · apply settle_unbeaten
      intro x later
      obtain ⟨y, kept, rfl⟩ := List.mem_map.mp later
      simpa [peer] using (List.mem_filter.mp kept).2
    · intro x kept
      obtain ⟨here, below⟩ := List.mem_filter.mp kept
      exact maximal x (rest x here) below

end

end Library
