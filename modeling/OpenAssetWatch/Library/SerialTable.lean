import Mathlib

namespace Library

variable {ρ : Type*}

/-- A table whose rows draw their ids from a sequence and are pairwise apart, as its unique constraints ask. -/
structure SerialTable (Apart : ρ → ρ → Prop) where
  rows : List (Nat × ρ)
  nextId : Nat
  drawn : ∀ row ∈ rows, 0 < row.1 ∧ row.1 < nextId
  positive : 0 < nextId
  ids : rows.Pairwise fun a b => a.1 ≠ b.1
  apart : rows.Pairwise fun a b => Apart a.2 b.2

namespace SerialTable

variable {Apart : ρ → ρ → Prop}

def empty : SerialTable Apart where
  rows := []
  nextId := 1
  drawn := by simp
  positive := Nat.one_pos
  ids := List.Pairwise.nil
  apart := List.Pairwise.nil

variable (table : SerialTable Apart)

/-- The first row that qualifies. -/
def find? (qualifies : ρ → Bool) : Option (Nat × ρ) := table.rows.find? fun row => qualifies row.2

/-- The rows with another value under an id. -/
def overwritten (id : Nat) (value : ρ) : List (Nat × ρ) := table.rows.map fun row => if row.1 = id then (id, value) else row

theorem ids_overwritten (id : Nat) (value : ρ) : (table.overwritten id value).map Prod.fst = table.rows.map Prod.fst := by
  rw [overwritten, List.map_map]
  apply List.map_congr_left
  intro row _
  show (if row.1 = id then (id, value) else row).1 = row.1
  split
  case isTrue same => exact same.symm
  case isFalse => rfl

section Laws

variable {table} {after : SerialTable Apart} {id : Nat} {value old : ρ} {row : Nat × ρ} {qualifies : ρ → Bool}

theorem find?_eq_some (found : table.find? qualifies = some row) : row ∈ table.rows ∧ qualifies row.2 = true := by
  have holds := List.find?_some found
  exact ⟨List.mem_of_find?_eq_some found, holds⟩

theorem find?_eq_none (missing : table.find? qualifies = none) : ∀ row ∈ table.rows, qualifies row.2 = false := by
  intro row member
  have fails := List.find?_eq_none.mp missing row member
  exact Bool.eq_false_iff.mpr fails

theorem find?_isSome (member : row ∈ table.rows) (holds : qualifies row.2 = true) : ∃ found, table.find? qualifies = some found :=
  by
  cases found : table.find? qualifies with
  | some first => exact ⟨first, rfl⟩
  | none =>
    rw [find?_eq_none found row member] at holds
    cases holds

theorem eq_of_id {stored : Nat × ρ} (first : row ∈ table.rows) (second : stored ∈ table.rows) (same : row.1 = stored.1) :
    row = stored := by
  have unique : (table.rows.map Prod.fst).Nodup := List.pairwise_map.mpr table.ids
  exact List.inj_on_of_nodup_map unique first second same

theorem mem_overwritten (stored : (id, old) ∈ table.rows) :
    row ∈ table.overwritten id value ↔ row = (id, value) ∨ row ∈ table.rows ∧ row.1 ≠ id := by
  rw [overwritten, List.mem_map]
  constructor
  · rintro ⟨before, member, same⟩
    by_cases here : before.1 = id
    · rw [if_pos here] at same
      exact .inl same.symm
    · rw [if_neg here] at same
      rw [← same]
      exact .inr ⟨member, here⟩
  · rintro (same | ⟨member, other⟩)
    · exact ⟨(id, old), stored, by rw [if_pos rfl, same]⟩
    · exact ⟨row, member, if_neg other⟩

theorem pairwise_overwritten (symmetric : ∀ a b, Apart a b → Apart b a) (stored : (id, old) ∈ table.rows) :
    ((table.overwritten id value).Pairwise fun a b => Apart a.2 b.2) ↔ ∀ row ∈ table.rows, row.1 ≠ id → Apart value row.2 := by
  constructor
  · intro apart other member different
    have both : Std.Symm fun a b : Nat × ρ => Apart a.2 b.2 := ⟨fun a b => symmetric a.2 b.2⟩
    have first : (id, value) ∈ table.overwritten id value := (mem_overwritten stored).mpr (.inl rfl)
    have second : other ∈ table.overwritten id value := (mem_overwritten stored).mpr (.inr ⟨member, different⟩)
    apply apart.forall first second
    intro same
    exact different (congrArg Prod.fst same).symm
  · intro others
    rw [overwritten, List.pairwise_map]
    apply (table.ids.and table.apart).imp_of_mem
    intro first second firstMember secondMember distinct
    by_cases here : first.1 = id
    · have there : second.1 ≠ id := fun same => distinct.1 (here.trans same.symm)
      rw [if_pos here, if_neg there]
      exact others second secondMember there
    · rw [if_neg here]
      by_cases there : second.1 = id
      · rw [if_pos there]
        exact symmetric _ _ (others first firstMember here)
      · rw [if_neg there]
        exact distinct.2

theorem nextId_fresh (member : row ∈ table.rows) : row.1 ≠ table.nextId := (table.drawn row member).2.ne

end Laws

section Columns

variable {κ : Type*} {column : ρ → κ}

/-- The ids of the rows, in the order in which they were drawn. -/
def idList (table : SerialTable Apart) : List Nat := table.rows.map Prod.fst

/-- Every row is still there, with its id and the value of the column. -/
def Keeps (column : ρ → κ) (before after : SerialTable Apart) : Prop :=
  ∀ row ∈ before.rows, ∃ later ∈ after.rows, later.1 = row.1 ∧ column later.2 = column row.2

theorem Keeps.refl (table : SerialTable Apart) : Keeps column table table := fun row member => ⟨row, member, rfl, rfl⟩

theorem Keeps.trans {first second third : SerialTable Apart} (before : Keeps column first second)
    (after : Keeps column second third) : Keeps column first third := by
  intro row member
  obtain ⟨middle, middleMember, sameId, sameValue⟩ := before row member
  obtain ⟨last, lastMember, lastId, lastValue⟩ := after middle middleMember
  exact ⟨last, lastMember, lastId.trans sameId, lastValue.trans sameValue⟩

end Columns

section Statements

variable [DecidableRel Apart]

/-- `UPDATE` of the row with an id; there is no table when a constraint is violated. -/
def update (id : Nat) (value : ρ) : Option (SerialTable Apart) :=
  if apart : (table.overwritten id value).Pairwise fun a b => Apart a.2 b.2 then
    some ⟨table.overwritten id value, table.nextId, by
      intro row member
      have listed : row.1 ∈ (table.overwritten id value).map Prod.fst := List.mem_map_of_mem member
      rw [ids_overwritten] at listed
      obtain ⟨old, oldMember, same⟩ := List.mem_map.mp listed
      rw [← same]
      exact table.drawn old oldMember, table.positive, by
      apply (List.pairwise_map (f := Prod.fst) (R := (· ≠ ·))).mp
      rw [ids_overwritten]
      exact List.pairwise_map.mpr table.ids, apart⟩
  else none

/-- `INSERT` of a row, which draws the next id. -/
def insert (value : ρ) : Option (SerialTable Apart) :=
  if apart : (table.rows ++ [(table.nextId, value)]).Pairwise fun a b => Apart a.2 b.2 then
    some ⟨table.rows ++ [(table.nextId, value)], table.nextId + 1, by
      intro row member
      rcases List.mem_append.mp member with old | new
      · exact ⟨(table.drawn row old).1, (table.drawn row old).2.trans (Nat.lt_succ_self _)⟩
      · rw [List.mem_singleton.mp new]
        exact ⟨table.positive, Nat.lt_succ_self _⟩, Nat.succ_pos _, by
      apply List.pairwise_append.mpr
      apply And.intro table.ids
      apply And.intro (List.pairwise_singleton _ _)
      intro row member new listed
      rw [List.mem_singleton.mp listed]
      exact (table.drawn row member).2.ne, apart⟩
  else none

/-- `INSERT` of a row, or `UPDATE` of the first row that qualifies, with the id of the row. -/
def upsert (qualifies : ρ → Bool) (merge : ρ → ρ) (fresh : ρ) : Option (SerialTable Apart × Nat) :=
  match table.find? qualifies with
  | some row => (table.update row.1 (merge row.2)).map fun after => (after, row.1)
  | none => (table.insert fresh).map fun after => (after, table.nextId)

variable {table} {after : SerialTable Apart} {id : Nat} {value old : ρ} {row : Nat × ρ}

theorem update_eq_some_iff (symmetric : ∀ a b, Apart a b → Apart b a) (stored : (id, old) ∈ table.rows) :
    (∃ after, table.update id value = some after) ↔ ∀ row ∈ table.rows, row.1 ≠ id → Apart value row.2 := by
  rw [← pairwise_overwritten symmetric stored, update]
  split
  case isTrue apart => exact ⟨fun _ => apart, fun _ => ⟨_, rfl⟩⟩
  case isFalse apart => exact iff_of_false (fun given => by cases given.choose_spec) apart

theorem rows_update (updated : table.update id value = some after) :
    after.rows = table.overwritten id value ∧ after.nextId = table.nextId := by
  rw [update] at updated
  split at updated
  · cases updated
    exact ⟨rfl, rfl⟩
  · cases updated

theorem mem_update (stored : (id, old) ∈ table.rows) (updated : table.update id value = some after) :
    row ∈ after.rows ↔ row = (id, value) ∨ row ∈ table.rows ∧ row.1 ≠ id := by
  rw [(rows_update updated).1, mem_overwritten stored]

theorem length_update (updated : table.update id value = some after) : after.rows.length = table.rows.length := by
  rw [(rows_update updated).1, overwritten, List.length_map]

theorem insert_eq_some_iff :
    (∃ after, table.insert value = some after) ↔ ∀ row ∈ table.rows, Apart row.2 value := by
  have apart : ((table.rows ++ [(table.nextId, value)]).Pairwise fun a b => Apart a.2 b.2) ↔
      ∀ row ∈ table.rows, Apart row.2 value := by
    rw [List.pairwise_append]
    constructor
    · intro all row member
      exact all.2.2 row member _ (List.mem_singleton_self _)
    · intro all
      apply And.intro table.apart
      apply And.intro (List.pairwise_singleton _ _)
      intro row member new listed
      rw [List.mem_singleton.mp listed]
      exact all row member
  rw [← apart, insert]
  split
  case isTrue holds => exact ⟨fun _ => holds, fun _ => ⟨_, rfl⟩⟩
  case isFalse fails => exact iff_of_false (fun given => by cases given.choose_spec) fails

theorem rows_insert (inserted : table.insert value = some after) : after.rows = table.rows ++ [(table.nextId, value)] := by
  rw [insert] at inserted
  split at inserted
  · cases inserted
    rfl
  · cases inserted

theorem mem_insert (inserted : table.insert value = some after) :
    row ∈ after.rows ↔ row ∈ table.rows ∨ row = (table.nextId, value) := by
  rw [rows_insert inserted, List.mem_append, List.mem_singleton]

end Statements

section Upserts

variable {κ : Type*} [DecidableRel Apart] {table after : SerialTable Apart} {id : Nat} {fresh : ρ} {stored : Nat × ρ}
  {qualifies : ρ → Bool} {merge : ρ → ρ} {column : ρ → κ} {key : κ}

theorem upsert_found (found : table.find? qualifies = some stored) (done : table.upsert qualifies merge fresh = some (after, id)) :
    table.update stored.1 (merge stored.2) = some after ∧ id = stored.1 := by
  rw [upsert, found] at done
  obtain ⟨updated, update, same⟩ := Option.map_eq_some_iff.mp done
  cases same
  exact ⟨update, rfl⟩

theorem upsert_missing (missing : table.find? qualifies = none) (done : table.upsert qualifies merge fresh = some (after, id)) :
    table.insert fresh = some after ∧ id = table.nextId := by
  rw [upsert, missing] at done
  obtain ⟨inserted, insert, same⟩ := Option.map_eq_some_iff.mp done
  cases same
  exact ⟨insert, rfl⟩

theorem upsert_total (symmetric : ∀ a b, Apart a b → Apart b a) (merged : ∀ row other, Apart row other → Apart (merge row) other)
    (free : ∀ row, qualifies row = false → Apart row fresh) : ∃ result, table.upsert qualifies merge fresh = some result := by
  rw [upsert]
  cases found : table.find? qualifies with
  | some stored =>
    have member := (find?_eq_some found).1
    have others : ∀ row ∈ table.rows, row.1 ≠ stored.1 → Apart (merge stored.2) row.2 := by
      intro row rowMember different
      have both : Std.Symm fun a b : Nat × ρ => Apart a.2 b.2 := ⟨fun a b => symmetric a.2 b.2⟩
      apply merged
      exact table.apart.forall member rowMember fun same => different (congrArg Prod.fst same.symm)
    obtain ⟨after, update⟩ := (update_eq_some_iff symmetric member).mpr others
    exact ⟨_, Option.map_eq_some_iff.mpr ⟨after, update, rfl⟩⟩
  | none =>
    obtain ⟨after, insert⟩ := insert_eq_some_iff.mpr fun row member => free row.2 (find?_eq_none found row member)
    exact ⟨_, Option.map_eq_some_iff.mpr ⟨after, insert, rfl⟩⟩

theorem keeps_upsert (merged : ∀ row, column (merge row) = column row)
    (done : table.upsert qualifies merge fresh = some (after, id)) : Keeps column table after := by
  intro row member
  cases found : table.find? qualifies with
  | some stored =>
    have stays : ∀ row, row ∈ after.rows ↔ row = (stored.1, merge stored.2) ∨ row ∈ table.rows ∧ row.1 ≠ stored.1 :=
      fun row => mem_update (find?_eq_some found).1 (upsert_found found done).1
    by_cases here : row.1 = stored.1
    · rw [eq_of_id member (find?_eq_some found).1 here]
      exact ⟨_, (stays _).mpr (.inl rfl), rfl, merged stored.2⟩
    · exact ⟨row, (stays row).mpr (.inr ⟨member, here⟩), rfl, rfl⟩
  | none => exact ⟨row, (mem_insert (upsert_missing found done).1).mpr (.inl member), rfl, rfl⟩

theorem mem_upsert (merged : ∀ row, column (merge row) = column row) (looked : ∀ row, qualifies row = true → column row = key)
    (new : column fresh = key) (done : table.upsert qualifies merge fresh = some (after, id)) :
    ∃ row, (id, row) ∈ after.rows ∧ column row = key := by
  cases found : table.find? qualifies with
  | some stored =>
    obtain ⟨update, rfl⟩ := upsert_found found done
    obtain ⟨member, holds⟩ := find?_eq_some found
    exact ⟨_, (mem_update member update).mpr (.inl rfl), (merged stored.2).trans (looked stored.2 holds)⟩
  | none =>
    obtain ⟨insert, rfl⟩ := upsert_missing found done
    exact ⟨fresh, (mem_insert insert).mpr (.inr rfl), new⟩

theorem idList_upsert_of_mem (present : ∃ row ∈ table.rows, qualifies row.2 = true)
    (done : table.upsert qualifies merge fresh = some (after, id)) :
    after.idList = table.idList ∧ ∃ row, (id, row) ∈ table.rows ∧ qualifies row = true := by
  obtain ⟨row, member, holds⟩ := present
  obtain ⟨stored, found⟩ := find?_isSome member holds
  obtain ⟨update, rfl⟩ := upsert_found found done
  apply And.intro
  · rw [idList, (rows_update update).1, ids_overwritten]
    rfl
  · exact ⟨stored.2, find?_eq_some found⟩

theorem idList_upsert_of_missing (missing : table.find? qualifies = none)
    (done : table.upsert qualifies merge fresh = some (after, id)) : after.idList = table.idList ++ [table.nextId] := by
  rw [idList, rows_insert (upsert_missing missing done).1, List.map_append]
  rfl

theorem nodup_upsert (merged : ∀ row, column (merge row) = column row) (looked : ∀ row, column row = key → qualifies row = true)
    (new : column fresh = key) (distinct : (table.rows.map fun row => column row.2).Nodup)
    (done : table.upsert qualifies merge fresh = some (after, id)) : (after.rows.map fun row => column row.2).Nodup := by
  cases found : table.find? qualifies with
  | some stored =>
    have same : after.rows.map (fun row => column row.2) = table.rows.map fun row => column row.2 := by
      rw [(rows_update (upsert_found found done).1).1, overwritten, List.map_map]
      apply List.map_congr_left
      intro row member
      show column (if row.1 = stored.1 then (stored.1, merge stored.2) else row).2 = column row.2
      by_cases here : row.1 = stored.1
      · rw [if_pos here, eq_of_id member (find?_eq_some found).1 here]
        exact merged stored.2
      · rw [if_neg here]
    rw [same]
    exact distinct
  | none =>
    rw [rows_insert (upsert_missing found done).1, List.map_append]
    apply List.nodup_append.mpr
    apply And.intro distinct
    apply And.intro (List.nodup_singleton _)
    intro value before other last
    obtain ⟨row, member, rfl⟩ := List.mem_map.mp before
    have atLast : other = key := (List.mem_singleton.mp last).trans new
    intro same
    have holds := looked row.2 (same.trans atLast)
    rw [find?_eq_none found row member] at holds
    cases holds

end Upserts

end SerialTable

end Library
