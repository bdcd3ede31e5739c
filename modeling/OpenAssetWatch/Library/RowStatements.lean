import OpenAssetWatch.Library.Dict
import OpenAssetWatch.Library.ReadCommitted

namespace Library.ReadCommitted

/-- A table of a database: its rows by their primary key, and what their locks are called. -/
structure TableOf (κ τ ρ : Type*) where
  rows : τ → Dict String ρ
  modify : (Dict String ρ → Dict String ρ) → τ → τ
  key : String → κ
  rows_modify : ∀ f tables, rows (modify f tables) = f (rows tables)

variable {σ κ τ α ρ : Type*}

namespace TableOf

variable (table : TableOf κ τ ρ) (qualifies : String → ρ → Bool)

/-- The primary keys of the rows that qualify. -/
def ids (tables : τ) : List String := ((table.rows tables).entries.filter fun entry => qualifies entry.1 entry.2).map Prod.fst

/-- The listed rows that still qualify. -/
def selected (ids : List String) (tables : τ) : List (String × ρ) :=
  ids.filterMap fun id => (((table.rows tables).get? id).filter (qualifies id)).map fun row => (id, row)

/-- Change the listed rows that still qualify. -/
def updateRows (ids : List String) (change : ρ → ρ) (tables : τ) : τ :=
  table.modify (fun rows => rows.mapValues fun id row => if ids.contains id && qualifies id row then change row else row) tables

variable {table qualifies} {tables : τ} {id : String} {row : ρ} {ids : List String}

theorem mem_ids : id ∈ table.ids qualifies tables ↔ ∃ row, (table.rows tables).get? id = some row ∧ qualifies id row = true := by
  rw [TableOf.ids, List.mem_map]
  constructor
  · rintro ⟨entry, listed, rfl⟩
    obtain ⟨stored, matching⟩ := List.mem_filter.mp listed
    exact ⟨entry.2, (Dict.get?_eq_some _ _ _).mpr stored, matching⟩
  · rintro ⟨row, stored, matching⟩
    exact ⟨(id, row), List.mem_filter.mpr ⟨(Dict.get?_eq_some _ _ _).mp stored, matching⟩, rfl⟩

theorem mem_selected : (id, row) ∈ table.selected qualifies ids tables ↔
    id ∈ ids ∧ (table.rows tables).get? id = some row ∧ qualifies id row = true := by
  rw [selected, List.mem_filterMap]
  constructor
  · rintro ⟨other, listed, found⟩
    obtain ⟨stored, held, same⟩ := Option.map_eq_some_iff.mp found
    cases same
    obtain ⟨here, matching⟩ := Option.filter_eq_some_iff.mp held
    exact ⟨listed, here, matching⟩
  · rintro ⟨listed, here, matching⟩
    exact ⟨id, listed, Option.map_eq_some_iff.mpr ⟨row, Option.filter_eq_some_iff.mpr ⟨here, matching⟩, rfl⟩⟩

variable (table qualifies) in
theorem get?_updateRows (ids : List String) (change : ρ → ρ) (tables : τ) (id : String) : (table.rows (table.updateRows qualifies ids change tables)).get? id =
    ((table.rows tables).get? id).map fun row => if ids.contains id && qualifies id row then change row else row := by
  rw [updateRows, table.rows_modify, Dict.get?_mapValues]

end TableOf

section Statements

variable (table : TableOf κ τ ρ) (qualifies : String → ρ → Bool)

/-- `SELECT … FOR UPDATE`: the rows of a snapshot are locked one after another and those that still qualify are read again. -/
def selectForUpdate (next : List (String × ρ) → Session σ κ τ α) : Session σ κ τ α :=
  .read none fun snapshot => Session.lockAll
    (.read none fun locked => next (table.selected qualifies (table.ids qualifies snapshot) locked))
    ((table.ids qualifies snapshot).map table.key)

/-- `UPDATE … WHERE`, which locks like `SELECT … FOR UPDATE`, and then has the count of the rows. -/
def updateWhere (change : ρ → ρ) (next : Nat → Session σ κ τ α) : Session σ κ τ α :=
  .read none fun snapshot => Session.lockAll
    (.read none fun locked => .write (table.updateRows qualifies (table.ids qualifies snapshot) change)
      (next (table.selected qualifies (table.ids qualifies snapshot) locked).length))
    ((table.ids qualifies snapshot).map table.key)

/-- `INSERT` of a row with more unique columns: it waits for those who write the same keys, and fails when one is taken. -/
def insertRow (id : String) (unique : List κ) (taken : τ → Bool) (row : ρ) (next conflict : Session σ κ τ α) : Session σ κ τ α :=
  Session.lockAll (.read none fun tables =>
    if ((table.rows tables).get? id).isSome || taken tables then conflict
    else .write (table.modify fun rows => rows.set id row) next) (table.key id :: unique)

/-- `INSERT … ON CONFLICT DO UPDATE`. -/
def upsertRow (name : Option σ) (id : String) (row : Option ρ → ρ) (next : Session σ κ τ α) : Session σ κ τ α :=
  .lock (table.key id) (.read name fun _ => .write (table.modify fun rows => rows.update id row) next)

end Statements

section Rules

open Discipline

variable {rules : Discipline κ τ} {admits : σ → τ → Prop} {Post : α → τ → τ → Prop} {held : Set κ} {changes : τ → τ} {tables : τ}
  {table : TableOf κ τ ρ} {qualifies : String → ρ → Bool}

/-- The locks that a statement leaves its transaction with. -/
def withRows (table : TableOf κ τ ρ) (ids : List String) (held : Set κ) : Set κ := {key | key ∈ ids.map table.key} ∪ held

theorem mem_withRows {ids : List String} {key : κ} : key ∈ withRows table ids held ↔ key ∈ ids.map table.key ∨ key ∈ held := Iff.rfl

theorem held_subset_withRows {ids : List String} : held ⊆ withRows table ids held := Set.subset_union_right

theorem key_mem_withRows {ids : List String} {id : String} (listed : id ∈ ids) : table.key id ∈ withRows table ids held :=
  Or.inl (List.mem_map_of_mem listed)

theorem safe_selectForUpdate {next : List (String × ρ) → Session σ κ τ α}
    (rest : ∀ snapshot later, rules.Meanwhile held tables snapshot → rules.Meanwhile held snapshot later →
      rules.Safe admits Post (next (table.selected qualifies (table.ids qualifies (changes snapshot)) (changes later)))
        (withRows table (table.ids qualifies (changes snapshot)) held) changes later) :
    rules.Safe admits Post (selectForUpdate table qualifies next) held changes tables := by
  intro snapshot goes _
  apply safe_lockAll goes.consistent
  intro locked waits later goesOn _
  exact rest snapshot later goes (waits.trans (goesOn.anti held_subset_withRows))

theorem safe_updateWhere {change : ρ → ρ} {next : Nat → Session σ κ τ α}
    (rest : ∀ snapshot later count, rules.Meanwhile held tables snapshot → rules.Meanwhile held snapshot later →
      rules.Safe admits Post (next count) (withRows table (table.ids qualifies (changes snapshot)) held)
        (table.updateRows qualifies (table.ids qualifies (changes snapshot)) change ∘ changes) later) :
    rules.Safe admits Post (updateWhere table qualifies change next) held changes tables := by
  intro snapshot goes _
  apply safe_lockAll goes.consistent
  intro locked waits later goesOn _
  exact rest snapshot later _ goes (waits.trans (goesOn.anti held_subset_withRows))

theorem safe_insertRow {id : String} {unique : List κ} {taken : τ → Bool} {row : ρ} {next conflict : Session σ κ τ α}
    (consistent : rules.Consistent tables)
    (fails : ∀ later keys, rules.Meanwhile held tables later → rules.Safe admits Post conflict keys changes later)
    (rest : ∀ later, rules.Meanwhile held tables later → (table.rows (changes later)).get? id = none →
      rules.Safe admits Post next ({key | key ∈ table.key id :: unique} ∪ held)
        ((table.modify fun rows => rows.set id row) ∘ changes) later) :
    rules.Safe admits Post (insertRow table id unique taken row next conflict) held changes tables := by
  apply safe_lockAll consistent
  intro locked waits later goesOn _
  have goes := waits.trans (goesOn.anti Set.subset_union_right)
  simp only
  split
  · exact fails later _ goes
  · rename_i free
    rw [Bool.or_eq_true, not_or, Option.not_isSome_iff_eq_none] at free
    exact rest later goes free.1

theorem safe_upsertRow {name : Option σ} {id : String} {row : Option ρ → ρ} {next : Session σ κ τ α}
    (rest : ∀ later, rules.Meanwhile held tables later → (∀ named, name = some named → admits named (changes later)) →
      rules.Safe admits Post next (insert (table.key id) held) ((table.modify fun rows => rows.update id row) ∘ changes) later) :
    rules.Safe admits Post (upsertRow table name id row next) held changes tables := by
  intro locked waits later goesOn found
  exact rest later (waits.trans (goesOn.anti (Set.subset_insert _ _))) found

end Rules

end Library.ReadCommitted
