import OpenAssetWatch.Library.JsonMeasure
import OpenAssetWatch.Library.Run
import OpenAssetWatch.Schema.Migrations

namespace OpenAssetWatch.Schema

open Library Run

/-- The row records the migration. -/
def IsRecordOf (row : AppliedRow) (migration : Migration) : Prop :=
  row.version = migration.version ∧ row.name = migration.name ∧ row.checksum = migration.checksum

/-- The rows record the migrations, each in its place. -/
abbrev Records : List AppliedRow → List Migration → Prop := List.Forall₂ IsRecordOf

section Numbering

variable {available : List Migration} {migration : Migration} {rows : List AppliedRow} {row : AppliedRow} {n : Nat}

theorem Contiguous.version (contiguous : Contiguous available) {i : Nat} (bound : i < available.length) :
    available[i].version = i + 1 := by
  have here : (available.map (·.version))[i]? = (List.range' 1 available.length)[i]? := by rw [contiguous]
  rw [List.getElem?_map, List.getElem?_eq_getElem bound, List.getElem?_range' bound] at here
  simpa [Nat.add_comm] using here

theorem Contiguous.nodup (contiguous : Contiguous available) : (available.map (·.version)).Nodup := by
  rw [contiguous]
  exact List.nodup_range'

theorem Contiguous.find (contiguous : Contiguous available) (member : migration ∈ available) :
    available.reverse.find? (fun other => (other.version : Int) = migration.version) = some migration := by
  cases found : available.reverse.find? (fun other => (other.version : Int) = migration.version) with
  | none =>
    have absent := List.find?_eq_none.mp found migration (List.mem_reverse.mpr member)
    simp at absent
  | some other =>
    have same := List.find?_some found
    have listed := List.mem_reverse.mp (List.mem_of_find?_eq_some found)
    rw [decide_eq_true_iff, Int.ofNat_inj] at same
    rw [List.inj_on_of_nodup_map contiguous.nodup listed member same]

theorem Records.versions {migrations : List Migration} (records : Records rows migrations) :
    rows.map (·.version) = (migrations.map (·.version)).map Int.ofNat := by
  induction records with
  | nil => rfl
  | cons here _ hypothesis => simp only [List.map_cons, hypothesis, here.1, Int.ofNat_eq_natCast]

theorem Contiguous.take (contiguous : Contiguous available) (n : Nat) : Contiguous (available.take n) := by
  rw [Contiguous, List.map_take, contiguous, List.length_take]
  rcases Nat.le_total n available.length with within | beyond
  · rw [List.take_range'_of_length_ge within, Nat.min_eq_left within]
  · rw [List.take_range'_of_length_le beyond, Nat.min_eq_right beyond]

theorem Records.versions_range (records : Records rows (available.take n)) (contiguous : Contiguous available) :
    rows.map (·.version) = (List.range' 1 rows.length).map Int.ofNat := by
  rw [records.versions, records.length_eq, contiguous.take n]

theorem Records.version_get (records : Records rows (available.take n)) (contiguous : Contiguous available) {i : Nat}
    (bound : i < rows.length) : rows[i].version = i + 1 := by
  have here : (rows.map (·.version))[i]? = ((List.range' 1 rows.length).map Int.ofNat)[i]? := by
    rw [records.versions_range contiguous]
  rw [List.getElem?_map, List.getElem?_eq_getElem bound, List.getElem?_map, List.getElem?_range' bound] at here
  simpa [Int.add_comm] using here

theorem Records.version_le (records : Records rows (available.take n)) (contiguous : Contiguous available) (member : row ∈ rows) :
    row.version ≤ rows.length := by
  obtain ⟨i, bound, rfl⟩ := List.getElem_of_mem member
  rw [records.version_get contiguous bound]
  omega

end Numbering

section Validation

variable {available : List Migration} {applied : List AppliedRow} {row : AppliedRow} {migration : Migration}

theorem validateRow_iff (contiguous : Contiguous available) :
    validateRow available row = .ok () ↔ ∃ migration ∈ available, IsRecordOf row migration := by
  constructor
  · intro valid
    unfold validateRow at valid
    split at valid
    · cases valid
    · rename_i migration found
      obtain ⟨name, checksum⟩ := require_bind_eq_ok.mp valid
      have same := List.find?_some found
      refine ⟨migration, List.mem_reverse.mp (List.mem_of_find?_eq_some found), ?_, ?_, ?_⟩
      · exact (of_decide_eq_true same).symm
      · exact of_decide_eq_true name
      · exact of_decide_eq_true (require_eq_ok.mp checksum)
  · rintro ⟨migration, member, version, name, checksum⟩
    unfold validateRow
    simp only [version, contiguous.find member, name, checksum, decide_true]
    rfl

theorem validateAppliedHistory_iff (contiguous : Contiguous available) :
    validateAppliedHistory applied available = .ok () ↔ Records applied (available.take applied.length) := by
  rw [validateAppliedHistory, require_bind_eq_ok, forM_eq_ok]
  simp only [validateRow_iff contiguous]
  constructor
  · rintro ⟨numbered, rows⟩
    have versions : applied.map (·.version) = (List.range' 1 applied.length).map Int.ofNat := by
      cases last : applied.getLast? with
      | none => rw [List.getLast?_eq_none_iff.mp last]; rfl
      | some row =>
        rw [last, Option.all_some, decide_eq_true_iff] at numbered
        have length := congrArg List.length numbered
        rw [versionsTo, List.length_map, List.length_map, List.length_range'] at length
        rw [numbered, versionsTo, length]
    have place : ∀ i (bound : i < applied.length), ∃ inside : i < available.length, IsRecordOf applied[i] available[i] := by
      intro i bound
      obtain ⟨migration, member, record⟩ := rows applied[i] (List.getElem_mem bound)
      obtain ⟨j, inside, rfl⟩ := List.getElem_of_mem member
      have version : (applied.map (·.version))[i]? = ((List.range' 1 applied.length).map Int.ofNat)[i]? := by rw [versions]
      rw [List.getElem?_map, List.getElem?_eq_getElem bound, List.getElem?_map, List.getElem?_range' bound, Option.map_some,
        Option.map_some, Option.some_inj, record.1, contiguous.version inside, Int.ofNat_eq_natCast, Int.ofNat_inj] at version
      obtain rfl : j = i := by omega
      exact ⟨inside, record⟩
    have enough : applied.length ≤ available.length := by
      rcases Nat.eq_zero_or_pos applied.length with none | some
      · omega
      · obtain ⟨inside, _⟩ := place (applied.length - 1) (by omega)
        omega
    refine List.forall₂_iff_get.mpr ⟨by rw [List.length_take]; omega, fun i bound inside => ?_⟩
    obtain ⟨_, record⟩ := place i bound
    simpa using record
  · intro records
    refine ⟨?_, fun row member => ?_⟩
    · cases last : applied.getLast? with
      | none => rfl
      | some row =>
        rw [Option.all_some, decide_eq_true_iff, records.versions_range contiguous, versionsTo]
        have some : 0 < applied.length := List.length_pos_of_ne_nil fun empty => by rw [empty] at last; cases last
        rw [List.getLast?_eq_getElem?, List.getElem?_eq_getElem (by omega), Option.some_inj] at last
        rw [← last, records.version_get contiguous (by omega)]
        congr 2
        omega
    · obtain ⟨i, bound, rfl⟩ := List.getElem_of_mem member
      obtain ⟨length, each⟩ := List.forall₂_iff_get.mp records
      have record := each i bound (length ▸ bound)
      exact ⟨_, List.mem_of_mem_take (List.get_mem _ _), record⟩

end Validation

section Loading

variable {rows : List AppliedRow} {row : AppliedRow}

theorem loadApplied_perm (rows : List AppliedRow) : (loadApplied rows).Perm rows := List.perm_insertionSort _ rows

theorem length_loadApplied (rows : List AppliedRow) : (loadApplied rows).length = rows.length := (loadApplied_perm rows).length_eq

theorem orderedInsert_below {below : AppliedRow} (le : below.version ≤ row.version) (rows : List AppliedRow) :
    (rows ++ [row]).orderedInsert (fun first second => first.version ≤ second.version) below =
      rows.orderedInsert (fun first second => first.version ≤ second.version) below ++ [row] := by
  induction rows with
  | nil => simp [List.orderedInsert_cons, le]
  | cons other rows hypothesis =>
    rw [List.cons_append, List.orderedInsert_cons, List.orderedInsert_cons, hypothesis]
    split <;> rfl

theorem loadApplied_append (above : ∀ other ∈ rows, other.version ≤ row.version) :
    loadApplied (rows ++ [row]) = loadApplied rows ++ [row] := by
  induction rows with
  | nil => rfl
  | cons other rows hypothesis =>
    have rest := hypothesis fun member listed => above member (List.mem_cons_of_mem _ listed)
    unfold loadApplied at rest ⊢
    rw [List.cons_append, List.insertionSort_cons, List.insertionSort_cons, rest]
    exact orderedInsert_below (above other List.mem_cons_self) _

end Loading

section Pending

variable {available : List Migration} {applied : List AppliedRow} {n : Nat}

theorem pending_eq (contiguous : Contiguous available) (records : Records applied (available.take n)) :
    (available.filter fun migration => !applied.any (·.version = migration.version)) = available.drop n := by
  have versions : ∀ version : Nat, applied.any (·.version = version) = true ↔ version ∈ (available.take n).map (·.version) := by
    intro version
    have same : (∃ row ∈ applied, row.version = version) ↔ (version : Int) ∈ applied.map (·.version) := List.mem_map.symm
    rw [List.any_eq_true]
    simp only [decide_eq_true_eq]
    rw [same, records.versions, List.mem_map]
    simp
  have front : (available.take n).filter (fun migration => !applied.any (·.version = migration.version)) = [] := by
    rw [List.filter_eq_nil_iff]
    intro migration member
    simp [(versions migration.version).mpr (List.mem_map_of_mem member)]
  have back : (available.drop n).filter (fun migration => !applied.any (·.version = migration.version)) = available.drop n := by
    rw [List.filter_eq_self]
    intro migration member
    have apart : migration.version ∉ (available.take n).map (·.version) := by
      have nodup := contiguous.nodup
      rw [← List.take_append_drop n available, List.map_append, List.nodup_append] at nodup
      exact fun listed => nodup.2.2 _ listed _ (List.mem_map_of_mem member) rfl
    rw [Bool.not_eq_true', Bool.eq_false_iff]
    exact fun found => apart ((versions migration.version).mp found)
  conv_lhs => rw [← List.take_append_drop n available]
  rw [List.filter_append, front, back, List.nil_append]

end Pending

section Steps

variable {σ κ : Type} {tools : SchemaTools σ κ} {database after : Database σ} {available : List Migration} {contract : κ}

theorem transact_database {α : Type} (delivery : Delivery) {block : Except Raised (Database σ × α)} :
    (transact delivery database block).1 = database ∨ ∃ value, block = .ok ((transact delivery database block).1, value) := by
  rcases block with raised | ⟨committed, value⟩ <;> cases delivery <;> simp [transact]

theorem transact_ok {α : Type} {delivery : Delivery} {block : Except Raised (Database σ × α)} {value : α}
    (given : (transact delivery database block).2 = .ok value) :
    block = .ok ((transact delivery database block).1, value) := by
  rcases block with raised | ⟨committed, result⟩ <;> cases delivery <;> simp_all [transact]

theorem prepare_ok {pending : List Migration} (contiguous : Contiguous available)
    (done : prepare tools available contract database = .ok (after, pending)) :
    after = { database with history := some database.rows } ∧
      Records (loadApplied database.rows) (available.take database.rows.length) ∧
      pending = available.drop database.rows.length := by
  obtain ⟨_, _, rest⟩ := bind_eq_ok.mp done
  obtain ⟨_, valid, rest⟩ := bind_eq_ok.mp rest
  obtain ⟨_, _, rest⟩ := bind_eq_ok.mp rest
  cases rest
  have records := (validateAppliedHistory_iff contiguous).mp (mapError_eq_ok.mp valid)
  rw [length_loadApplied] at records
  exact ⟨rfl, records, pending_eq contiguous records⟩

theorem applyMigration_ok {migration : Migration} {call : Applying} {done : Unit}
    (applied : applyMigration tools available migration call database = .ok (after, done)) :
    tools.runSql migration.sql database.schema = .ok after.schema ∧
      after.history = some (database.rows ++ [appliedRow migration call]) := by
  obtain ⟨schema, run, rest⟩ := bind_eq_ok.mp applied
  obtain ⟨_, _, rest⟩ := bind_eq_ok.mp rest
  obtain ⟨_, _, rest⟩ := bind_eq_ok.mp rest
  obtain ⟨rows, inserted, rest⟩ := bind_eq_ok.mp rest
  cases rest
  obtain ⟨_, inserted⟩ := require_bind_eq_ok.mp inserted
  obtain ⟨_, inserted⟩ := require_bind_eq_ok.mp inserted
  obtain ⟨_, inserted⟩ := require_bind_eq_ok.mp inserted
  cases inserted
  exact ⟨run, rfl⟩

theorem conclude_ok {status : SchemaStatus} (done : conclude tools available contract database = .ok (after, status)) :
    after = database ∧ status = statusFromApplied (loadApplied database.rows) available := by
  obtain ⟨_, _, rest⟩ := bind_eq_ok.mp done
  obtain ⟨_, _, rest⟩ := bind_eq_ok.mp rest
  cases rest
  exact ⟨rfl, rfl⟩

end Steps

section Moves

variable {σ κ : Type} (tools : SchemaTools σ κ) (P : List Migration → Prop)

/-- The history records the first of the migrations. -/
def Recorded (database : Database σ) (available : List Migration) : Prop :=
  Records (loadApplied database.rows) (available.take database.rows.length)

/-- What a turn of a caller leaves of the database. -/
inductive Write (state : Migrators σ κ) (caller : Nat) : Database σ → Prop
  | nothing : Write state caller state.database
  | opening {available : List Migration} {contract : κ} : state.phase caller = .locked available contract →
      Recorded state.database available → Write state caller { state.database with history := some state.database.rows }
  | applying {available : List Migration} {contract : κ} {migration : Migration} {pending : List Migration}
      {database : Database σ} (call : Applying) : state.phase caller = .applying available contract (migration :: pending) →
      tools.runSql migration.sql state.database.schema = .ok database.schema →
      database.history = some (state.database.rows ++ [appliedRow migration call]) → Write state caller database

/-- What a phase says about the database. -/
def Phase.Known (database : Database σ) : Phase κ → Prop
  | .waiting available _ | .locked available _ => P available
  | .applying available _ pending => P available ∧ Recorded database available ∧ pending = available.drop database.rows.length
  | .finished (.ok status) | .ended (.ok status) => status.state = .ready ∧ status.pendingMigrationCount = 0
  | _ => True

/-- A call that has its status, or has returned it. -/
def Phase.isReady : Phase κ → Bool
  | .finished (.ok _) | .ended (.ok _) => true
  | _ => false

/-- What a turn of a caller does; every turn that is not refused is one of these. -/
inductive Move (state : Migrators σ κ) (caller : Nat) : Migrators σ κ → Prop
  | stay : Move state caller state
  | wait {available : List Migration} (contract : κ) : P available → (state.phase caller).holds = false →
      Move state caller (state.enter caller (.waiting available contract))
  | leave (raised : Raised) : (state.phase caller).holds = false → Move state caller (state.enter caller (.ended (.error raised)))
  | lock {available : List Migration} {contract : κ} : state.phase caller = .waiting available contract → state.lock = none →
      Move state caller { state.enter caller (.locked available contract) with lock := some caller }
  | prepare {available : List Migration} {contract : κ} : state.phase caller = .locked available contract →
      Recorded state.database available → Move state caller
        { state.enter caller (.applying available contract (available.drop state.database.rows.length)) with
          database := { state.database with history := some state.database.rows } }
  | apply {available : List Migration} {contract : κ} {migration : Migration} {pending : List Migration}
      {database : Database σ} (call : Applying) : state.phase caller = .applying available contract (migration :: pending) →
      tools.runSql migration.sql state.database.schema = .ok database.schema →
      database.history = some (state.database.rows ++ [appliedRow migration call]) → Move state caller
        { state.enter caller (.applying available contract pending) with database }
  | fail (raised : Raised) {database : Database σ} : (state.phase caller).holds = true → Write tools state caller database →
      Move state caller { state.enter caller (.finished (.error raised)) with database }
  | conclude {available : List Migration} {contract : κ} : state.phase caller = .applying available contract [] →
      Move state caller (state.enter caller (.finished (.ok (statusFromApplied (loadApplied state.database.rows) available))))
  | release {outcome : Except Raised SchemaStatus} (failure : Option String) : state.phase caller = .finished outcome →
      Move state caller { state.enter caller (.ended (afterRelease failure outcome)) with lock := none }
  | die : Move state caller
      { state.enter caller .idle with lock := if state.lock = some caller then none else state.lock }

variable {tools P} {state after : Migrators σ κ} {caller : Nat}

theorem Move.write (move : Move tools P state caller after) : Write tools state caller after.database := by
  cases move with
  | prepare locked recorded => exact .opening locked recorded
  | apply call applying run history => exact .applying call applying run history
  | fail _ _ write => exact write
  | _ => exact .nothing

/-- The releases that a turn finds are those in question. -/
def Turn.Finds (tools : SchemaTools σ κ) (P : List Migration → Prop) : Turn → Prop
  | .begins entries => ∀ available, discoverMigrations tools.sha256 entries = .ok available → P available
  | _ => True

theorem settle_move {α : Type} {result : Database σ × Except Raised α} {goOn : α → Phase κ}
    (holds : (state.phase caller).holds = true) (write : Write tools state caller result.1)
    (goes : ∀ value, result.2 = .ok value →
      Move tools P state caller { state.enter caller (goOn value) with database := result.1 }) :
    Move tools P state caller (state.settle caller result goOn) := by
  cases given : result.2 with
  | ok value => simpa [Migrators.settle, given] using goes value given
  | error raised => simpa [Migrators.settle, given] using Move.fail raised holds write

theorem prepare_move {available : List Migration} {contract : κ} (contiguous : Contiguous available) (delivery : Delivery)
    (locked : state.phase caller = .locked available contract) :
    Move tools P state caller (state.settle caller
      (transact delivery state.database (prepare tools available contract state.database)) (.applying available contract)) := by
  apply settle_move
  · rw [locked]
    rfl
  · rcases transact_database delivery with same | ⟨pending, done⟩
    · rw [same]
      exact .nothing
    · obtain ⟨opened, recorded, _⟩ := prepare_ok contiguous done
      rw [opened]
      exact .opening locked recorded
  · intro pending given
    obtain ⟨opened, recorded, rfl⟩ := prepare_ok contiguous (transact_ok given)
    rw [opened]
    exact .prepare locked recorded

theorem apply_move {available : List Migration} {contract : κ} {migration : Migration} {pending : List Migration}
    (call : Applying) (delivery : Delivery) (applying : state.phase caller = .applying available contract (migration :: pending)) :
    Move tools P state caller (state.settle caller
      ((transact delivery state.database (applyMigration tools available migration call state.database)).1,
        (transact delivery state.database (applyMigration tools available migration call state.database)).2.mapError
          (rolledBack migration)) fun _ => .applying available contract pending) := by
  apply settle_move
  · rw [applying]
    rfl
  · rcases transact_database delivery with same | ⟨_, done⟩
    · rw [same]
      exact .nothing
    · obtain ⟨run, history⟩ := applyMigration_ok done
      exact .applying call applying run history
  · intro _ given
    obtain ⟨run, history⟩ := applyMigration_ok (transact_ok (mapError_eq_ok.mp given))
    exact .apply call applying run history

theorem conclude_move {available : List Migration} {contract : κ} (delivery : Delivery)
    (applying : state.phase caller = .applying available contract []) :
    Move tools P state caller (state.settle caller
      (transact delivery state.database (conclude tools available contract state.database)) fun status => .finished (.ok status)) := by
  apply settle_move
  · rw [applying]
    rfl
  · rcases transact_database delivery with same | ⟨_, done⟩
    · rw [same]
      exact .nothing
    · rw [(conclude_ok done).1]
      exact .nothing
  · intro status given
    obtain ⟨same, rfl⟩ := conclude_ok (transact_ok given)
    rw [same]
    exact .conclude applying

theorem begin_move {entries : List DirectoryEntry} (finds : Turn.Finds tools P (.begins entries))
    (rests : (state.phase caller).holds = false) : Move tools P state caller (state.enter caller (beginCall tools entries)) := by
  unfold beginCall
  split
  · exact .leave _ rests
  · rename_i available discovered
    split
    · exact .leave _ rests
    · exact .wait _ (finds available discovered) rests

theorem next_move (proper : ∀ available, P available → Contiguous available)
    (known : (state.phase caller).Known P state.database) {turn : Turn} (finds : turn.Finds tools P) :
    Move tools P state caller (state.next tools (caller, turn)) := by
  unfold Migrators.next
  split
  · rename_i same phase
    exact begin_move (same ▸ finds) (by rw [phase]; rfl)
  · rename_i same phase
    exact begin_move (same ▸ finds) (by rw [phase]; rfl)
  · rename_i phase
    split
    · rename_i free
      exact .lock phase free
    · exact .stay
  · rename_i phase
    exact .leave _ (by rw [phase]; rfl)
  · rename_i phase
    rw [phase] at known
    exact prepare_move (proper _ known) _ phase
  · rename_i phase
    exact apply_move _ _ phase
  · rename_i phase
    exact conclude_move _ phase
  · rename_i phase
    exact .release _ phase
  · exact .die
  · exact .stay

end Moves

section Callers

variable {σ κ : Type} {tools : SchemaTools σ κ} {P : List Migration → Prop} {state after : Migrators σ κ} {caller : Nat}

/-- The caller between acquisition and release has the lock, and what each caller knows is so. -/
structure Ordered (P : List Migration → Prop) (state : Migrators σ κ) : Prop where
  holder : ∀ caller, (state.phase caller).holds = true → state.lock = some caller
  known : ∀ caller, (state.phase caller).Known P state.database

theorem Ordered.alone (ordered : Ordered P state) (lock : state.lock = none ∨ state.lock = some caller) {other : Nat}
    (apart : other ≠ caller) : (state.phase other).holds = false := by
  rw [Bool.eq_false_iff]
  intro holds
  have own := ordered.holder other holds
  rcases lock with free | taken
  · rw [free] at own
    cases own
  · rw [taken, Option.some_inj] at own
    exact apart own.symm

theorem Phase.Known.elsewhere {phase : Phase κ} {database other : Database σ} (known : phase.Known P database)
    (idle : phase.holds = false) : phase.Known P other := by
  cases phase with
  | applying => cases idle
  | finished => cases idle
  | ended outcome => cases outcome <;> exact known
  | _ => exact known

theorem Ordered.enter (ordered : Ordered P state) {phase : Phase κ} {database : Database σ} {lock : Option Nat}
    (own : phase.holds = true → lock = some caller) (known : phase.Known P database)
    (others : (lock = state.lock ∧ database = state.database) ∨
      ∀ other, other ≠ caller → (state.phase other).holds = false) :
    Ordered P { state.enter caller phase with database, lock } where
  holder other holds := by
    by_cases same : other = caller
    · subst same
      exact own (by simpa [Migrators.enter] using holds)
    · have held : (Function.update state.phase caller phase other).holds = true := holds
      rw [Function.update_of_ne same] at held
      rcases others with ⟨rfl, _⟩ | idle
      · exact ordered.holder other held
      · rw [idle other same] at held
        cases held
  known other := by
    by_cases same : other = caller
    · subst same
      simpa [Migrators.enter] using known
    · show (Function.update state.phase caller phase other).Known P database
      rw [Function.update_of_ne same]
      rcases others with ⟨_, rfl⟩ | idle
      · exact ordered.known other
      · exact (ordered.known other).elsewhere (idle other same)

theorem recorded_append {database next : Database σ} {available pending : List Migration} {migration : Migration}
    {call : Applying} (contiguous : Contiguous available) (recorded : Recorded database available)
    (rest : migration :: pending = available.drop database.rows.length)
    (history : next.history = some (database.rows ++ [appliedRow migration call])) :
    next.rows = database.rows ++ [appliedRow migration call] ∧
      loadApplied next.rows = loadApplied database.rows ++ [appliedRow migration call] ∧ Recorded next available ∧
      pending = available.drop next.rows.length := by
  have within : database.rows.length < available.length := by
    by_contra beyond
    rw [List.drop_eq_nil_of_le (by omega)] at rest
    cases rest
  rw [List.drop_eq_getElem_cons within] at rest
  obtain ⟨rfl, rfl⟩ := List.cons.inj rest
  have rows : next.rows = database.rows ++ [appliedRow available[database.rows.length] call] := by
    rw [Database.rows, history, Option.getD_some]
  have loaded : loadApplied next.rows = loadApplied database.rows ++ [appliedRow available[database.rows.length] call] := by
    rw [rows]
    apply loadApplied_append
    intro other member
    have below := recorded.version_le contiguous ((loadApplied_perm _).mem_iff.mpr member)
    rw [length_loadApplied] at below
    simp only [appliedRow, contiguous.version within]
    omega
  refine ⟨rows, loaded, ?_, ?_⟩
  · rw [Recorded, loaded, rows, List.length_append, List.length_singleton, List.take_add_one, List.getElem?_eq_getElem within]
    exact List.rel_append recorded (.cons ⟨rfl, rfl, rfl⟩ .nil)
  · rw [rows, List.length_append, List.length_singleton]

theorem status_ready {database : Database σ} {available : List Migration} (contiguous : Contiguous available)
    (recorded : Recorded database available) (complete : available.length ≤ database.rows.length) :
    (statusFromApplied (loadApplied database.rows) available).state = .ready ∧
      (statusFromApplied (loadApplied database.rows) available).pendingMigrationCount = 0 := by
  have count : available.length = (loadApplied database.rows).length := by
    have length := recorded.length_eq
    rw [List.length_take, length_loadApplied] at length
    rw [length_loadApplied]
    omega
  have last : latestVersion available ≤ ((loadApplied database.rows).getLast?.map (·.version)).getD 0 := by
    rw [latestVersion, List.getLast?_eq_getElem?, List.getLast?_eq_getElem?, count]
    rcases Nat.eq_zero_or_pos (loadApplied database.rows).length with empty | some
    · rw [List.length_eq_zero_iff.mp (count.trans empty), List.length_eq_zero_iff.mp empty]
      exact le_rfl
    · rw [List.getElem?_eq_getElem (by omega), List.getElem?_eq_getElem (by omega)]
      simp only [Option.map_some, Option.getD_some, contiguous.version, recorded.version_get contiguous]
      omega
  have none : max 0 (latestVersion available - ((loadApplied database.rows).getLast?.map (·.version)).getD 0) = 0 := by omega
  simp only [statusFromApplied, none]
  exact ⟨rfl, trivial⟩

theorem Ordered.move (ordered : Ordered P state) (proper : ∀ available, P available → Contiguous available)
    (move : Move tools P state caller after) : Ordered P after := by
  have known := ordered.known caller
  cases move with
  | stay => exact ordered
  | wait contract wanted _ => exact ordered.enter nofun wanted (.inl ⟨rfl, rfl⟩)
  | leave raised _ => exact ordered.enter nofun trivial (.inl ⟨rfl, rfl⟩)
  | lock waiting free =>
    rw [waiting] at known
    exact ordered.enter (fun _ => rfl) known (.inr fun _ apart => ordered.alone (.inl free) apart)
  | prepare locked recorded =>
    have own := ordered.holder caller (by rw [locked]; rfl)
    rw [locked] at known
    exact ordered.enter (fun _ => own) ⟨known, recorded, rfl⟩ (.inr fun _ apart => ordered.alone (.inr own) apart)
  | apply call applying run history =>
    have own := ordered.holder caller (by rw [applying]; rfl)
    rw [applying] at known
    obtain ⟨_, _, recorded, rest⟩ := recorded_append (proper _ known.1) known.2.1 known.2.2 history
    exact ordered.enter (fun _ => own) ⟨known.1, recorded, rest⟩ (.inr fun _ apart => ordered.alone (.inr own) apart)
  | fail raised holds write =>
    have own := ordered.holder caller holds
    exact ordered.enter (fun _ => own) trivial (.inr fun _ apart => ordered.alone (.inr own) apart)
  | conclude applying =>
    have own := ordered.holder caller (by rw [applying]; rfl)
    rw [applying] at known
    have complete := List.drop_eq_nil_iff.mp known.2.2.symm
    exact ordered.enter (fun _ => own) (status_ready (proper _ known.1) known.2.1 complete) (.inl ⟨rfl, rfl⟩)
  | release failure finished =>
    have own := ordered.holder caller (by rw [finished]; rfl)
    rw [finished] at known
    refine ordered.enter nofun ?_ (.inr fun _ apart => ordered.alone (.inr own) apart)
    cases failure with
    | none => rename_i outcome; cases outcome <;> exact known
    | some => trivial
  | die =>
    by_cases own : state.lock = some caller
    · exact ordered.enter nofun trivial (.inr fun _ apart => ordered.alone (.inr own) apart)
    · exact ordered.enter nofun trivial (.inl ⟨if_neg own, rfl⟩)

end Callers

section Runs

variable {σ κ : Type} (tools : SchemaTools σ κ) {P : List Migration → Prop} {state after : Migrators σ κ} {caller : Nat}

/-- The migrations that some call of a run discovers. -/
def Discovered (events : List (Nat × Turn)) (available : List Migration) : Prop :=
  ∃ caller entries, (caller, Turn.begins entries) ∈ events ∧ discoverMigrations tools.sha256 entries = .ok available

/-- The SQL of the migrations, one after the other. -/
def SchemaTools.runAll (tools : SchemaTools σ κ) (applied : List Migration) (schema : σ) : Except Raised σ :=
  applied.foldlM (fun schema migration => tools.runSql migration.sql schema) schema

theorem runAll_append (applied : List Migration) (migration : Migration) (schema : σ) :
    tools.runAll (applied ++ [migration]) schema = tools.runAll applied schema >>= tools.runSql migration.sql := by
  simp [SchemaTools.runAll]

/-- What calls made of a database: the rows they added, each for a migration whose SQL made its part of the schema. -/
structure MigrationHistory (P : List Migration → Prop) (found database : Database σ) (added : List AppliedRow)
    (applied : List Migration) : Prop where
  rows : database.rows = found.rows ++ added
  loaded : loadApplied database.rows = loadApplied found.rows ++ added
  records : Records added applied
  known : ∀ migration ∈ applied, ∃ available, P available ∧ migration ∈ available
  schema : tools.runAll applied found.schema = .ok database.schema
  contiguous : added ≠ [] → ∃ available, P available ∧ Recorded database available

variable {tools}

theorem MigrationHistory.same {found database : Database σ} {added : List AppliedRow} {applied : List Migration}
    (history : MigrationHistory tools P found database added applied) :
    MigrationHistory tools P found { database with history := some database.rows } added applied :=
  ⟨history.rows, history.loaded, history.records, history.known, history.schema, history.contiguous⟩

theorem MigrationHistory.write {found database : Database σ} {added : List AppliedRow} {applied : List Migration}
    (history : MigrationHistory tools P found state.database added applied) (ordered : Ordered P state)
    (proper : ∀ available, P available → Contiguous available) (write : Write tools state caller database) :
    ∃ added applied, MigrationHistory tools P found database added applied := by
  cases write with
  | nothing => exact ⟨added, applied, history⟩
  | opening => exact ⟨added, applied, history.same⟩
  | applying call applying run next =>
    rename_i available contract migration pending
    have known := ordered.known caller
    rw [applying] at known
    obtain ⟨rows, loaded, recorded, _⟩ := recorded_append (proper _ known.1) known.2.1 known.2.2 next
    refine ⟨added ++ [appliedRow migration call], applied ++ [migration], ?_, ?_, ?_, ?_, ?_, fun _ => ⟨_, known.1, recorded⟩⟩
    · rw [rows, history.rows, List.append_assoc]
    · rw [loaded, history.loaded, List.append_assoc]
    · exact List.rel_append history.records (.cons ⟨rfl, rfl, rfl⟩ .nil)
    · intro other member
      rcases List.mem_append.mp member with before | here
      · exact history.known other before
      · rw [List.mem_singleton.mp here]
        exact ⟨_, known.1, List.mem_of_mem_drop (known.2.2 ▸ List.mem_cons_self)⟩
    · rw [runAll_append, history.schema]
      exact run

theorem runMigrators_append (before events : List (Nat × Turn)) :
    runMigrators tools state (before ++ events) = runMigrators tools (runMigrators tools state before) events := List.foldl_append

theorem finds_discovered {events : List (Nat × Turn)} {event : Nat × Turn} (listed : event ∈ events) :
    event.2.Finds tools (Discovered tools events) := by
  obtain ⟨caller, turn⟩ := event
  cases turn with
  | begins entries => exact fun available discovered => ⟨caller, entries, listed, discovered⟩
  | _ => trivial

theorem discovered_contiguous {events : List (Nat × Turn)} (available : List Migration)
    (discovered : Discovered tools events available) : Contiguous available := by
  obtain ⟨_, _, _, found⟩ := discovered
  exact (discoverMigrations_contiguous found).2

theorem start_ordered (found : Database σ) : Ordered (κ := κ) P (startMigrators found) := ⟨nofun, fun _ => trivial⟩

theorem runMigrators_invariant (proper : ∀ available, P available → Contiguous available) (Q : Migrators σ κ → Prop)
    (keep : ∀ state caller after, Ordered P state → Move tools P state caller after → Q state → Q after)
    (events : List (Nat × Turn)) (finds : ∀ event ∈ events, event.2.Finds tools P) (ordered : Ordered P state) (holds : Q state) :
    Ordered P (runMigrators tools state events) ∧ Q (runMigrators tools state events) := by
  apply invariant_end (P := fun _ event => event.2.Finds tools P) (fun state => Ordered P state ∧ Q state)
  · intro state event good finds
    have move : Move tools P state event.1 (state.next tools event) := next_move proper (good.1.known event.1) finds
    exact ⟨good.1.move proper move, keep state event.1 _ good.1 move good.2⟩
  · exact ⟨ordered, holds⟩
  · exact along_of_forall finds

/-- Between any two moments of any run, calls only add rows, for migrations whose SQL has run once each and in order, and
the history they leave is the first migrations of a release; no two calls are between acquisition and release. -/
theorem migration_history (tools : SchemaTools σ κ) (found : Database σ) (before events : List (Nat × Turn)) :
    (∃ added applied, MigrationHistory tools (Discovered tools (before ++ events))
      (runMigrators tools (startMigrators found) before).database
      (runMigrators tools (startMigrators found) (before ++ events)).database added applied) ∧
    ∀ one other, ((runMigrators tools (startMigrators found) (before ++ events)).phase one).holds = true →
      ((runMigrators tools (startMigrators found) (before ++ events)).phase other).holds = true → one = other := by
  have finds : ∀ event ∈ before ++ events, event.2.Finds tools (Discovered tools (before ++ events)) :=
    fun _ listed => finds_discovered listed
  have first := (runMigrators_invariant discovered_contiguous (fun _ => True) (fun _ _ _ _ _ _ => trivial) before
    (fun event listed => finds event (List.mem_append_left _ listed)) (start_ordered found) trivial).1
  obtain ⟨ordered, history⟩ := runMigrators_invariant discovered_contiguous
    (fun state => ∃ added applied, MigrationHistory tools (Discovered tools (before ++ events))
      (runMigrators tools (startMigrators found) before).database state.database added applied)
    (fun state caller after ordered move ⟨_, _, history⟩ => history.write ordered discovered_contiguous move.write) events
    (fun event listed => finds event (List.mem_append_right _ listed)) first
    ⟨[], [], (List.append_nil _).symm, (List.append_nil _).symm, .nil, nofun, rfl, fun some => absurd rfl some⟩
  rw [runMigrators_append]
  refine ⟨history, fun one other own held => ?_⟩
  have same := (ordered.holder one own).symm.trans (ordered.holder other held)
  exact Option.some_inj.mp same

/-- The history has all the migrations in question. -/
def Complete (P : List Migration → Prop) (database : Database σ) : Prop :=
  ∀ available, P available → Recorded database available ∧ available.length = database.rows.length

theorem opened_eq {database : Database σ} (rows : database.rows ≠ []) : { database with history := some database.rows } = database := by
  obtain ⟨schema, history⟩ := database
  cases history with
  | none => exact absurd rfl rows
  | some => rfl

theorem Write.unchanged {database : Database σ} (ordered : Ordered P state) (complete : Complete P state.database)
    (some : ∀ available, P available → available ≠ []) (write : Write tools state caller database) :
    database = state.database := by
  have known := ordered.known caller
  cases write with
  | nothing => rfl
  | opening locked _ =>
    rw [locked] at known
    have rows : state.database.rows ≠ [] := by
      rw [← List.length_pos_iff, ← (complete _ known).2, List.length_pos_iff]
      exact some _ known
    exact opened_eq rows
  | applying call applying _ _ =>
    rw [applying] at known
    have rest := congrArg List.length known.2.2
    rw [List.length_drop, (complete _ known.1).2, Nat.sub_self] at rest
    cases rest

theorem isReady_enter {phase : Phase κ} {other : Nat} (ready : (Function.update state.phase caller phase other).isReady = true) :
    phase.isReady = true ∨ (state.phase other).isReady = true := by
  by_cases same : other = caller
  · subst same
    exact .inl (by simpa using ready)
  · rw [Function.update_of_ne same] at ready
    exact .inr ready

theorem Move.ready (move : Move tools P state caller after) {other : Nat} (ready : (after.phase other).isReady = true) :
    (∃ before, (state.phase before).isReady = true) ∨
      ∃ available contract, state.phase caller = .applying available contract [] ∧ after.database = state.database := by
  cases move with
  | stay => exact .inl ⟨_, ready⟩
  | conclude applying => exact .inr ⟨_, _, applying, rfl⟩
  | release failure finished =>
    rename_i outcome
    refine .inl ?_
    rcases isReady_enter ready with here | elsewhere
    · refine ⟨caller, ?_⟩
      rw [finished]
      cases failure with
      | none => cases outcome <;> exact here
      | some => cases here
    · exact ⟨_, elsewhere⟩
  | wait => exact .inl ((isReady_enter ready).elim nofun fun elsewhere => ⟨_, elsewhere⟩)
  | leave => exact .inl ((isReady_enter ready).elim nofun fun elsewhere => ⟨_, elsewhere⟩)
  | lock => exact .inl ((isReady_enter ready).elim nofun fun elsewhere => ⟨_, elsewhere⟩)
  | prepare => exact .inl ((isReady_enter ready).elim nofun fun elsewhere => ⟨_, elsewhere⟩)
  | apply => exact .inl ((isReady_enter ready).elim nofun fun elsewhere => ⟨_, elsewhere⟩)
  | fail => exact .inl ((isReady_enter ready).elim nofun fun elsewhere => ⟨_, elsewhere⟩)
  | die => exact .inl ((isReady_enter ready).elim nofun fun elsewhere => ⟨_, elsewhere⟩)

/-- Once a call of a release has returned, its status is ready, the history is that release, and no later call of the
release, nor one still under way, changes the database. -/
theorem ready_settles (tools : SchemaTools σ κ) (found : Database σ) (before events : List (Nat × Turn))
    (release : List Migration) (only : ∀ available, Discovered tools (before ++ events) available → available = release)
    (discovered : Discovered tools (before ++ events) release) (caller : Nat) (status : SchemaStatus)
    (returned : (runMigrators tools (startMigrators found) before).phase caller = .ended (.ok status)) :
    status.state = .ready ∧ status.pendingMigrationCount = 0 ∧
      Records (loadApplied (runMigrators tools (startMigrators found) before).database.rows) release ∧
      (runMigrators tools (startMigrators found) (before ++ events)).database =
        (runMigrators tools (startMigrators found) before).database := by
  have finds : ∀ event ∈ before ++ events, event.2.Finds tools (Discovered tools (before ++ events)) :=
    fun _ listed => finds_discovered listed
  have some : ∀ available, Discovered tools (before ++ events) available → available ≠ [] := by
    rintro available ⟨_, _, _, same⟩
    exact (discoverMigrations_contiguous same).1
  obtain ⟨ordered, complete⟩ := runMigrators_invariant discovered_contiguous
    (fun state => (∃ caller, (state.phase caller).isReady = true) → Complete (Discovered tools (before ++ events)) state.database)
    (by
      rintro state caller after ordered move complete ⟨other, ready⟩
      rcases move.ready ready with earlier | ⟨available, contract, applying, same⟩
      · rw [move.write.unchanged ordered (complete earlier) some]
        exact complete earlier
      · have known := ordered.known caller
        rw [applying] at known
        intro wanted discovered
        rw [only wanted discovered, ← only available known.1, same]
        have length := known.2.1.length_eq
        rw [length_loadApplied, List.length_take] at length
        have all := List.drop_eq_nil_iff.mp known.2.2.symm
        exact ⟨known.2.1, by omega⟩)
    before (fun event listed => finds event (List.mem_append_left _ listed)) (start_ordered found) (by rintro ⟨_, ready⟩; cases ready)
  have complete := complete ⟨caller, by rw [returned]; rfl⟩
  have known := ordered.known caller
  rw [returned] at known
  obtain ⟨recorded, length⟩ := complete release discovered
  refine ⟨known.1, known.2, ?_, ?_⟩
  · rw [Recorded, ← length, List.take_length] at recorded
    exact recorded
  · rw [runMigrators_append]
    exact (runMigrators_invariant discovered_contiguous
      (fun state => state.database = (runMigrators tools (startMigrators found) before).database)
      (fun state caller after ordered' move same =>
        (move.write.unchanged ordered' (same ▸ complete) some).trans same) events
      (fun event listed => finds event (List.mem_append_right _ listed)) ordered rfl).2

/-- A database of the scripts that ran. -/
def sampleTools : SchemaTools (List String) Unit where
  sha256 _ := String.ofList (List.replicate 64 'a')
  runSql sql scripts := .ok (scripts ++ [sql])
  schemaContract _ := .ok ()
  stateContract := ()
  verify _ _ _ _ := .ok ()

def sampleMigration : Migration := ⟨1, "a", String.ofList (List.replicate 64 'a'), "x"⟩

def sampleEntries : List DirectoryEntry := [⟨['0', '0', '0', '1', '_', 'a', '.', 's', 'q', 'l'], .ok (JsonText.encode ['x'])⟩]

def sampleApplying : Applying := ⟨5, 1, "0.1.0"⟩

/-- A call that loses its attempt at the migration, and the next call. -/
def sampleCalls : List (Nat × Turn) :=
  [(0, .begins sampleEntries), (0, .acquires), (0, .prepares .sound), (0, .applies sampleApplying (.lost "OperationalError")),
    (0, .releases none), (0, .begins sampleEntries), (0, .acquires), (0, .prepares .sound), (0, .applies sampleApplying .sound),
    (0, .concludes .sound), (0, .releases none)]

theorem sample_discovers : discoverMigrations sampleTools.sha256 sampleEntries = .ok [sampleMigration] := by decide +kernel

theorem sample_only {available : List Migration} (discovered : Discovered sampleTools (sampleCalls ++ sampleCalls) available) :
    available = [sampleMigration] := by
  obtain ⟨caller, entries, listed, found⟩ := discovered
  have same : entries = sampleEntries := by
    simp only [sampleCalls, List.cons_append, List.nil_append, List.mem_cons, Prod.mk.injEq, Turn.begins.injEq, reduceCtorEq,
      and_false, false_or, List.not_mem_nil, or_false] at listed
    rcases listed with listed | listed | listed | listed <;> exact listed.2
  rw [same] at found
  exact Except.ok.inj (found.symm.trans sample_discovers)

/-- The calls are made once more. -/
theorem ready_settles_again :
    (runMigrators sampleTools (startMigrators ⟨[], none⟩) (sampleCalls ++ sampleCalls)).database =
      (runMigrators sampleTools (startMigrators ⟨[], none⟩) sampleCalls).database :=
  (ready_settles sampleTools ⟨[], none⟩ sampleCalls sampleCalls [sampleMigration] (fun _ => sample_only)
    ⟨0, sampleEntries, by simp [sampleCalls], sample_discovers⟩ 0 ⟨.ready, 1, 1, 0, .compatible, .verified, some 5⟩
    (by decide +kernel)).2.2.2

/-- A history that records the first migrations of no release is left alone by every call, and no call returns a status. -/
theorem refused_untouched (tools : SchemaTools σ κ) (found : Database σ) (events : List (Nat × Turn))
    (refused : ∀ available, Discovered tools events available → ¬Recorded found available) :
    (runMigrators tools (startMigrators found) events).database = found ∧
      ∀ caller status, (runMigrators tools (startMigrators found) events).phase caller ≠ .ended (.ok status) := by
  obtain ⟨_, same, none⟩ := @runMigrators_invariant σ κ tools _ _ discovered_contiguous
    (fun state => state.database = found ∧ ∀ caller, (state.phase caller).isReady = false)
    (by
      rintro state caller after ordered move ⟨same, none⟩
      have known := ordered.known caller
      have idle : ∀ available contract pending, state.phase caller ≠ .applying available contract pending := by
        intro available contract pending applying
        rw [applying, same] at known
        exact refused available known.1 known.2.1
      constructor
      · have write := move.write
        generalize after.database = next at write ⊢
        cases write with
        | nothing => exact same
        | opening locked recorded =>
          rw [locked] at known
          exact absurd (same ▸ recorded) (refused _ known)
        | applying call applying => exact absurd applying (idle _ _ _)
      · intro other
        rw [Bool.eq_false_iff]
        intro ready
        rcases move.ready ready with ⟨before, earlier⟩ | ⟨available, contract, applying, _⟩
        · rw [none before] at earlier
          cases earlier
        · exact idle _ _ _ applying)
    events (fun _ listed => finds_discovered listed) (start_ordered found) ⟨rfl, fun _ => rfl⟩
  refine ⟨same, fun caller status returned => ?_⟩
  have ready := none caller
  rw [returned] at ready
  cases ready

/-- A history whose first row has the version 2. -/
def gapped : Database (List String) :=
  ⟨[], some [⟨2, "b", String.ofList (List.replicate 64 'a'), 5, 1, "0.1.0", "0.1.0"⟩]⟩

theorem refused_untouched_gap : (runMigrators sampleTools (startMigrators gapped) (sampleCalls ++ sampleCalls)).database = gapped :=
  (refused_untouched sampleTools gapped (sampleCalls ++ sampleCalls) (by
    intro available discovered recorded
    rw [sample_only discovered] at recorded
    cases recorded with
    | cons here _ => exact absurd here.1 (by decide))).1

end Runs

end OpenAssetWatch.Schema
