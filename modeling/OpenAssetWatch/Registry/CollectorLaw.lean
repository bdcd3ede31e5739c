import OpenAssetWatch.Library.Run
import OpenAssetWatch.Library.SerialTable
import OpenAssetWatch.Text.Json

namespace OpenAssetWatch.Registry

open Library Text

section Rows

/-- A row of `collectors`; its times of creation and change are left to the database. -/
structure CollectorRow where
  collectorId : String
  collectorGuid : Option String
  collectorName : Option String
  collectorVersion : Option String
  deploymentId : Option String
  deployment : List (String × Json)
  labels : List (String × Json)
  supportedCapabilities : List String
  enabledCapabilities : List String
  lastMode : Option String
  lastSeenAt : Time
  lastSubmissionId : Option Nat

/-- The guid of a row; an empty text names no installation. -/
def CollectorRow.guid? (row : CollectorRow) : Option String := row.collectorGuid.filter (· ≠ "")

/-- `UNIQUE` of `collector_id` and the partial unique index of `collector_guid`. -/
def CollectorRow.Apart (a b : CollectorRow) : Prop :=
  a.collectorId ≠ b.collectorId ∧ ∀ guid ∈ a.collectorGuid, b.collectorGuid ≠ some guid

instance : DecidableRel CollectorRow.Apart := fun a b =>
  inferInstanceAs (Decidable (a.collectorId ≠ b.collectorId ∧ ∀ guid ∈ a.collectorGuid, b.collectorGuid ≠ some guid))

/-- The table `collectors`. -/
abbrev CollectorTable := SerialTable CollectorRow.Apart

end Rows

section Calls

/-- The arguments of `_upsert_collector`. -/
structure CollectorCall where
  collectorGuid : Option String
  collectorId : Option String
  collectorName : Option String := none
  collectorVersion : Option String := none
  deployment : List (String × Json) := []
  labels : List (String × Json) := []
  supportedCapabilities : List Json := []
  enabledCapabilities : List Json := []
  mode : Option String := none
  seenAt : Time := 0
  lastSubmissionId : Option Nat := none

def CollectorCall.guid? (call : CollectorCall) : Option String := call.collectorGuid.filter (· ≠ "")

def CollectorCall.id? (call : CollectorCall) : Option String := call.collectorId.filter (· ≠ "")

variable (printed : Json → String)

/-- `_capability_list` of a list. -/
def capabilityList (values : List Json) : List String :=
  values.foldl (fun capabilities item => match cleanText printed item with
    | some text => if text ∈ capabilities then capabilities else capabilities ++ [text]
    | none => capabilities) []

def CollectorCall.deploymentId (call : CollectorCall) : Option String :=
  cleanText printed ((Json.object call.deployment).get "deployment_id")

/-- The row that `INSERT INTO collectors` makes. -/
def CollectorCall.row (call : CollectorCall) (collectorId : String) : CollectorRow where
  collectorId
  collectorGuid := call.collectorGuid
  collectorName := call.collectorName
  collectorVersion := call.collectorVersion
  deploymentId := call.deploymentId printed
  deployment := call.deployment
  labels := call.labels
  supportedCapabilities := capabilityList printed call.supportedCapabilities
  enabledCapabilities := capabilityList printed call.enabledCapabilities
  lastMode := call.mode
  lastSeenAt := call.seenAt
  lastSubmissionId := call.lastSubmissionId

/-- `UPDATE collectors`. -/
def CollectorCall.overwrite (call : CollectorCall) (collectorId : String) (row : CollectorRow) : CollectorRow where
  collectorId
  collectorGuid := call.collectorGuid.or row.collectorGuid
  collectorName := call.collectorName.or row.collectorName
  collectorVersion := call.collectorVersion.or row.collectorVersion
  deploymentId := (call.deploymentId printed).or row.deploymentId
  deployment := call.deployment
  labels := call.labels
  supportedCapabilities := capabilityList printed call.supportedCapabilities
  enabledCapabilities := capabilityList printed call.enabledCapabilities
  lastMode := call.mode.or row.lastMode
  lastSeenAt := call.seenAt
  lastSubmissionId := call.lastSubmissionId.or row.lastSubmissionId

end Calls

section Upsert

variable (printed : Json → String) (table : CollectorTable)

/-- The row that the two lookups find. -/
def existing (call : CollectorCall) (collectorId : String) : Option (Nat × CollectorRow) :=
  (call.guid?.bind fun guid => table.find? fun row => row.collectorGuid = some guid).or
    (table.find? fun row => row.collectorId = collectorId)

/-- `_upsert_collector` with the id of the row; there is no result when a unique constraint is violated. -/
def upsertCollector (call : CollectorCall) : Option (CollectorTable × Option Nat) :=
  match call.id? with
  | none => some (table, none)
  | some collectorId =>
    match existing table call collectorId with
    | some (id, row) => (table.update id (call.overwrite printed collectorId row)).map fun after => (after, some id)
    | none => (table.insert (call.row printed collectorId)).map fun after => (after, some table.nextId)

/-- A transaction that calls `_upsert_collector`; a violation rolls it back. -/
def step (table : CollectorTable) (call : CollectorCall) : CollectorTable :=
  ((upsertCollector printed table call).map Prod.fst).getD table

end Upsert

section Lookups

variable {table after : CollectorTable} {call : CollectorCall} {collectorId guid : String} {stored : Nat × CollectorRow}

theorem apart_symm (a b : CollectorRow) (apart : a.Apart b) : b.Apart a := by
  apply And.intro apart.1.symm
  intro guid held same
  exact apart.2 guid same held

/-- The row holds one of the two names of the call. -/
def CollectorRow.heldBy (row : CollectorRow) (call : CollectorCall) (collectorId : String) : Prop :=
  row.collectorId = collectorId ∨ ∃ guid ∈ call.collectorGuid, row.collectorGuid = some guid

theorem guid?_of_mem {given : Option String} (held : guid ∈ given.filter (· ≠ "")) : given = some guid ∧ guid ≠ "" := by
  obtain ⟨same, shown⟩ := Option.filter_eq_some_iff.mp held
  exact ⟨same, of_decide_eq_true shown⟩

theorem mem_guid? {given : Option String} (same : given = some guid) (shown : guid ≠ "") : guid ∈ given.filter (· ≠ "") :=
  Option.filter_eq_some_iff.mpr ⟨same, decide_eq_true shown⟩

theorem existing_mem (found : existing table call collectorId = some stored) :
    stored ∈ table.rows ∧ stored.2.heldBy call collectorId := by
  rcases Option.or_eq_some_iff.mp found with byGuid | ⟨_, byId⟩
  · obtain ⟨guid, given, first⟩ := Option.bind_eq_some_iff.mp byGuid
    obtain ⟨member, holds⟩ := SerialTable.find?_eq_some first
    exact ⟨member, .inr ⟨guid, (guid?_of_mem given).1, of_decide_eq_true holds⟩⟩
  · obtain ⟨member, holds⟩ := SerialTable.find?_eq_some byId
    exact ⟨member, .inl (of_decide_eq_true holds)⟩

theorem existing_none (missing : existing table call collectorId = none) :
    ∀ row ∈ table.rows, row.2.collectorId ≠ collectorId ∧ ∀ guid ∈ call.guid?, row.2.collectorGuid ≠ some guid := by
  obtain ⟨byGuid, byId⟩ := Option.or_eq_none_iff.mp missing
  intro row member
  apply And.intro
  · exact of_decide_eq_false (SerialTable.find?_eq_none byId row member)
  · intro guid given
    have none : (table.find? fun row => decide (row.collectorGuid = some guid)) = none :=
      Option.bind_eq_none_iff.mp byGuid guid given
    exact of_decide_eq_false (SerialTable.find?_eq_none none row member)

end Lookups

section Step

variable {printed : Json → String} {table : CollectorTable} {call : CollectorCall} {collectorId : String}

theorem overwrite_guid (row : CollectorRow) :
    (call.overwrite printed collectorId row).collectorGuid = call.collectorGuid.or row.collectorGuid := rfl

theorem overwrite_apart_iff {stored : Nat × CollectorRow} (member : stored ∈ table.rows) :
    (∀ row ∈ table.rows, row.1 ≠ stored.1 → (call.overwrite printed collectorId stored.2).Apart row.2) ↔
      ∀ row ∈ table.rows, row.2.heldBy call collectorId → row = stored := by
  have distinct : ∀ row ∈ table.rows, row.1 = stored.1 → row = stored :=
    fun row rowMember same => SerialTable.eq_of_id rowMember member same
  constructor
  · intro apart row rowMember held
    by_contra different
    have other : row.1 ≠ stored.1 := fun same => different (distinct row rowMember same)
    have holds := apart row rowMember other
    rcases held with byId | ⟨guid, given, byGuid⟩
    · exact holds.1 byId.symm
    · apply holds.2 guid _ byGuid
      rw [overwrite_guid, Option.mem_def.mp given]
      rfl
  · intro alone row rowMember other
    have free : ¬ row.2.heldBy call collectorId := fun held => other (congrArg Prod.fst (alone row rowMember held))
    apply And.intro
    · intro same
      exact free (.inl same.symm)
    · intro guid held same
      rcases Option.or_eq_some_iff.mp held with given | ⟨_, kept⟩
      · exact free (.inr ⟨guid, given, same⟩)
      · have different : stored ≠ row := fun equal => other (congrArg Prod.fst equal.symm)
        have symmetric : Std.Symm fun a b : Nat × CollectorRow => a.2.Apart b.2 := ⟨fun a b => apart_symm a.2 b.2⟩
        exact (table.apart.forall member rowMember different).2 guid kept same

theorem row_apart_iff : (∀ row ∈ table.rows, row.2.Apart (call.row printed collectorId)) ↔
    ∀ row ∈ table.rows, ¬ row.2.heldBy call collectorId := by
  constructor
  · intro apart row member held
    rcases held with byId | ⟨guid, given, byGuid⟩
    · exact (apart row member).1 byId
    · exact (apart row member).2 guid byGuid given
  · intro free row member
    apply And.intro
    · exact fun same => free row member (.inl same)
    · exact fun guid held given => free row member (.inr ⟨guid, given, held⟩)

theorem upsertCollector_found {stored : Nat × CollectorRow} (named : call.id? = some collectorId)
    (found : existing table call collectorId = some stored) :
    upsertCollector printed table call =
      (table.update stored.1 (call.overwrite printed collectorId stored.2)).map fun after => (after, some stored.1) := by
  simp only [upsertCollector, named, found]

theorem upsertCollector_missing (named : call.id? = some collectorId) (missing : existing table call collectorId = none) :
    upsertCollector printed table call =
      (table.insert (call.row printed collectorId)).map fun after => (after, some table.nextId) := by
  simp only [upsertCollector, named, missing]

theorem upsertCollector_unnamed (unnamed : call.id? = none) : upsertCollector printed table call = some (table, none) := by
  simp only [upsertCollector, unnamed]

theorem upsertCollector_eq_some_iff (named : call.id? = some collectorId) :
    (∃ result, upsertCollector printed table call = some result) ↔
      ∀ row ∈ table.rows, row.2.heldBy call collectorId → existing table call collectorId = some row := by
  cases found : existing table call collectorId with
  | some stored =>
    obtain ⟨member, _⟩ := existing_mem found
    have updated : (∃ after, table.update stored.1 (call.overwrite printed collectorId stored.2) = some after) ↔
        ∀ row ∈ table.rows, row.2.heldBy call collectorId → row = stored :=
      (SerialTable.update_eq_some_iff apart_symm member).trans (overwrite_apart_iff member)
    rw [upsertCollector_found named found]
    constructor
    · rintro ⟨result, done⟩ other otherMember held
      obtain ⟨after, update, _⟩ := Option.map_eq_some_iff.mp done
      rw [updated.mp ⟨after, update⟩ other otherMember held]
    · intro alone
      have same : ∀ other ∈ table.rows, other.2.heldBy call collectorId → other = stored := by
        intro other otherMember held
        exact (Option.some.inj (alone other otherMember held)).symm
      obtain ⟨after, update⟩ := updated.mpr same
      exact ⟨_, Option.map_eq_some_iff.mpr ⟨after, update, rfl⟩⟩
  | none =>
    have inserted : (∃ after, table.insert (call.row printed collectorId) = some after) ↔
        ∀ row ∈ table.rows, ¬ row.2.heldBy call collectorId :=
      SerialTable.insert_eq_some_iff.trans row_apart_iff
    rw [upsertCollector_missing named found]
    constructor
    · rintro ⟨result, done⟩ other otherMember held
      obtain ⟨after, insert, _⟩ := Option.map_eq_some_iff.mp done
      exact absurd held (inserted.mp ⟨after, insert⟩ other otherMember)
    · intro alone
      have free : ∀ other ∈ table.rows, ¬ other.2.heldBy call collectorId := by
        intro other otherMember held
        cases alone other otherMember held
      obtain ⟨after, insert⟩ := inserted.mpr free
      exact ⟨_, Option.map_eq_some_iff.mpr ⟨after, insert, rfl⟩⟩

end Step

section Guids

variable {printed : Json → String} {table after : CollectorTable} {call : CollectorCall} {collectorId guid : String}
  {row stored : Nat × CollectorRow}

/-- A row carries the guid. -/
def Presents (table : CollectorTable) (guid : String) : Prop := ∃ row ∈ table.rows, row.2.guid? = some guid

theorem eq_of_guid (first : row ∈ table.rows) (second : stored ∈ table.rows) (held : row.2.collectorGuid = some guid)
    (same : stored.2.collectorGuid = some guid) : row = stored := by
  by_contra different
  have symmetric : Std.Symm fun a b : Nat × CollectorRow => a.2.Apart b.2 := ⟨fun a b => apart_symm a.2 b.2⟩
  exact (table.apart.forall first second different).2 guid held same

theorem presents_iff_unique : Presents table guid ↔ ∃! row, row ∈ table.rows ∧ row.2.guid? = some guid := by
  constructor
  · rintro ⟨row, member, carried⟩
    apply ExistsUnique.intro row ⟨member, carried⟩
    rintro other ⟨otherMember, otherCarried⟩
    exact eq_of_guid otherMember member (guid?_of_mem otherCarried).1 (guid?_of_mem carried).1
  · rintro ⟨row, ⟨member, carried⟩, _⟩
    exact ⟨row, member, carried⟩

theorem step_unnamed (unnamed : call.id? = none) : step printed table call = table := by
  rw [step, upsertCollector_unnamed unnamed]
  rfl

theorem mem_step_found (named : call.id? = some collectorId) (found : existing table call collectorId = some stored)
    (done : ∃ result, upsertCollector printed table call = some result) :
    row ∈ (step printed table call).rows ↔
      row = (stored.1, call.overwrite printed collectorId stored.2) ∨ row ∈ table.rows ∧ row.1 ≠ stored.1 := by
  obtain ⟨result, done⟩ := done
  rw [upsertCollector_found named found] at done
  obtain ⟨after, update, same⟩ := Option.map_eq_some_iff.mp done
  rw [step, upsertCollector_found named found, update]
  exact SerialTable.mem_update (existing_mem found).1 update

theorem mem_step_missing (named : call.id? = some collectorId) (missing : existing table call collectorId = none)
    (done : ∃ result, upsertCollector printed table call = some result) :
    row ∈ (step printed table call).rows ↔ row ∈ table.rows ∨ row = (table.nextId, call.row printed collectorId) := by
  obtain ⟨result, done⟩ := done
  rw [upsertCollector_missing named missing] at done
  obtain ⟨after, insert, same⟩ := Option.map_eq_some_iff.mp done
  rw [step, upsertCollector_missing named missing, insert]
  exact SerialTable.mem_insert insert

theorem overwrite_guid_of_given (given : guid ∈ call.guid?) (row : CollectorRow) :
    (call.overwrite printed collectorId row).guid? = some guid := by
  obtain ⟨same, shown⟩ := guid?_of_mem given
  apply mem_guid? _ shown
  rw [overwrite_guid, same]
  rfl

theorem overwrite_guid_of_kept (carried : guid ∈ row.2.guid?) (agrees : ∀ given ∈ call.collectorGuid, given = guid) :
    (call.overwrite printed collectorId row.2).guid? = some guid := by
  obtain ⟨same, shown⟩ := guid?_of_mem carried
  apply mem_guid? _ shown
  rw [overwrite_guid]
  cases given : call.collectorGuid with
  | none => exact same
  | some text =>
    rw [agrees text given]
    rfl

end Guids

section Identity

variable (printed : Json → String)

/-- What is asked of one call. -/
structure Kept (table : CollectorTable) (call : CollectorCall) : Prop where
  /-- A call with a `collector_id` violates no constraint. -/
  succeeds : ∀ collectorId, call.id? = some collectorId → ∃ result, upsertCollector printed table call = some result
  /-- No row is rewritten to carry another guid. -/
  guids : ∀ row ∈ table.rows, ∀ later ∈ (step printed table call).rows, later.1 = row.1 →
    ∀ guid ∈ row.2.guid?, ∀ other ∈ later.2.guid?, other = guid

/-- The registry after the calls. -/
def registry (calls : List CollectorCall) : CollectorTable := calls.foldl (step printed) SerialTable.empty

def seenGuids (calls : List CollectorCall) : List String := calls.filterMap (·.guid?)

/-- The identity of collectors over a sequence of calls. -/
structure RegistryIdentity (calls : List CollectorCall) : Prop where
  kept : ∀ done call rest, calls = done ++ call :: rest → Kept printed (registry printed done) call
  rows : ∀ done rest, calls = done ++ rest →
    ∀ guid ∈ seenGuids done, ∃! row, row ∈ (registry printed done).rows ∧ row.2.guid? = some guid

/-- The call meets no identity but its own. -/
structure Settled (table : CollectorTable) (call : CollectorCall) : Prop where
  unnamed : call.id? = none → ∀ guid ∈ call.guid?, Presents table guid
  alone : ∀ collectorId, call.id? = some collectorId →
    ∀ row ∈ table.rows, row.2.heldBy call collectorId → existing table call collectorId = some row
  same : ∀ collectorId, call.id? = some collectorId → ∀ row, existing table call collectorId = some row →
    ∀ guid ∈ row.2.guid?, ∀ given ∈ call.collectorGuid, given = guid

variable {printed} {table : CollectorTable} {call : CollectorCall} {calls : List CollectorCall}

theorem presents_of_settled (settled : Settled table call) {guid : String} (asked : Presents table guid ∨ guid ∈ call.guid?) :
    Presents (step printed table call) guid := by
  cases named : call.id? with
  | none =>
    rw [step_unnamed named]
    exact asked.elim id fun given => settled.unnamed named guid given
  | some collectorId =>
    have done : ∃ result, upsertCollector printed table call = some result :=
      (upsertCollector_eq_some_iff named).mpr (settled.alone collectorId named)
    cases found : existing table call collectorId with
    | some stored =>
      have changed := (mem_step_found named found done).mpr (.inl rfl)
      rcases asked with ⟨row, member, carried⟩ | given
      · by_cases here : row.1 = stored.1
        · rw [SerialTable.eq_of_id member (existing_mem found).1 here] at carried
          have agrees := settled.same collectorId named stored found guid carried
          exact ⟨_, changed, overwrite_guid_of_kept carried agrees⟩
        · exact ⟨row, (mem_step_found named found done).mpr (.inr ⟨member, here⟩), carried⟩
      · exact ⟨_, changed, overwrite_guid_of_given given stored.2⟩
    | none =>
      rcases asked with ⟨row, member, carried⟩ | given
      · exact ⟨row, (mem_step_missing named found done).mpr (.inl member), carried⟩
      · exact ⟨_, (mem_step_missing named found done).mpr (.inr rfl), given⟩

theorem kept_of_settled (settled : Settled table call) : Kept printed table call := by
  apply Kept.mk
  · intro collectorId named
    exact (upsertCollector_eq_some_iff named).mpr (settled.alone collectorId named)
  · intro row member later laterMember same guid carried other otherCarried
    have atRow : ∀ old ∈ table.rows, old.1 = row.1 → old = row :=
      fun old oldMember equal => SerialTable.eq_of_id oldMember member equal
    have unchanged : later ∈ table.rows → other = guid := by
      intro old
      rw [atRow later old same, Option.mem_def.mp carried] at otherCarried
      exact (Option.some.inj otherCarried).symm
    cases named : call.id? with
    | none =>
      rw [step_unnamed named] at laterMember
      exact unchanged laterMember
    | some collectorId =>
      have done : ∃ result, upsertCollector printed table call = some result :=
        (upsertCollector_eq_some_iff named).mpr (settled.alone collectorId named)
      cases found : existing table call collectorId with
      | some stored =>
        rcases (mem_step_found named found done).mp laterMember with rfl | ⟨old, _⟩
        · have equal := atRow stored (existing_mem found).1 same
          rw [← equal] at carried
          have agrees := settled.same collectorId named stored found guid carried
          rw [overwrite_guid_of_kept carried agrees] at otherCarried
          exact (Option.some.inj otherCarried).symm
        · exact unchanged old
      | none =>
        rcases (mem_step_missing named found done).mp laterMember with old | rfl
        · exact unchanged old
        · exact absurd same.symm (SerialTable.nextId_fresh member)

theorem settled_of_kept (kept : Kept printed table call)
    (presents : ∀ guid, Presents table guid ∨ guid ∈ call.guid? → Presents (step printed table call) guid) :
    Settled table call := by
  apply Settled.mk
  · intro unnamed guid given
    have still := presents guid (.inr given)
    rw [step_unnamed unnamed] at still
    exact still
  · intro collectorId named
    exact (upsertCollector_eq_some_iff named).mp (kept.succeeds collectorId named)
  · intro collectorId named stored found guid carried given givenMember
    obtain ⟨member, _⟩ := existing_mem found
    obtain ⟨row, rowMember, rowCarried⟩ := presents guid (.inl ⟨stored, member, carried⟩)
    rcases (mem_step_found named found (kept.succeeds collectorId named)).mp rowMember with rfl | ⟨old, other⟩
    · have overwritten := (guid?_of_mem rowCarried).1
      rw [overwrite_guid, Option.mem_def.mp givenMember] at overwritten
      exact Option.some.inj overwritten
    · have equal := eq_of_guid old member (guid?_of_mem rowCarried).1 (guid?_of_mem carried).1
      exact absurd (congrArg Prod.fst equal) other

theorem registry_append (done : List CollectorCall) (call : CollectorCall) :
    registry printed (done ++ [call]) = step printed (registry printed done) call := by
  rw [registry, List.foldl_append]
  rfl

theorem mem_seenGuids_append {done : List CollectorCall} {guid : String} :
    guid ∈ seenGuids (done ++ [call]) ↔ guid ∈ seenGuids done ∨ guid ∈ call.guid? := by
  rw [seenGuids, List.filterMap_append, List.mem_append]
  cases given : call.guid? with
  | none => simp [given, seenGuids]
  | some text => simp [given, seenGuids, eq_comm]

theorem presents_step {guid : String} (presents : Presents (step printed table call) guid) :
    Presents table guid ∨ guid ∈ call.guid? := by
  obtain ⟨row, member, carried⟩ := presents
  cases named : call.id? with
  | none =>
    rw [step_unnamed named] at member
    exact .inl ⟨row, member, carried⟩
  | some collectorId =>
    by_cases done : ∃ result, upsertCollector printed table call = some result
    · cases found : existing table call collectorId with
      | some stored =>
        rcases (mem_step_found named found done).mp member with rfl | ⟨old, _⟩
        · obtain ⟨same, shown⟩ := guid?_of_mem carried
          rcases Option.or_eq_some_iff.mp same with given | ⟨_, kept⟩
          · exact .inr (mem_guid? given shown)
          · exact .inl ⟨stored, (existing_mem found).1, mem_guid? kept shown⟩
        · exact .inl ⟨row, old, carried⟩
      | none =>
        rcases (mem_step_missing named found done).mp member with old | rfl
        · exact .inl ⟨row, old, carried⟩
        · exact .inr carried
    · have failed : upsertCollector printed table call = none := by
        cases result : upsertCollector printed table call with
        | none => rfl
        | some value => exact absurd ⟨value, result⟩ done
      rw [step, failed] at member
      exact .inl ⟨row, member, carried⟩

theorem seen_of_presents {guid : String} (presents : Presents (registry printed calls) guid) : guid ∈ seenGuids calls := by
  induction calls using List.reverseRecOn with
  | nil =>
    obtain ⟨row, member, _⟩ := presents
    cases member
  | append_singleton done call ih =>
    rw [registry_append] at presents
    exact mem_seenGuids_append.mpr ((presents_step presents).imp_left ih)

/-- The identity of collectors holds over exactly those sequences in which every call is settled. -/
theorem registry_identity_iff (calls : List CollectorCall) :
    RegistryIdentity printed calls ↔ Run.Along (step printed) Settled SerialTable.empty calls := by
  rw [Run.along_iff]
  constructor
  · intro identity done call rest split
    apply settled_of_kept (identity.kept done call rest split)
    intro guid asked
    have next : calls = (done ++ [call]) ++ rest := by rw [split, List.append_assoc]; rfl
    have presents := presents_iff_unique.mpr (identity.rows (done ++ [call]) rest next guid
      (mem_seenGuids_append.mpr (asked.imp_left seen_of_presents)))
    rw [registry_append] at presents
    exact presents
  · intro settled
    apply RegistryIdentity.mk
    · intro done call rest split
      exact kept_of_settled (settled done call rest split)
    · intro done
      induction done using List.reverseRecOn with
      | nil =>
        intro rest _ guid seen
        cases seen
      | append_singleton done call ih =>
        intro rest split guid seen
        have here : calls = done ++ call :: rest := by rw [split, List.append_assoc]; rfl
        apply presents_iff_unique.mp
        rw [registry_append]
        apply presents_of_settled (settled done call rest here)
        exact (mem_seenGuids_append.mp seen).imp_left fun before =>
          presents_iff_unique.mpr (ih (call :: rest) here guid before)

end Identity

section Samples

def sampleCall (guid collectorId : String) : CollectorCall := { collectorGuid := some guid, collectorId := some collectorId }

/-- Two collectors that exchange a `collector_id`, and one that is installed anew under its `collector_id`. -/
theorem registry_identity_lost :
    ¬ RegistryIdentity (fun _ => "") [sampleCall "guid-a" "office", sampleCall "guid-b" "lab", sampleCall "guid-a" "lab"] ∧
      ¬ RegistryIdentity (fun _ => "") [sampleCall "guid-a" "office", sampleCall "guid-b" "office"] := by
  constructor
  · intro identity
    have kept := identity.kept [sampleCall "guid-a" "office", sampleCall "guid-b" "lab"] (sampleCall "guid-a" "lab") [] rfl
    obtain ⟨result, done⟩ := kept.succeeds "lab" rfl
    have violated : (upsertCollector (fun _ => "")
        (registry (fun _ => "") [sampleCall "guid-a" "office", sampleCall "guid-b" "lab"]) (sampleCall "guid-a" "lab")).isNone =
          true := by decide +kernel
    rw [done] at violated
    cases violated
  · intro identity
    have rows := identity.rows [sampleCall "guid-a" "office", sampleCall "guid-b" "office"] [] rfl "guid-a"
      List.mem_cons_self
    obtain ⟨row, ⟨member, carried⟩, _⟩ := rows
    have gone : (registry (fun _ => "") [sampleCall "guid-a" "office", sampleCall "guid-b" "office"]).rows.all
        (fun row => row.2.guid? ≠ some "guid-a") = true := by decide +kernel
    exact of_decide_eq_true (List.all_eq_true.mp gone row member) carried

end Samples

end OpenAssetWatch.Registry
