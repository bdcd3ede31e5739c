import OpenAssetWatch.Identity.Rules

namespace OpenAssetWatch.Identity

open Library ReadCommitted

section Generic

variable {ρ η : Type} [Credential ρ] [Enrollment η] {key : String → IdentityKey} {keys : Set IdentityKey}
  {agents later : Dict String AgentRow} {credentials credentials' : Dict String ρ} {enrollments : Dict String η}
  {completions : List Completion}

theorem CredentialsChange.mapValues {f : String → ρ → ρ} (owner : ∀ id row, Credential.owner (f id row) = Credential.owner row)
    (active : ∀ id row, IsActive (f id row) → IsActive row) (locked : ∀ id row, key id ∉ keys → f id row = row) :
    CredentialsChange key keys credentials (credentials.mapValues f) where
  kept id row stored := by
    refine ⟨f id row, ?_, owner id row, active id row⟩
    rw [Dict.get?_mapValues, stored]
    rfl
  frame id free := by
    rw [Dict.get?_mapValues]
    cases credentials.get? id with
    | none => rfl
    | some row => exact congrArg some (locked id row free)
  new id row absent stored := by
    rw [Dict.get?_mapValues, absent] at stored
    cases stored

theorem OneActive.mapValues (one : OneActive credentials) {f : String → ρ → ρ}
    (owner : ∀ id row, Credential.owner (f id row) = Credential.owner row) (active : ∀ id row, IsActive (f id row) → IsActive row) :
    OneActive (credentials.mapValues f) := by
  intro id other row row' stored stored' here there same
  rw [Dict.get?_mapValues, Option.map_eq_some_iff] at stored stored'
  obtain ⟨first, held, rfl⟩ := stored
  obtain ⟨second, held', rfl⟩ := stored'
  rw [owner, owner] at same
  exact one id other first second held held' (active _ _ here) (active _ _ there) same

theorem Owned.mapValues (owned : Owned agents credentials) {f : String → ρ → ρ}
    (owner : ∀ id row, Credential.owner (f id row) = Credential.owner row) : Owned agents (credentials.mapValues f) := by
  intro id row stored
  rw [Dict.get?_mapValues, Option.map_eq_some_iff] at stored
  obtain ⟨before, held, rfl⟩ := stored
  rw [owner]
  exact owned id before held

theorem Owned.onward (owned : Owned agents credentials) (change : AgentsChange keys agents later) : Owned later credentials := by
  intro id row stored
  obtain ⟨agent, held⟩ := owned id row stored
  obtain ⟨agent', held', -⟩ := change.kept _ agent held
  exact ⟨agent', held'⟩

theorem CredentialsChange.set {id : String} {row : ρ} (fresh : credentials.get? id = none) (own : key id ∈ keys)
    (owner : .agent (Credential.owner row) ∈ keys) : CredentialsChange key keys credentials (credentials.set id row) where
  kept other before stored := by
    have apart : other ≠ id := by
      rintro rfl
      rw [fresh] at stored
      cases stored
    refine ⟨before, ?_, rfl, fun active => active⟩
    rw [Dict.get?_set, if_neg apart, stored]
  frame other free := by
    have apart : other ≠ id := by
      rintro rfl
      exact free own
    rw [Dict.get?_set, if_neg apart]
  new other after absent stored := by
    rw [Dict.get?_set] at stored
    split at stored
    · cases stored
      exact owner
    · rw [absent] at stored
      cases stored

theorem OneActive.set (one : OneActive credentials) {id : String} {row : ρ}
    (none : ∀ other before, credentials.get? other = some before → Credential.owner before = Credential.owner row →
      ¬IsActive before) : OneActive (credentials.set id row) := by
  intro first second a b stored stored' active active' same
  rw [Dict.get?_set] at stored stored'
  split at stored
  · rename_i here
    split at stored'
    · rename_i there
      exact here.trans there.symm
    · cases stored
      exact absurd active' (none second b stored' same.symm)
  · split at stored'
    · cases stored'
      exact absurd active (none first a stored same)
    · exact one first second a b stored stored' active active' same

theorem Owned.set (owned : Owned agents credentials) {id : String} {row : ρ} {agent : AgentRow}
    (owner : agents.get? (Credential.owner row) = some agent) : Owned agents (credentials.set id row) := by
  intro other after stored
  rw [Dict.get?_set] at stored
  split at stored
  · cases stored
    exact ⟨agent, owner⟩
  · exact owned other after stored

theorem AgentsChange.mapValues {f : String → AgentRow → AgentRow} (site : ∀ id row, (f id row).siteId = row.siteId)
    (type : ∀ id row, (f id row).agentType = row.agentType) (locked : ∀ id row, .agent id ∉ keys → f id row = row) :
    AgentsChange keys agents (agents.mapValues f) where
  kept id row stored := by
    refine ⟨f id row, ?_, site id row, type id row⟩
    rw [Dict.get?_mapValues, stored]
    rfl
  frame id free := by
    rw [Dict.get?_mapValues]
    cases agents.get? id with
    | none => rfl
    | some row => exact congrArg some (locked id row free)

theorem AgentsChange.set {id : String} {row : AgentRow} (own : .agent id ∈ keys)
    (agrees : ∀ before, agents.get? id = some before → row.siteId = before.siteId ∧ row.agentType = before.agentType) :
    AgentsChange keys agents (agents.set id row) where
  kept other before stored := by
    rw [Dict.get?_set]
    split
    · rename_i same
      rw [same] at stored
      exact ⟨row, rfl, agrees before stored⟩
    · exact ⟨before, stored, rfl, rfl⟩
  frame other free := by
    have apart : other ≠ id := by
      rintro rfl
      exact free own
    rw [Dict.get?_set, if_neg apart]

theorem EnrollmentsChange.mapValues {f : String → η → η}
    (pending : ∀ id row, Enrollment.status (f id row) = .pending → Enrollment.status row = .pending)
    (locked : ∀ id row, key id ∉ keys → f id row = row) : EnrollmentsChange key keys enrollments (enrollments.mapValues f) where
  kept id row stored := by
    refine ⟨f id row, ?_, pending id row⟩
    rw [Dict.get?_mapValues, stored]
    rfl
  frame id free := by
    rw [Dict.get?_mapValues]
    cases enrollments.get? id with
    | none => rfl
    | some row => exact congrArg some (locked id row free)

theorem SpentOnce.change (spent : SpentOnce enrollments completions) {after : Dict String η}
    (change : EnrollmentsChange key keys enrollments after) : SpentOnce after completions where
  once := spent.once
  spent completion member := by
    obtain ⟨row, stored, used⟩ := spent.spent completion member
    obtain ⟨row', stored', pending⟩ := change.kept _ row stored
    exact ⟨row', stored', fun status => used (pending status)⟩

theorem SpentOnce.complete (spent : SpentOnce enrollments completions) {after : Dict String η}
    (change : EnrollmentsChange key keys enrollments after) {id credentialId : String} {row row' : η}
    (before : enrollments.get? id = some row) (pending : Enrollment.status row = .pending)
    (now : after.get? id = some row') (used : Enrollment.status row' ≠ .pending) :
    SpentOnce after (completions ++ [⟨id, credentialId⟩]) where
  once := by
    rw [List.map_append, List.nodup_append]
    refine ⟨spent.once, List.nodup_singleton _, ?_⟩
    intro earlier member other last
    obtain ⟨completion, listed, rfl⟩ := List.mem_map.mp member
    rintro rfl
    obtain ⟨stored, held, unlike⟩ := spent.spent completion listed
    rw [List.mem_singleton.mp last] at held
    rw [before] at held
    cases held
    exact unlike pending
  spent completion member := by
    rcases List.mem_append.mp member with earlier | last
    · exact (spent.change change).spent completion earlier
    · rw [List.mem_singleton.mp last]
      exact ⟨row', now, used⟩

end Generic

/-- A step of a transaction that could be committed by itself. -/
structure Moves (keys : Set IdentityKey) (tables later : IdentityTables) : Prop where
  change : TablesChange keys tables later
  consistent : ConsistentTables later

section Moves

variable {keys more : Set IdentityKey} {tables later last : IdentityTables} {ids : List String} {id : String}

theorem Moves.trans (first : Moves keys tables later) (second : Moves keys later last) : Moves keys tables last :=
  ⟨identityRules.trans first.change second.change, second.consistent⟩

theorem Moves.refl (consistent : ConsistentTables tables) : Moves keys tables tables := ⟨identityRules.refl _ _, consistent⟩

theorem updated_of_locked {ρ : Type} (table : TableOf IdentityKey IdentityTables ρ) {qualifies : String → ρ → Bool} {change : ρ → ρ}
    (locked : ∀ id ∈ ids, table.key id ∈ keys) (row : ρ) (free : table.key id ∉ keys) :
    (if ids.contains id && qualifies id row then change row else row) = row := by
  rw [if_neg]
  intro updated
  rw [Bool.and_eq_true, List.contains_iff_mem] at updated
  exact free (locked id updated.1)

theorem moves_updateSensorCredentials {qualifies : String → SensorCredential → Bool} {change : SensorCredential → SensorCredential}
    (consistent : ConsistentTables tables) (locked : ∀ id ∈ ids, .sensorCredential id ∈ keys)
    (owner : ∀ row, (change row).sensorId = row.sensorId) (active : ∀ row, (change row).status = .active → row.status = .active) :
    Moves keys tables (sensorCredentialTable.updateRows qualifies ids change tables) := by
  have owner (id : String) (row : SensorCredential) :
      (if ids.contains id && qualifies id row then change row else row).sensorId = row.sensorId := by
    split
    · exact owner row
    · rfl
  have active (id : String) (row : SensorCredential)
      (now : (if ids.contains id && qualifies id row then change row else row).status = .active) : row.status = .active := by
    split at now
    · exact active row now
    · exact now
  exact {
    change := {
      agents := .refl _
      sensorCredentials := .mapValues owner active fun id row => updated_of_locked sensorCredentialTable locked row
      sensorEnrollments := .refl _
      agentCredentials := .refl _
      agentEnrollments := .refl _ }
    consistent := { consistent with
      sensorOne := consistent.sensorOne.mapValues owner active
      sensorOwned := consistent.sensorOwned.mapValues owner } }

theorem moves_updateAgentCredentials {qualifies : String → AgentCredential → Bool} {change : AgentCredential → AgentCredential}
    (consistent : ConsistentTables tables) (locked : ∀ id ∈ ids, .agentCredential id ∈ keys)
    (owner : ∀ row, (change row).agentId = row.agentId) (active : ∀ row, (change row).status = .active → row.status = .active) :
    Moves keys tables (agentCredentialTable.updateRows qualifies ids change tables) := by
  have owner (id : String) (row : AgentCredential) :
      (if ids.contains id && qualifies id row then change row else row).agentId = row.agentId := by
    split
    · exact owner row
    · rfl
  have active (id : String) (row : AgentCredential)
      (now : (if ids.contains id && qualifies id row then change row else row).status = .active) : row.status = .active := by
    split at now
    · exact active row now
    · exact now
  exact {
    change := {
      agents := .refl _
      sensorCredentials := .refl _
      sensorEnrollments := .refl _
      agentCredentials := .mapValues owner active fun id row => updated_of_locked agentCredentialTable locked row
      agentEnrollments := .refl _ }
    consistent := { consistent with
      agentOne := consistent.agentOne.mapValues owner active
      agentOwned := consistent.agentOwned.mapValues owner } }

theorem moves_updateAgents {qualifies : String → AgentRow → Bool} {change : AgentRow → AgentRow}
    (consistent : ConsistentTables tables) (locked : ∀ id ∈ ids, .agent id ∈ keys) (site : ∀ row, (change row).siteId = row.siteId)
    (type : ∀ row, (change row).agentType = row.agentType) :
    Moves keys tables (agentTable.updateRows qualifies ids change tables) := by
  have agents : AgentsChange keys tables.agents (agentTable.updateRows qualifies ids change tables).agents := by
    refine .mapValues (fun id row => ?_) (fun id row => ?_) fun id row => updated_of_locked agentTable locked row
    · split
      · exact site row
      · rfl
    · split
      · exact type row
      · rfl
  exact {
    change := ⟨agents, .refl _, .refl _, .refl _, .refl _⟩
    consistent := { consistent with
      sensorOwned := consistent.sensorOwned.onward agents
      agentOwned := consistent.agentOwned.onward agents } }

theorem sensorEnrollments_updateRows {qualifies : String → SensorEnrollment → Bool} {change : SensorEnrollment → SensorEnrollment}
    (locked : ∀ id ∈ ids, .sensorEnrollment id ∈ keys) (pending : ∀ row, (change row).status = .pending → row.status = .pending) :
    EnrollmentsChange .sensorEnrollment keys tables.sensorEnrollments
      (sensorEnrollmentTable.updateRows qualifies ids change tables).sensorEnrollments := by
  refine .mapValues (fun id row now => ?_) fun id row => updated_of_locked sensorEnrollmentTable locked row
  split at now
  · exact pending row now
  · exact now

theorem moves_updateSensorEnrollments {qualifies : String → SensorEnrollment → Bool} {change : SensorEnrollment → SensorEnrollment}
    (consistent : ConsistentTables tables) (locked : ∀ id ∈ ids, .sensorEnrollment id ∈ keys)
    (pending : ∀ row, (change row).status = .pending → row.status = .pending) :
    Moves keys tables (sensorEnrollmentTable.updateRows qualifies ids change tables) where
  change := ⟨.refl _, .refl _, sensorEnrollments_updateRows locked pending, .refl _, .refl _⟩
  consistent := { consistent with
    sensorSpent := consistent.sensorSpent.change (sensorEnrollments_updateRows locked pending) }

theorem agentEnrollments_updateRows {qualifies : String → AgentEnrollment → Bool} {change : AgentEnrollment → AgentEnrollment}
    (locked : ∀ id ∈ ids, .agentEnrollment id ∈ keys) (pending : ∀ row, (change row).status = .pending → row.status = .pending) :
    EnrollmentsChange .agentEnrollment keys tables.agentEnrollments
      (agentEnrollmentTable.updateRows qualifies ids change tables).agentEnrollments := by
  refine .mapValues (fun id row now => ?_) fun id row => updated_of_locked agentEnrollmentTable locked row
  split at now
  · exact pending row now
  · exact now

theorem moves_updateAgentEnrollments {qualifies : String → AgentEnrollment → Bool} {change : AgentEnrollment → AgentEnrollment}
    (consistent : ConsistentTables tables) (locked : ∀ id ∈ ids, .agentEnrollment id ∈ keys)
    (pending : ∀ row, (change row).status = .pending → row.status = .pending) :
    Moves keys tables (agentEnrollmentTable.updateRows qualifies ids change tables) where
  change := ⟨.refl _, .refl _, .refl _, .refl _, agentEnrollments_updateRows locked pending⟩
  consistent := { consistent with
    agentSpent := consistent.agentSpent.change (agentEnrollments_updateRows locked pending) }

theorem moves_setAgent {row : AgentRow} (consistent : ConsistentTables tables) (own : .agent id ∈ keys)
    (agrees : ∀ before, tables.agents.get? id = some before → row.siteId = before.siteId ∧ row.agentType = before.agentType) :
    Moves keys tables { tables with agents := tables.agents.set id row } where
  change := ⟨.set own agrees, .refl _, .refl _, .refl _, .refl _⟩
  consistent := { consistent with
    sensorOwned := consistent.sensorOwned.onward (.set own agrees)
    agentOwned := consistent.agentOwned.onward (.set own agrees) }

theorem moves_setSensorCredential {row : SensorCredential} {agent : AgentRow} (consistent : ConsistentTables tables)
    (own : .sensorCredential id ∈ keys) (owner : .agent row.sensorId ∈ keys) (fresh : tables.sensorCredentials.get? id = none)
    (stored : tables.agents.get? row.sensorId = some agent)
    (none : ∀ other before, tables.sensorCredentials.get? other = some before → before.sensorId = row.sensorId →
      before.status ≠ .active) :
    Moves keys tables { tables with sensorCredentials := tables.sensorCredentials.set id row } where
  change := ⟨.refl _, .set fresh own owner, .refl _, .refl _, .refl _⟩
  consistent := { consistent with
    sensorOne := consistent.sensorOne.set none
    sensorOwned := consistent.sensorOwned.set stored }

theorem moves_setAgentCredential {row : AgentCredential} (agent : AgentRow) (consistent : ConsistentTables tables)
    (own : .agentCredential id ∈ keys) (owner : .agent row.agentId ∈ keys) (fresh : tables.agentCredentials.get? id = none)
    (stored : tables.agents.get? row.agentId = some agent)
    (none : ∀ other before, tables.agentCredentials.get? other = some before → before.agentId = row.agentId →
      before.status ≠ .active) :
    Moves keys tables { tables with agentCredentials := tables.agentCredentials.set id row } where
  change := ⟨.refl _, .refl _, .refl _, .set fresh own owner, .refl _⟩
  consistent := { consistent with
    agentOne := consistent.agentOne.set none
    agentOwned := consistent.agentOwned.set stored }

theorem moves_completeSensor {qualifies : String → SensorEnrollment → Bool} {row : SensorEnrollment} {credentialId : String}
    (consistent : ConsistentTables tables) (locked : ∀ id ∈ ids, .sensorEnrollment id ∈ keys) (listed : id ∈ ids)
    (stored : tables.sensorEnrollments.get? id = some row) (pending : row.status = .pending) (matching : qualifies id row = true) :
    Moves keys tables { sensorEnrollmentTable.updateRows qualifies ids (fun row => { row with status := .used }) tables with
      sensorCompletions := tables.sensorCompletions ++ [⟨id, credentialId⟩] } := by
  have change : EnrollmentsChange .sensorEnrollment keys tables.sensorEnrollments
      (sensorEnrollmentTable.updateRows qualifies ids (fun row => { row with status := .used }) tables).sensorEnrollments :=
    sensorEnrollments_updateRows locked fun _ status => by cases status
  have used : (sensorEnrollmentTable.updateRows qualifies ids (fun row => { row with status := .used }) tables).sensorEnrollments.get?
      id = some { row with status := .used } := by
    have updated := sensorEnrollmentTable.get?_updateRows qualifies ids (fun row => { row with status := .used }) tables id
    show (sensorEnrollmentTable.rows (sensorEnrollmentTable.updateRows qualifies ids _ tables)).get? id = _
    rw [updated, show (sensorEnrollmentTable.rows tables).get? id = some row from stored, Option.map_some,
      List.contains_iff_mem.mpr listed, matching]
    rfl
  exact {
    change := ⟨.refl _, .refl _, change, .refl _, .refl _⟩
    consistent := { consistent with
      sensorSpent := consistent.sensorSpent.complete change stored pending used nofun } }

theorem moves_completeAgent {qualifies : String → AgentEnrollment → Bool} {row : AgentEnrollment} {credentialId : String}
    (consistent : ConsistentTables tables) (locked : ∀ id ∈ ids, .agentEnrollment id ∈ keys) (listed : id ∈ ids)
    (stored : tables.agentEnrollments.get? id = some row) (pending : row.status = .pending) (matching : qualifies id row = true) :
    Moves keys tables { agentEnrollmentTable.updateRows qualifies ids (fun row => { row with status := .used }) tables with
      agentCompletions := tables.agentCompletions ++ [⟨id, credentialId⟩] } := by
  have change : EnrollmentsChange .agentEnrollment keys tables.agentEnrollments
      (agentEnrollmentTable.updateRows qualifies ids (fun row => { row with status := .used }) tables).agentEnrollments :=
    agentEnrollments_updateRows locked fun _ status => by cases status
  have used : (agentEnrollmentTable.updateRows qualifies ids (fun row => { row with status := .used }) tables).agentEnrollments.get?
      id = some { row with status := .used } := by
    have updated := agentEnrollmentTable.get?_updateRows qualifies ids (fun row => { row with status := .used }) tables id
    show (agentEnrollmentTable.rows (agentEnrollmentTable.updateRows qualifies ids _ tables)).get? id = _
    rw [updated, show (agentEnrollmentTable.rows tables).get? id = some row from stored, Option.map_some,
      List.contains_iff_mem.mpr listed, matching]
    rfl
  exact {
    change := ⟨.refl _, .refl _, .refl _, .refl _, change⟩
    consistent := { consistent with
      agentSpent := consistent.agentSpent.complete change stored pending used nofun } }

end Moves

end OpenAssetWatch.Identity
