import OpenAssetWatch.Identity.Agent

namespace OpenAssetWatch.Identity

open Library ReadCommitted

/-- What the credentials of sensors and of agents have in common. -/
class Credential (ρ : Type) where
  owner : ρ → String
  status : ρ → CredentialStatus

class Enrollment (η : Type) where
  status : η → EnrollmentStatus

instance : Credential SensorCredential := ⟨(·.sensorId), (·.status)⟩
instance : Credential AgentCredential := ⟨(·.agentId), (·.status)⟩
instance : Enrollment SensorEnrollment := ⟨(·.status)⟩
instance : Enrollment AgentEnrollment := ⟨(·.status)⟩

section Generic

variable {ρ η : Type} [Credential ρ] [Enrollment η]

def IsActive (row : ρ) : Prop := Credential.status row = .active

/-- A sensor or an agent has one active credential at most. -/
def OneActive (credentials : Dict String ρ) : Prop :=
  ∀ id other row row', credentials.get? id = some row → credentials.get? other = some row' → IsActive row → IsActive row' →
    Credential.owner row = Credential.owner row' → id = other

/-- Every credential belongs to a stored sensor or agent. -/
def Owned (agents : Dict String AgentRow) (credentials : Dict String ρ) : Prop :=
  ∀ id row, credentials.get? id = some row → ∃ agent, agents.get? (Credential.owner row) = some agent

/-- An enrollment is completed once, and is no longer pending then. -/
structure SpentOnce (enrollments : Dict String η) (completions : List Completion) : Prop where
  once : (completions.map (·.enrollmentId)).Nodup
  spent : ∀ completion ∈ completions, ∃ row, enrollments.get? completion.enrollmentId = some row ∧ Enrollment.status row ≠ .pending

/-- The locks of some keys allow to change their rows: sites and types stay. -/
structure AgentsChange (keys : Set IdentityKey) (agents later : Dict String AgentRow) : Prop where
  kept : ∀ id row, agents.get? id = some row → ∃ row', later.get? id = some row' ∧ row'.siteId = row.siteId ∧
    row'.agentType = row.agentType
  frame : ∀ id, .agent id ∉ keys → later.get? id = agents.get? id

/-- No credential becomes active again, and a new one needs the lock of its owner. -/
structure CredentialsChange (key : String → IdentityKey) (keys : Set IdentityKey) (credentials later : Dict String ρ) : Prop where
  kept : ∀ id row, credentials.get? id = some row → ∃ row', later.get? id = some row' ∧
    Credential.owner row' = Credential.owner row ∧ (IsActive row' → IsActive row)
  frame : ∀ id, key id ∉ keys → later.get? id = credentials.get? id
  new : ∀ id row, credentials.get? id = none → later.get? id = some row → .agent (Credential.owner row) ∈ keys

/-- No enrollment becomes pending again. -/
structure EnrollmentsChange (key : String → IdentityKey) (keys : Set IdentityKey) (enrollments later : Dict String η) : Prop where
  kept : ∀ id row, enrollments.get? id = some row → ∃ row', later.get? id = some row' ∧
    (Enrollment.status row' = .pending → Enrollment.status row = .pending)
  frame : ∀ id, key id ∉ keys → later.get? id = enrollments.get? id

variable {key : String → IdentityKey} {keys more : Set IdentityKey} {agents agents' agents'' : Dict String AgentRow}
  {credentials credentials' credentials'' : Dict String ρ} {enrollments enrollments' enrollments'' : Dict String η}

theorem AgentsChange.refl (agents : Dict String AgentRow) : AgentsChange keys agents agents where
  kept _ row stored := ⟨row, stored, rfl, rfl⟩
  frame _ _ := rfl

theorem AgentsChange.trans (first : AgentsChange keys agents agents') (second : AgentsChange keys agents' agents'') :
    AgentsChange keys agents agents'' where
  kept id row stored := by
    obtain ⟨row', stored', site, type⟩ := first.kept id row stored
    obtain ⟨row'', stored'', site', type'⟩ := second.kept id row' stored'
    exact ⟨row'', stored'', site'.trans site, type'.trans type⟩
  frame id free := (second.frame id free).trans (first.frame id free)

theorem AgentsChange.mono (subset : keys ⊆ more) (change : AgentsChange keys agents agents') : AgentsChange more agents agents' where
  kept := change.kept
  frame id free := change.frame id fun member => free (subset member)

theorem CredentialsChange.refl (credentials : Dict String ρ) : CredentialsChange key keys credentials credentials where
  kept _ row stored := ⟨row, stored, rfl, id⟩
  frame _ _ := rfl
  new id row absent stored := by
    rw [absent] at stored
    cases stored

theorem CredentialsChange.trans (first : CredentialsChange key keys credentials credentials')
    (second : CredentialsChange key keys credentials' credentials'') : CredentialsChange key keys credentials credentials'' where
  kept id row stored := by
    obtain ⟨row', stored', owner, active⟩ := first.kept id row stored
    obtain ⟨row'', stored'', owner', active'⟩ := second.kept id row' stored'
    exact ⟨row'', stored'', owner'.trans owner, active ∘ active'⟩
  frame id free := (second.frame id free).trans (first.frame id free)
  new id row absent stored := by
    cases between : credentials'.get? id with
    | none => exact second.new id row between stored
    | some row' =>
      obtain ⟨row'', stored'', owner, -⟩ := second.kept id row' between
      rw [stored] at stored''
      cases stored''
      rw [owner]
      exact first.new id row' absent between

theorem CredentialsChange.mono (subset : keys ⊆ more) (change : CredentialsChange key keys credentials credentials') :
    CredentialsChange key more credentials credentials' where
  kept := change.kept
  frame id free := change.frame id fun member => free (subset member)
  new id row absent stored := subset (change.new id row absent stored)

theorem EnrollmentsChange.refl (enrollments : Dict String η) : EnrollmentsChange key keys enrollments enrollments where
  kept _ row stored := ⟨row, stored, id⟩
  frame _ _ := rfl

theorem EnrollmentsChange.trans (first : EnrollmentsChange key keys enrollments enrollments')
    (second : EnrollmentsChange key keys enrollments' enrollments'') : EnrollmentsChange key keys enrollments enrollments'' where
  kept id row stored := by
    obtain ⟨row', stored', pending⟩ := first.kept id row stored
    obtain ⟨row'', stored'', pending'⟩ := second.kept id row' stored'
    exact ⟨row'', stored'', pending ∘ pending'⟩
  frame id free := (second.frame id free).trans (first.frame id free)

theorem EnrollmentsChange.mono (subset : keys ⊆ more) (change : EnrollmentsChange key keys enrollments enrollments') :
    EnrollmentsChange key more enrollments enrollments' where
  kept := change.kept
  frame id free := change.frame id fun member => free (subset member)

theorem CredentialsChange.active_before {owner : String} (locked : IdentityKey.agent owner ∉ keys)
    (change : CredentialsChange key keys credentials credentials') {id : String} {row : ρ} (stored : credentials'.get? id = some row)
    (owned : Credential.owner row = owner) (active : IsActive row) :
    ∃ row', credentials.get? id = some row' ∧ Credential.owner row' = owner ∧ IsActive row' := by
  cases before : credentials.get? id with
  | none =>
    have new := change.new id row before stored
    rw [owned] at new
    exact absurd new locked
  | some row' =>
    obtain ⟨row'', stored'', same, activeThen⟩ := change.kept id row' before
    rw [stored] at stored''
    cases stored''
    exact ⟨row', rfl, same.symm.trans owned, activeThen active⟩

end Generic

/-- What holds of the identity tables whenever nothing is in the middle. -/
structure ConsistentTables (tables : IdentityTables) : Prop where
  sensorOne : OneActive tables.sensorCredentials
  sensorOwned : Owned tables.agents tables.sensorCredentials
  sensorSpent : SpentOnce tables.sensorEnrollments tables.sensorCompletions
  agentOne : OneActive tables.agentCredentials
  agentOwned : Owned tables.agents tables.agentCredentials
  agentSpent : SpentOnce tables.agentEnrollments tables.agentCompletions

structure TablesChange (keys : Set IdentityKey) (tables later : IdentityTables) : Prop where
  agents : AgentsChange keys tables.agents later.agents
  sensorCredentials : CredentialsChange .sensorCredential keys tables.sensorCredentials later.sensorCredentials
  sensorEnrollments : EnrollmentsChange .sensorEnrollment keys tables.sensorEnrollments later.sensorEnrollments
  agentCredentials : CredentialsChange .agentCredential keys tables.agentCredentials later.agentCredentials
  agentEnrollments : EnrollmentsChange .agentEnrollment keys tables.agentEnrollments later.agentEnrollments

def identityRules : Discipline IdentityKey IdentityTables where
  Change := TablesChange
  Consistent := ConsistentTables
  refl _ _ := ⟨.refl _, .refl _, .refl _, .refl _, .refl _⟩
  trans first second := ⟨first.agents.trans second.agents, first.sensorCredentials.trans second.sensorCredentials,
    first.sensorEnrollments.trans second.sensorEnrollments, first.agentCredentials.trans second.agentCredentials,
    first.agentEnrollments.trans second.agentEnrollments⟩
  mono subset change := ⟨change.agents.mono subset, change.sensorCredentials.mono subset, change.sensorEnrollments.mono subset,
    change.agentCredentials.mono subset, change.agentEnrollments.mono subset⟩

/-- An exchange that has seen no sensor finds none when it stores it. -/
def Undisturbed : NamedRead → IdentityTables → Prop
  | .upsertSensor sensorId seen, tables => seen = false → tables.agents.get? sensorId = none

instance (name : NamedRead) (tables : IdentityTables) : Decidable (Undisturbed name tables) :=
  match name with
  | .upsertSensor _ _ => inferInstanceAs (Decidable (_ → _))

/-- What a result says about the tables before and after its commit. -/
def Outcome : IdentityResult → IdentityTables → IdentityTables → Prop
  | .sensorAuthenticated _ _ _ credentialId, tables, _ =>
    ∃ row, tables.sensorCredentials.get? credentialId = some row ∧ row.status = .active
  | .agentAuthenticated _ _ _ _ credentialId, tables, _ =>
    ∃ row, tables.agentCredentials.get? credentialId = some row ∧ row.status = .active
  | .sensorRevoked sensorId _ _ _, _, later =>
    ∀ id row, later.sensorCredentials.get? id = some row → row.sensorId = sensorId → row.status ≠ .active
  | .agentRevoked agentId _ _ _, _, later =>
    ∀ id row, later.agentCredentials.get? id = some row → row.agentId = agentId → row.status ≠ .active
  | _, _, _ => True

end OpenAssetWatch.Identity
