import OpenAssetWatch.Identity.AgentSafe
import OpenAssetWatch.Identity.SensorExchange

namespace OpenAssetWatch.Identity

open Library ReadCommitted Discipline

abbrev IdentityDatabase (ι : Type) := Database NamedRead IdentityKey IdentityTables IdentityResult ι

section Run

variable {ι : Type} [DecidableEq ι]

/-- Calls about to begin. -/
def startRequests (requests : ι → IdentityRequest) (tables : IdentityTables) : IdentityDatabase ι :=
  start tables fun i => (requests i).session

/-- No exchange stores a sensor that has come into being since it looked for it. -/
def UndisturbedRun (db : IdentityDatabase ι) (turns : List (Turn ι)) : Prop := Run.Along step (Admitted Undisturbed) db turns

instance (db : IdentityDatabase ι) (turns : List (Turn ι)) : Decidable (UndisturbedRun db turns) := Run.decidableAlong db turns

abbrev GuardedDatabase (db : IdentityDatabase ι) : Prop := Guarded identityRules Undisturbed Outcome db

variable {db : IdentityDatabase ι} {turns : List (Turn ι)}

theorem safe_session (request : IdentityRequest) {held : Set IdentityKey} {tables : IdentityTables} :
    SafeSession request.session held id tables := by
  cases request with
  | exchangeSensor call => exact safe_exchangeSensorEnrollment call
  | authenticateSensor claim => exact safe_authenticateSensorRequest claim
  | rotateSensor sensorId issued now => exact safe_rotateSensorCredential issued now
  | revokeSensorCredential sensorId credentialId => exact safe_revokeSensorCredential sensorId credentialId
  | revokeSensor sensorId now => exact safe_revokeSensor sensorId now
  | exchangeAgent call => exact safe_exchangeAgentEnrollment call
  | authenticateAgent claim => exact safe_authenticateAgentRequest claim
  | rotateAgent agentId issued now => exact safe_rotateAgentCredential agentId issued now
  | revokeAgentCredential agentId credentialId => exact safe_revokeAgentCredential agentId credentialId
  | revokeAgent agentId now => exact safe_revokeAgent agentId now

omit [DecidableEq ι] in
theorem startRequests_guarded (requests : ι → IdentityRequest) {tables : IdentityTables} (consistent : ConsistentTables tables) :
    GuardedDatabase (startRequests requests tables) :=
  start_guarded consistent fun i => safe_session (requests i)

theorem returned_before (Dead : IdentityTables → Prop) {i : ι} {result : IdentityResult} (guarded : GuardedDatabase db)
    (dead : Dead db.tables) (still : ∀ tables later, Dead tables → TablesChange Set.univ tables later → Dead later)
    (never : ∀ tables later, Dead tables → ¬Outcome result tables later) (undisturbed : UndisturbedRun db turns)
    (returned : (turns.foldl step db).calls i = .returned result) : db.calls i = .returned result := by
  induction turns generalizing db with
  | nil => exact returned
  | cons turn rest ih =>
    obtain ⟨next, change⟩ := guarded.stepped undisturbed.1
    have here := ih next (still _ _ dead change) undisturbed.2 returned
    by_cases before : ∀ earlier, db.calls i ≠ .returned earlier
    · exact absurd (guarded.returns ⟨before, here⟩) (never _ _ dead)
    · push Not at before
      obtain ⟨earlier, known⟩ := before
      rw [step_returned known turn] at here
      cases here
      exact known

/-- What stays of the sensors, the agents and their credentials from one state of a run to a later one. -/
structure IdentitiesKept (tables later : IdentityTables) : Prop where
  agents : ∀ id row, tables.agents.get? id = some row →
    ∃ row', later.agents.get? id = some row' ∧ row'.siteId = row.siteId ∧ row'.agentType = row.agentType
  sensorCredentials : ∀ id row, tables.sensorCredentials.get? id = some row → row.status ≠ .active →
    ∃ row', later.sensorCredentials.get? id = some row' ∧ row'.status ≠ .active
  agentCredentials : ∀ id row, tables.agentCredentials.get? id = some row → row.status ≠ .active →
    ∃ row', later.agentCredentials.get? id = some row' ∧ row'.status ≠ .active

theorem TablesChange.identitiesKept {keys : Set IdentityKey} {tables later : IdentityTables} (change : TablesChange keys tables later) :
    IdentitiesKept tables later where
  agents := change.agents.kept
  sensorCredentials id row stored inactive := by
    obtain ⟨row', stored', -, active⟩ := change.sensorCredentials.kept id row stored
    exact ⟨row', stored', fun now => inactive (active now)⟩
  agentCredentials id row stored inactive := by
    obtain ⟨row', stored', -, active⟩ := change.agentCredentials.kept id row stored
    exact ⟨row', stored', fun now => inactive (active now)⟩

/-- No credential of the sensor that is stored in the state authenticates in the turns after it. -/
def SensorShut (db : IdentityDatabase ι) (turns : List (Turn ι)) (sensorId : String) : Prop :=
  ∀ credentialId row, db.tables.sensorCredentials.get? credentialId = some row → row.sensorId = sensorId →
    ∀ j siteId claimed sensorType, (turns.foldl step db).calls j = .returned (.sensorAuthenticated siteId claimed sensorType credentialId) →
      db.calls j = .returned (.sensorAuthenticated siteId claimed sensorType credentialId)

def AgentShut (db : IdentityDatabase ι) (turns : List (Turn ι)) (agentId : String) : Prop :=
  ∀ credentialId row, db.tables.agentCredentials.get? credentialId = some row → row.agentId = agentId →
    ∀ j siteId claimed deploymentId agentType,
      (turns.foldl step db).calls j = .returned (.agentAuthenticated siteId claimed deploymentId agentType credentialId) →
      db.calls j = .returned (.agentAuthenticated siteId claimed deploymentId agentType credentialId)

theorem sensorShut_of_inactive {sensorId : String} (guarded : GuardedDatabase db) (undisturbed : UndisturbedRun db turns)
    (inactive : ∀ id row, db.tables.sensorCredentials.get? id = some row → row.sensorId = sensorId → row.status ≠ .active) :
    SensorShut db turns sensorId := by
  intro credentialId row stored owned j siteId claimed sensorType returned
  refine returned_before (fun tables => ∃ row, tables.sensorCredentials.get? credentialId = some row ∧ row.status ≠ .active) guarded
    ⟨row, stored, inactive _ row stored owned⟩ ?_ ?_ undisturbed returned
  · rintro tables later ⟨row, stored, inactive⟩ change
    exact change.identitiesKept.sensorCredentials credentialId row stored inactive
  · rintro tables later ⟨row, stored, inactive⟩ ⟨row', stored', active⟩
    rw [stored] at stored'
    cases stored'
    exact inactive active

theorem agentShut_of_inactive {agentId : String} (guarded : GuardedDatabase db) (undisturbed : UndisturbedRun db turns)
    (inactive : ∀ id row, db.tables.agentCredentials.get? id = some row → row.agentId = agentId → row.status ≠ .active) :
    AgentShut db turns agentId := by
  intro credentialId row stored owned j siteId claimed deploymentId agentType returned
  refine returned_before (fun tables => ∃ row, tables.agentCredentials.get? credentialId = some row ∧ row.status ≠ .active) guarded
    ⟨row, stored, inactive _ row stored owned⟩ ?_ ?_ undisturbed returned
  · rintro tables later ⟨row, stored, inactive⟩ change
    exact change.identitiesKept.agentCredentials credentialId row stored inactive
  · rintro tables later ⟨row, stored, inactive⟩ ⟨row', stored', active⟩
    rw [stored] at stored'
    cases stored'
    exact inactive active

end Run

section Sample

/-- An enrollment of any sensor at a site, and its exchange. -/
def sampleEnrollment (siteId token : String) : SensorEnrollment where
  siteId
  sensorType := "passive-network-sensor"
  tokenLookupId := token
  tokenDigest := "secret"
  status := .pending
  expiresAt := 1

def sampleExchange (token credentialId : String) : IdentityRequest := .exchangeSensor {
  enrollmentToken := some ⟨token, "secret"⟩
  sensorId := "sensor"
  sensorName := "sensor"
  sensorType := "passive-network-sensor"
  issued := ⟨credentialId, credentialId, "digest"⟩
  now := 0 }

def sampleTables : IdentityTables where
  sensorEnrollments := (Dict.empty.set "north" (sampleEnrollment "north" "n")).set "south" (sampleEnrollment "south" "s")

theorem sampleTables_consistent : ConsistentTables sampleTables where
  sensorOne _ _ _ _ stored := by cases stored
  sensorOwned _ _ stored := by cases stored
  sensorSpent := ⟨List.nodup_nil, fun _ member => by cases member⟩
  agentOne _ _ _ _ stored := by cases stored
  agentOwned _ _ stored := by cases stored
  agentSpent := ⟨List.nodup_nil, fun _ member => by cases member⟩

def turnsOf (i : Bool) (count : Nat) : List (Turn Bool) := List.replicate count (.next i)

/-- An exchange, then the revocation of the sensor. -/
def sampleRequests : Bool → IdentityRequest
  | true => sampleExchange "n" "first"
  | false => .revokeSensor "sensor" 1

/-- Two exchanges for one sensor, each with the enrollment of another site. -/
def racingRequests : Bool → IdentityRequest
  | true => sampleExchange "n" "first"
  | false => sampleExchange "s" "second"

/-- Both exchanges look for the sensor before either stores it. -/
def racingTurns : List (Turn Bool) := turnsOf true 7 ++ turnsOf false 7 ++ turnsOf true 13

end Sample

end OpenAssetWatch.Identity
