import OpenAssetWatch.Identity.Tables
import OpenAssetWatch.Library.Ranking

namespace OpenAssetWatch.Identity

open Library ReadCommitted

/-- The reasons for which an exchange is rejected, as far as their record differs. -/
inductive RejectionReason where
  | tokenMismatch
  | alreadyUsed
  | inactive
  | expired
  | identityMismatch
  | typeMismatch
  | deploymentMismatch
deriving DecidableEq, Repr

structure SensorExchange where
  enrollmentToken : Option ParsedToken
  sensorId : String
  sensorName : String
  sensorType : String
  issued : IssuedCredential
  now : Time
deriving DecidableEq, Repr

/-- `_persist_enrollment_rejection`, in a transaction of its own. -/
def persistEnrollmentRejection (row : Option (String × SensorEnrollment)) (reason : RejectionReason) : IdentitySession :=
  let rejected : IdentitySession := .commit .sensorEnrollmentRejected
  match row with
  | none => rejected
  | some (enrollmentId, row) =>
    if row.status = .pending then
      selectForUpdate sensorEnrollmentTable (fun id _ => id = enrollmentId) fun locked =>
        match locked with
        | [] => rejected
        | (_, locked) :: _ =>
          if locked.status = .pending then
            match reason with
            | .expired =>
              updateWhere sensorEnrollmentTable (fun id _ => id = enrollmentId) (fun row => { row with status := .expired })
                fun _ => rejected
            | .tokenMismatch | .identityMismatch =>
              updateWhere sensorEnrollmentTable (fun id _ => id = enrollmentId)
                (fun row => { row with
                  failedAttempts := row.failedAttempts + 1
                  status := if row.maxAttempts ≤ row.failedAttempts + 1 then .revoked else row.status })
                fun _ => rejected
            | _ => rejected
          else rejected
    else rejected

def rejectEnrollment (row : Option (String × SensorEnrollment)) (reason : RejectionReason) : IdentitySession :=
  .rollback (persistEnrollmentRejection row reason)

def isActiveOf (sensorId : String) (_ : String) (row : SensorCredential) : Bool := row.sensorId = sensorId && row.status = .active

/-- The active credentials of a sensor, the newest first. -/
def selectActiveSensorCredentials (sensorId : String) (next : List (String × SensorCredential) → IdentitySession) :
    IdentitySession :=
  selectForUpdate sensorCredentialTable (isActiveOf sensorId) fun active => next (sortedDescending (·.2.createdAt) active)

def insertSensorCredential (issued : IssuedCredential) (sensorId siteId sensorType : String) (now : Time) (next : IdentitySession) :
    IdentitySession :=
  insertRow sensorCredentialTable issued.credentialId [.sensorToken issued.lookupId]
    (fun tables => tables.sensorCredentials.values.any (·.tokenLookupId = issued.lookupId))
    { sensorId, siteId, sensorType, tokenLookupId := issued.lookupId, credentialDigest := issued.digest, status := .active,
      createdAt := now }
    next (raise .integrityError)

/-- Rotates the other active credentials of the sensor. -/
def rotateOthers (sensorId credentialId : String) (next : IdentitySession) : IdentitySession :=
  updateWhere sensorCredentialTable (fun id row => isActiveOf sensorId id row && id ≠ credentialId)
    (fun row => { row with status := .rotated }) fun _ => next

/-- `exchange_sensor_enrollment` from where the token has been checked. -/
def enrollSensor (call : SensorExchange) (enrollmentId : String) (row : SensorEnrollment) : IdentitySession :=
  selectForUpdate agentTable (fun id _ => id = call.sensorId) fun existing =>
    if existing.any fun agent => agent.2.siteId ≠ row.siteId || agent.2.agentType ≠ .networkSensor then
      rejectEnrollment (some (enrollmentId, row)) .identityMismatch
    else selectActiveSensorCredentials call.sensorId fun active =>
      let rest : IdentitySession :=
        updateWhere sensorEnrollmentTable (fun id _ => id = enrollmentId) (fun row => { row with status := .used }) fun _ =>
          .write (fun tables => { tables with
              sensorCompletions := tables.sensorCompletions ++ [⟨enrollmentId, call.issued.credentialId⟩] })
            (.commit (.sensorEnrolled row.siteId call.sensorId call.sensorType call.issued.credentialId call.now))
      upsertRow agentTable (some (.upsertSensor call.sensorId !existing.isEmpty)) call.sensorId
        (fun _ => { siteId := row.siteId, agentType := .networkSensor, identityStatus := .active }) <|
      insertSensorCredential call.issued call.sensorId row.siteId call.sensorType call.now <|
        if active.isEmpty then rest else rotateOthers call.sensorId call.issued.credentialId rest

def exchangeSensorEnrollment (call : SensorExchange) : IdentitySession :=
  match call.enrollmentToken with
  | none => .commit .sensorEnrollmentRejected
  | some token =>
    selectForUpdate sensorEnrollmentTable (fun _ row => row.tokenLookupId = token.lookupId) fun selected =>
      match selected with
      | [] => rejectEnrollment none .tokenMismatch
      | (enrollmentId, row) :: _ =>
        let reject := rejectEnrollment (some (enrollmentId, row))
        if token.digest ≠ row.tokenDigest then reject .tokenMismatch
        else if row.status = .used then reject .alreadyUsed
        else if row.status ≠ .pending then reject .inactive
        else if row.expiresAt ≤ call.now then
          updateWhere sensorEnrollmentTable (fun id _ => id = enrollmentId) (fun row => { row with status := .expired })
            fun _ => reject .expired
        else if call.sensorType ≠ row.sensorType || row.requestedSensorId.any (· ≠ call.sensorId) ||
            row.requestedSensorName.any (· ≠ call.sensorName) then reject .identityMismatch
        else enrollSensor call enrollmentId row

structure SensorClaim where
  token : ProvidedToken
  siteId : String
  sensorId : String
  sensorType : String
  now : Time
deriving DecidableEq, Repr

def authenticateSensorRequest (claim : SensorClaim) : IdentitySession :=
  let rejected : IdentitySession := .commit .sensorAuthenticationRejected
  match claim.token with
  | .other isSharedDevelopment => if isSharedDevelopment then .commit .developmentShared else rejected
  | .bound none => rejected
  | .bound (some token) =>
    selectForUpdate sensorCredentialTable (fun _ row => row.tokenLookupId = token.lookupId) fun selected =>
      match selected with
      | [] => rejected
      | (credentialId, row) :: _ =>
        let expired := row.expiresAt.any (· ≤ claim.now)
        let statusActive := row.status = .active && !expired
        let identityMatches := claim.siteId = row.siteId && claim.sensorId = row.sensorId && claim.sensorType = row.sensorType
        let verdict : IdentitySession := if token.digest = row.credentialDigest && statusActive && identityMatches then
          .commit (.sensorAuthenticated row.siteId row.sensorId row.sensorType credentialId) else rejected
        if expired && row.status = .active then
          updateWhere sensorCredentialTable (fun id _ => id = credentialId) (fun row => { row with status := .expired })
            fun _ => verdict
        else verdict

def rotateSensorCredential (sensorId : String) (issued : IssuedCredential) (now : Time) : IdentitySession :=
  selectForUpdate agentTable (fun id _ => id = sensorId) fun sensor =>
    match sensor with
    | [] => raise (.notFound "sensor not found")
    | (_, sensor) :: _ =>
      if sensor.agentType ≠ .networkSensor then raise (.notFound "sensor not found")
      else if sensor.identityStatus ≠ .active then raise (.conflict "sensor identity is not active")
      else selectActiveSensorCredentials sensorId fun active =>
        match active with
        | [] => raise (.conflict "sensor has no active credential")
        | (_, predecessor) :: _ =>
          insertSensorCredential issued sensorId predecessor.siteId predecessor.sensorType now <|
          rotateOthers sensorId issued.credentialId <|
          .commit (.sensorRotated issued.credentialId sensorId predecessor.siteId predecessor.sensorType now)

def revokeSensorCredential (sensorId credentialId : String) : IdentitySession :=
  selectForUpdate sensorCredentialTable (fun id row => id = credentialId && row.sensorId = sensorId) fun selected =>
    match selected with
    | [] => raise (.notFound "credential not found")
    | (_, row) :: _ =>
      if row.status = .active then
        updateWhere sensorCredentialTable (fun id _ => id = credentialId) (fun row => { row with status := .revoked }) fun _ =>
          .read none fun tables =>
            let done : IdentitySession := .commit (.sensorCredentialRevoked credentialId .revoked)
            if tables.sensorCredentials.entries.any fun entry => isActiveOf sensorId entry.1 entry.2 then done
            else updateWhere agentTable (fun id _ => id = sensorId) (fun row => { row with identityStatus := .revoked })
              fun _ => done
      else .commit (.sensorCredentialRevoked credentialId row.status)

def revokeSensor (sensorId : String) (now : Time) : IdentitySession :=
  selectForUpdate agentTable (fun id _ => id = sensorId) fun sensor =>
    match sensor with
    | [] => raise (.notFound "sensor not found")
    | (_, sensor) :: _ =>
      if sensor.agentType ≠ .networkSensor then raise (.notFound "sensor not found")
      else updateWhere sensorCredentialTable (isActiveOf sensorId) (fun row => { row with status := .revoked }) fun revoked =>
        updateWhere agentTable (fun id _ => id = sensorId) (fun row => { row with identityStatus := .revoked }) fun _ =>
          .commit (.sensorRevoked sensorId sensor.siteId now revoked)

structure AgentExchange where
  enrollmentToken : Option ParsedToken
  installationId : Option String
  agentType : String
  issued : IssuedCredential
  /-- The drawn id of the agent. -/
  agentId : String
  now : Time
deriving DecidableEq, Repr

/-- `_record_exchange_rejection`. -/
def recordExchangeRejection (row : Option (String × AgentEnrollment)) (reason : RejectionReason) : IdentitySession :=
  let rejected : IdentitySession := .commit .agentEnrollmentRejected
  match row with
  | none => rejected
  | some (enrollmentId, row) =>
    if row.status = .pending then
      selectForUpdate agentEnrollmentTable (fun id _ => id = enrollmentId) fun locked =>
        match locked with
        | [] => rejected
        | (_, locked) :: _ =>
          if locked.status = .pending then
            match reason with
            | .expired =>
              updateWhere agentEnrollmentTable (fun id _ => id = enrollmentId) (fun row => { row with status := .expired })
                fun _ => rejected
            | .tokenMismatch | .deploymentMismatch =>
              updateWhere agentEnrollmentTable (fun id _ => id = enrollmentId)
                (fun row => { row with
                  failedAttempts := row.failedAttempts + 1
                  status := if row.maxAttempts ≤ row.failedAttempts + 1 then .revoked else row.status })
                fun _ => rejected
            | _ => rejected
          else rejected
    else rejected

/-- The first test of an exchange that fails. -/
def exchangeReason (call : AgentExchange) (token : ParsedToken) (row : AgentEnrollment) : Option RejectionReason :=
  if token.digest ≠ row.tokenDigest then some .tokenMismatch
  else if row.status = .used then some .alreadyUsed
  else if row.status ≠ .pending then some .inactive
  else if row.expiresAt ≤ call.now then some .expired
  else if row.requestedAgentType ≠ call.agentType then some .typeMismatch
  else if row.requestedDeploymentId.any fun deploymentId => deploymentId ≠ "" && deploymentId ≠ call.installationId.getD "" then
    some .deploymentMismatch
  else none

/-- `requested or installation`, where the empty text counts as none. -/
def deploymentIdOf (requested installationId : Option String) : Option String :=
  if requested.any (· ≠ "") then requested else installationId

def insertAgentCredential (issued : IssuedCredential) (agentId siteId : String) (deploymentId : Option String) (now : Time)
    (next : IdentitySession) : IdentitySession :=
  insertRow agentCredentialTable issued.credentialId [.agentToken issued.lookupId]
    (fun tables => tables.agentCredentials.values.any (·.tokenLookupId = issued.lookupId))
    { agentId, siteId, deploymentId, agentType := "endpoint-agent", tokenLookupId := issued.lookupId,
      credentialDigest := issued.digest, status := .active, createdAt := now }
    next (raise .integrityError)

/-- `exchange_agent_enrollment` from where the token has been checked. -/
def enrollAgent (call : AgentExchange) (enrollmentId : String) (row : AgentEnrollment) : IdentitySession :=
  let deploymentId := deploymentIdOf row.requestedDeploymentId call.installationId
  insertRow agentTable call.agentId [] (fun _ => false)
    { siteId := row.siteId, agentType := .endpointAgent, identityStatus := .active }
    (insertAgentCredential call.issued call.agentId row.siteId deploymentId call.now <|
      updateWhere agentEnrollmentTable (fun id _ => id = enrollmentId) (fun row => { row with status := .used }) fun _ =>
        .write (fun tables => { tables with
            agentCompletions := tables.agentCompletions ++ [⟨enrollmentId, call.issued.credentialId⟩] })
          (.commit (.agentEnrolled row.siteId call.agentId deploymentId call.issued.credentialId call.now)))
    (raise .integrityError)

def exchangeAgentEnrollment (call : AgentExchange) : IdentitySession :=
  match call.enrollmentToken with
  | none => .commit .agentEnrollmentRejected
  | some token =>
    selectForUpdate agentEnrollmentTable (fun _ row => row.tokenLookupId = token.lookupId) fun selected =>
      match selected with
      | [] => .rollback (recordExchangeRejection none .tokenMismatch)
      | (enrollmentId, row) :: _ =>
        match exchangeReason call token row with
        | some reason => .rollback (recordExchangeRejection (some (enrollmentId, row)) reason)
        | none => enrollAgent call enrollmentId row

/-- The listed credentials that qualify, each joined with its agent. -/
def joinAgents (qualifies : String → AgentCredential → Bool) (ids : List String) (tables : IdentityTables) :
    List (String × AgentCredential × AgentRow) :=
  (agentCredentialTable.selected qualifies ids tables).filterMap fun credential =>
    (tables.agents.get? credential.2.agentId).map fun agent => (credential.1, credential.2, agent)

/-- A join for which both rows are locked in that order and read again. -/
def selectWithAgent (qualifies : String → AgentCredential → Bool)
    (next : Option (String × AgentCredential × AgentRow) → IdentitySession) : IdentitySession :=
  .read none fun snapshot =>
    let rows := joinAgents qualifies (agentCredentialTable.ids qualifies snapshot) snapshot
    Session.lockAll (.read none fun locked => next (joinAgents qualifies (rows.map (·.1)) locked).head?)
      (rows.flatMap fun row => [.agentCredential row.1, .agent row.2.1.agentId])

structure AgentClaim where
  token : ProvidedToken
  siteId : Option String
  agentId : Option String
  deploymentId : Option String
  agentType : Option String
  now : Time
deriving DecidableEq, Repr

def claimMatches (claim bound : Option String) : Bool := claim.all (· = bound.getD "")

def authenticateAgentRequest (claim : AgentClaim) : IdentitySession :=
  let rejected : IdentitySession := .commit .agentAuthenticationRejected
  match claim.token with
  | .other isSharedDevelopment => if isSharedDevelopment then .commit .developmentShared else rejected
  | .bound none => rejected
  | .bound (some token) =>
    selectWithAgent (fun _ row => row.tokenLookupId = token.lookupId) fun selected =>
      match selected with
      | none => rejected
      | some (credentialId, row, agent) =>
        let expired := row.expiresAt.any (· ≤ claim.now)
        let active := row.status = .active && agent.identityStatus = .active && !expired
        let claimed := claimMatches claim.siteId (some row.siteId) && claimMatches claim.agentId (some row.agentId) &&
          claimMatches claim.deploymentId row.deploymentId && claimMatches claim.agentType (some row.agentType)
        let verdict : IdentitySession := if token.digest = row.credentialDigest && active && claimed then
          .commit (.agentAuthenticated row.siteId row.agentId row.deploymentId row.agentType credentialId) else rejected
        if expired && row.status = .active then
          updateWhere agentCredentialTable (fun id _ => id = credentialId) (fun row => { row with status := .expired })
            fun _ => verdict
        else verdict

def isActiveOfAgent (agentId : String) (_ : String) (row : AgentCredential) : Bool := row.agentId = agentId && row.status = .active

def rotateAgentCredential (agentId : String) (issued : IssuedCredential) (now : Time) : IdentitySession :=
  selectForUpdate agentTable (fun id _ => id = agentId) fun agent =>
    match agent with
    | [] => raise (.notFound "agent not found")
    | (_, agent) :: _ =>
      if agent.agentType ≠ .endpointAgent then raise (.notFound "agent not found")
      else if agent.identityStatus ≠ .active then raise (.conflict "agent identity is not active")
      else selectForUpdate agentCredentialTable (isActiveOfAgent agentId) fun active =>
        match sortedDescending (·.2.createdAt) active with
        | [] => raise (.conflict "agent has no active credential")
        | (_, predecessor) :: _ =>
          updateWhere agentCredentialTable (isActiveOfAgent agentId) (fun row => { row with status := .rotated }) fun _ =>
            insertAgentCredential issued agentId predecessor.siteId predecessor.deploymentId now <|
              updateWhere agentCredentialTable
                (fun _ row => row.agentId = agentId && row.status = .rotated && row.replacementCredentialId = none)
                (fun row => { row with replacementCredentialId := some issued.credentialId }) fun _ =>
                  .commit (.agentRotated issued.credentialId agentId predecessor.siteId predecessor.deploymentId now)

def revokeAgentCredential (agentId credentialId : String) : IdentitySession :=
  selectWithAgent (fun id row => id = credentialId && row.agentId = agentId) fun selected =>
    match selected with
    | none => raise (.notFound "credential not found")
    | some (_, row, _) =>
      if row.status = .active then
        updateWhere agentCredentialTable (fun id _ => id = credentialId) (fun row => { row with status := .revoked }) fun _ =>
          .read none fun tables =>
            let done : IdentitySession := .commit (.agentCredentialRevoked credentialId .revoked)
            if tables.agentCredentials.entries.any fun entry => isActiveOfAgent agentId entry.1 entry.2 then done
            else updateWhere agentTable (fun id _ => id = agentId) (fun row => { row with identityStatus := .revoked })
              fun _ => done
      else .commit (.agentCredentialRevoked credentialId row.status)

def revokeAgent (agentId : String) (now : Time) : IdentitySession :=
  selectForUpdate agentTable (fun id _ => id = agentId) fun agent =>
    match agent with
    | [] => raise (.notFound "agent not found")
    | (_, agent) :: _ =>
      if agent.agentType ≠ .endpointAgent then raise (.notFound "agent not found")
      else updateWhere agentCredentialTable (isActiveOfAgent agentId) (fun row => { row with status := .revoked }) fun revoked =>
        updateWhere agentTable (fun id _ => id = agentId) (fun row => { row with identityStatus := .revoked }) fun _ =>
          .commit (.agentRevoked agentId agent.siteId now revoked)

/-- The calls whose order is left to the database. -/
inductive IdentityRequest where
  | exchangeSensor (call : SensorExchange)
  | authenticateSensor (claim : SensorClaim)
  | rotateSensor (sensorId : String) (issued : IssuedCredential) (now : Time)
  | revokeSensorCredential (sensorId credentialId : String)
  | revokeSensor (sensorId : String) (now : Time)
  | exchangeAgent (call : AgentExchange)
  | authenticateAgent (claim : AgentClaim)
  | rotateAgent (agentId : String) (issued : IssuedCredential) (now : Time)
  | revokeAgentCredential (agentId credentialId : String)
  | revokeAgent (agentId : String) (now : Time)
deriving DecidableEq, Repr

def IdentityRequest.session : IdentityRequest → IdentitySession
  | .exchangeSensor call => exchangeSensorEnrollment call
  | .authenticateSensor claim => authenticateSensorRequest claim
  | .rotateSensor sensorId issued now => rotateSensorCredential sensorId issued now
  | .revokeSensorCredential sensorId credentialId => Identity.revokeSensorCredential sensorId credentialId
  | .revokeSensor sensorId now => Identity.revokeSensor sensorId now
  | .exchangeAgent call => exchangeAgentEnrollment call
  | .authenticateAgent claim => authenticateAgentRequest claim
  | .rotateAgent agentId issued now => rotateAgentCredential agentId issued now
  | .revokeAgentCredential agentId credentialId => Identity.revokeAgentCredential agentId credentialId
  | .revokeAgent agentId now => Identity.revokeAgent agentId now

end OpenAssetWatch.Identity
