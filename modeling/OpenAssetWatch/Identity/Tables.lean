import OpenAssetWatch.Clock
import OpenAssetWatch.Library.RowStatements

namespace OpenAssetWatch.Identity

open Library ReadCommitted

inductive AgentType where
  | endpointAgent
  | networkSensor
deriving DecidableEq, Repr

inductive IdentityStatus where
  | active
  | revoked
  | legacy
deriving DecidableEq, Repr

inductive CredentialStatus where
  | active
  | rotated
  | revoked
  | expired
deriving DecidableEq, Repr

/-- The enrollments of endpoint agents write `consumed` for `used`. -/
inductive EnrollmentStatus where
  | pending
  | used
  | expired
  | revoked
deriving DecidableEq, Repr

/-- A row of `agent_enrollments`, which has the sensors as well. -/
structure AgentRow where
  siteId : String
  agentType : AgentType
  identityStatus : IdentityStatus
deriving DecidableEq, Repr

/-- A row of `sensor_enrollments`. -/
structure SensorEnrollment where
  siteId : String
  requestedSensorId : Option String := none
  requestedSensorName : Option String := none
  sensorType : String
  tokenLookupId : String
  tokenDigest : String
  status : EnrollmentStatus
  failedAttempts : Nat := 0
  maxAttempts : Nat := 10
  expiresAt : Time
deriving DecidableEq, Repr

/-- A row of `sensor_credentials`. -/
structure SensorCredential where
  sensorId : String
  siteId : String
  sensorType : String
  tokenLookupId : String
  credentialDigest : String
  status : CredentialStatus
  createdAt : Time
  expiresAt : Option Time := none
deriving DecidableEq, Repr

/-- A row of `endpoint_agent_enrollments`. -/
structure AgentEnrollment where
  siteId : String
  requestedDeploymentId : Option String := none
  requestedAgentType : String
  tokenLookupId : String
  tokenDigest : String
  status : EnrollmentStatus
  failedAttempts : Nat := 0
  maxAttempts : Nat := 10
  expiresAt : Time
deriving DecidableEq, Repr

/-- A row of `endpoint_agent_credentials`. -/
structure AgentCredential where
  agentId : String
  siteId : String
  deploymentId : Option String
  agentType : String
  tokenLookupId : String
  credentialDigest : String
  status : CredentialStatus
  createdAt : Time
  expiresAt : Option Time := none
  replacementCredentialId : Option String := none
deriving DecidableEq, Repr

/-- An `enrollment_completed` row of an audit table. -/
structure Completion where
  enrollmentId : String
  credentialId : String
deriving DecidableEq, Repr

/-- The identity tables, each by its primary key. -/
structure IdentityTables where
  agents : Dict String AgentRow := Dict.empty
  sensorEnrollments : Dict String SensorEnrollment := Dict.empty
  sensorCredentials : Dict String SensorCredential := Dict.empty
  sensorCompletions : List Completion := []
  agentEnrollments : Dict String AgentEnrollment := Dict.empty
  agentCredentials : Dict String AgentCredential := Dict.empty
  agentCompletions : List Completion := []

/-- What is locked: a row, or an entry of the unique index on the lookup ids of tokens. -/
inductive IdentityKey where
  | agent (agentId : String)
  | sensorEnrollment (enrollmentId : String)
  | sensorCredential (credentialId : String)
  | sensorToken (lookupId : String)
  | agentEnrollment (enrollmentId : String)
  | agentCredential (credentialId : String)
  | agentToken (lookupId : String)
deriving DecidableEq, Repr

def agentTable : TableOf IdentityKey IdentityTables AgentRow where
  rows := (·.agents)
  modify f tables := { tables with agents := f tables.agents }
  key := .agent
  rows_modify _ _ := rfl

def sensorEnrollmentTable : TableOf IdentityKey IdentityTables SensorEnrollment where
  rows := (·.sensorEnrollments)
  modify f tables := { tables with sensorEnrollments := f tables.sensorEnrollments }
  key := .sensorEnrollment
  rows_modify _ _ := rfl

def sensorCredentialTable : TableOf IdentityKey IdentityTables SensorCredential where
  rows := (·.sensorCredentials)
  modify f tables := { tables with sensorCredentials := f tables.sensorCredentials }
  key := .sensorCredential
  rows_modify _ _ := rfl

def agentEnrollmentTable : TableOf IdentityKey IdentityTables AgentEnrollment where
  rows := (·.agentEnrollments)
  modify f tables := { tables with agentEnrollments := f tables.agentEnrollments }
  key := .agentEnrollment
  rows_modify _ _ := rfl

def agentCredentialTable : TableOf IdentityKey IdentityTables AgentCredential where
  rows := (·.agentCredentials)
  modify f tables := { tables with agentCredentials := f tables.agentCredentials }
  key := .agentCredential
  rows_modify _ _ := rfl

/-- The reads that runs are told apart by: the upsert of a sensor that was or was not there when the exchange looked for it. -/
inductive NamedRead where
  | upsertSensor (sensorId : String) (seen : Bool)
deriving DecidableEq, Repr

/-- What a call returns or raises. -/
inductive IdentityResult where
  | sensorEnrolled (siteId sensorId sensorType credentialId : String) (issuedAt : Time)
  | sensorEnrollmentRejected
  | sensorAuthenticated (siteId sensorId sensorType credentialId : String)
  | sensorAuthenticationRejected
  | sensorRotated (credentialId sensorId siteId sensorType : String) (issuedAt : Time)
  | sensorCredentialRevoked (credentialId : String) (status : CredentialStatus)
  | sensorRevoked (sensorId siteId : String) (revokedAt : Time) (revokedActiveCredentials : Nat)
  | agentEnrolled (siteId agentId : String) (deploymentId : Option String) (credentialId : String) (issuedAt : Time)
  | agentEnrollmentRejected
  | agentAuthenticated (siteId agentId : String) (deploymentId : Option String) (agentType credentialId : String)
  | agentAuthenticationRejected
  | agentRotated (credentialId agentId siteId : String) (deploymentId : Option String) (issuedAt : Time)
  | agentCredentialRevoked (credentialId : String) (status : CredentialStatus)
  | agentRevoked (agentId siteId : String) (revokedAt : Time) (revokedActiveCredentials : Nat)
  | developmentShared
  | notFound (detail : String)
  | conflict (detail : String)
  | integrityError
deriving DecidableEq, Repr

abbrev IdentitySession := Session NamedRead IdentityKey IdentityTables IdentityResult

/-- A transaction that is rolled back before the call raises. -/
def raise (error : IdentityResult) : IdentitySession := .rollback (.commit error)

/-- A token after `parse_token`: the lookup id and the digest of its secret. -/
structure ParsedToken where
  lookupId : String
  digest : String
deriving DecidableEq, Repr

/-- A request token: one with the prefix of a bound credential, parsed if it is well formed, or another one, which may be the
shared development token. -/
inductive ProvidedToken where
  | bound (parsed : Option ParsedToken)
  | other (isSharedDevelopment : Bool)
deriving DecidableEq, Repr

/-- A credential that was issued but not yet stored: the drawn id and the parts of the token that are stored. -/
structure IssuedCredential where
  credentialId : String
  lookupId : String
  digest : String
deriving DecidableEq, Repr

end OpenAssetWatch.Identity
