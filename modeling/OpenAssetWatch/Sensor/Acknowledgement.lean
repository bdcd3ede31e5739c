import OpenAssetWatch.Ingestion.Envelope
import OpenAssetWatch.Library.JsonText
import OpenAssetWatch.Sensor.Contract
import OpenAssetWatch.Sensor.GoStrings

namespace OpenAssetWatch.Sensor

open Library Ingestion
open GoString (ofText ofChars trimmed)

section Hub

inductive DeliveryStatus where
  | accepted
  | duplicate
deriving DecidableEq, Repr

def DeliveryStatus.text : DeliveryStatus → String
  | .accepted => "accepted"
  | .duplicate => "duplicate"

inductive EvaluationState where
  | queued
  | running
  | completed
  | retryableFailure
  | notRequired
deriving DecidableEq, Repr

def EvaluationState.text : EvaluationState → String
  | .queued => "queued"
  | .running => "running"
  | .completed => "completed"
  | .retryableFailure => "retryable-failure"
  | .notRequired => "not-required"

/-- The sources of sensor batches: an authenticated sensor, or one with the shared token. -/
def authorityText (authenticated : Bool) : String :=
  if authenticated = true then "authenticated-passive-sensor" else "untrusted-transitional"

def compatibilityText (authenticated : Bool) : String := if authenticated = true then "canonical" else "deprecated"

/-- What the endpoint takes over of a `CanonicalIngestionAcknowledgement`; `receivedAt` is its text. -/
structure IngestionAcknowledgement where
  status : DeliveryStatus
  canonicalCollectionId : List Char
  evaluationState : EvaluationState
  warnings : List (List Char)
  authenticated : Bool
  compatibilityCollectionId : Nat
  receivedAt : List Char
  observedAssetCount : Nat
  normalizedAssetCount : Nat

/-- The identifiers of an `ObservationBatchRequest`. -/
structure BatchIdentifiers where
  observationBatchId : List Char
  siteId : List Char
  sensorId : List Char

def number (value : Nat) : JsonDoc := .number (Nat.toDigits 10 value)

def text (value : String) : JsonDoc := .string value.toList

/-- The body of an `ObservationBatchResponse`, with the evaluation state after the evaluation has been queued. -/
def observationBatchResponse (payload : BatchIdentifiers) (acknowledgement : IngestionAcknowledgement)
    (evaluationState : EvaluationState) : JsonDoc :=
  .object [
    ("status".toList, text acknowledgement.status.text),
    ("observation_batch_id".toList, .string payload.observationBatchId),
    ("storage_id".toList, number acknowledgement.compatibilityCollectionId),
    ("canonical_collection_id".toList, .string acknowledgement.canonicalCollectionId),
    ("site_id".toList, .string payload.siteId),
    ("sensor_id".toList, .string payload.sensorId),
    ("received_at".toList, .string acknowledgement.receivedAt),
    ("observed_asset_count".toList, number acknowledgement.observedAssetCount),
    ("normalized_asset_count".toList, number acknowledgement.normalizedAssetCount),
    ("source_authority".toList, text (authorityText acknowledgement.authenticated)),
    ("adapter_type".toList, text "passive-sensor"),
    ("compatibility_status".toList, text (compatibilityText acknowledgement.authenticated)),
    ("evaluation_state".toList, text evaluationState.text),
    ("warnings".toList, .array (acknowledgement.warnings.map .string)),
    ("message".toList, text (match acknowledgement.status with
      | .duplicate => "observation batch was already stored; no duplicate asset evidence was added"
      | .accepted => "normalized outbound observation batch accepted"))]

end Hub

section Client

structure Acknowledgement where
  status : GoString := []
  observationBatchId : GoString := []
  storageId : Int := 0
  siteId : GoString := []
  sensorId : GoString := []
  /-- `none` is the zero time. -/
  receivedAt : Option GoTime := none
  observedAssetCount : Int := 0
  normalizedAssetCount : Int := 0
  message : GoString := []

/-- `time.Time.UnmarshalJSON` of a string. -/
abbrev ParseTime := List Char → Option GoTime

/-- A string; `null` leaves the field as it is. -/
def decodeString (current : GoString) : JsonDoc → Option GoString
  | .string text => some (ofChars text)
  | .null => some current
  | _ => none

/-- `strconv.ParseInt` of the literal, with 64 bits. -/
def parseInt (literal : List Char) : Option Int :=
  let digits := literal.dropWhile (· = '-')
  let value : Int := decimalValue digits
  let signed := if literal.head? = some '-' then -value else value
  if digits ≠ [] ∧ digits.all Char.isDigit = true ∧ -2 ^ 63 ≤ signed ∧ signed < 2 ^ 63 then some signed else none

def decodeInt (current : Int) : JsonDoc → Option Int
  | .number literal => parseInt literal
  | .null => some current
  | _ => none

def decodeTime (parseTime : ParseTime) (current : Option GoTime) : JsonDoc → Option (Option GoTime)
  | .string text => (parseTime text).map some
  | .null => some current
  | _ => none

/-- `encoding/json` compares names without the case of letters; two characters beyond ASCII fold to letters. -/
def foldRune (c : Char) : Char :=
  if c = 'ſ' then 's' else if c = 'K' then 'k' else c.toLower

variable (parseTime : ParseTime)

/-- One field of an object, where a name that is not known is refused. -/
def decodeField (acknowledgement : Acknowledgement) (field : List Char × JsonDoc) : Option Acknowledgement :=
  let name := String.ofList (field.1.map foldRune)
  if name = "status" then (decodeString acknowledgement.status field.2).map fun status => { acknowledgement with status }
  else if name = "observation_batch_id" then
    (decodeString acknowledgement.observationBatchId field.2).map fun observationBatchId =>
      { acknowledgement with observationBatchId }
  else if name = "storage_id" then
    (decodeInt acknowledgement.storageId field.2).map fun storageId => { acknowledgement with storageId }
  else if name = "site_id" then (decodeString acknowledgement.siteId field.2).map fun siteId => { acknowledgement with siteId }
  else if name = "sensor_id" then
    (decodeString acknowledgement.sensorId field.2).map fun sensorId => { acknowledgement with sensorId }
  else if name = "received_at" then
    (decodeTime parseTime acknowledgement.receivedAt field.2).map fun receivedAt => { acknowledgement with receivedAt }
  else if name = "observed_asset_count" then
    (decodeInt acknowledgement.observedAssetCount field.2).map fun observedAssetCount =>
      { acknowledgement with observedAssetCount }
  else if name = "normalized_asset_count" then
    (decodeInt acknowledgement.normalizedAssetCount field.2).map fun normalizedAssetCount =>
      { acknowledgement with normalizedAssetCount }
  else if name = "message" then (decodeString acknowledgement.message field.2).map fun message => { acknowledgement with message }
  else none

/-- `decoder.Decode` into an `Acknowledgement` with `DisallowUnknownFields`. -/
def decodeAcknowledgement : JsonDoc → Option Acknowledgement
  | .object fields => fields.foldlM (decodeField parseTime) {}
  | .null => some {}
  | _ => none

/-- `validateAcknowledgement`. -/
def validateAcknowledgement (ack : Acknowledgement) (batch : Batch) : Except String Unit := do
  require (ack.status = ofText "accepted" || ack.status = ofText "duplicate") "hub returned an unrecognized acknowledgement"
  require (ack.observationBatchId = batch.observationBatchId) "hub acknowledgement batch ID does not match"
  require (ack.siteId = batch.siteId) "hub acknowledgement site ID does not match"
  require (ack.sensorId = batch.sensorId) "hub acknowledgement sensor ID does not match"
  require (0 < ack.storageId) "hub acknowledgement storage ID is invalid"
  require (ack.receivedAt.any (!·.isZero)) "hub acknowledgement received_at is required"
  require (ack.observedAssetCount = (batch.assets.getD []).length && 0 ≤ ack.observedAssetCount &&
    ack.observedAssetCount ≤ maxAssets) "hub acknowledgement observed asset count does not match"
  require (0 ≤ ack.normalizedAssetCount && ack.normalizedAssetCount ≤ ack.observedAssetCount)
    "hub acknowledgement normalized asset count is invalid"
  require (!(trimmed ack.message).isEmpty && ack.message.byteLength ≤ 512) "hub acknowledgement message is invalid"

/-- A response: its status, how many bytes its body has, and the documents that the body holds, if it is JSON. -/
structure HubResponse where
  statusCode : Nat
  size : Nat
  documents : Option (List JsonDoc)

def maxResponseBytes : Nat := 64 * 2 ^ 10

/-- The body is one document, decoded and checked. -/
def readAcknowledgement (documents : Option (List JsonDoc)) (batch : Batch) : Except String Acknowledgement :=
  match documents with
  | some [document] =>
    match decodeAcknowledgement parseTime document with
    | some acknowledgement => do
      validateAcknowledgement acknowledgement batch
      return acknowledgement
    | none => throw "hub returned an invalid acknowledgement"
  | _ => throw "hub returned an invalid acknowledgement"

/-- What `Send` makes of a response that was read. -/
def receive (response : HubResponse) (batch : Batch) : Except String Acknowledgement := do
  require (response.size ≤ maxResponseBytes) "hub acknowledgement exceeds size limit"
  require (200 ≤ response.statusCode && response.statusCode < 300) "hub status"
  readAcknowledgement parseTime response.documents batch

end Client

section Agreement

variable {parseTime : ParseTime}

theorem decodeField_unknown {acknowledgement : Acknowledgement} {field : List Char × JsonDoc}
    (unknown : String.ofList (field.1.map foldRune) ∉ ["status", "observation_batch_id", "storage_id", "site_id", "sensor_id",
      "received_at", "observed_asset_count", "normalized_asset_count", "message"]) :
    decodeField parseTime acknowledgement field = none := by
  simp only [List.mem_cons, List.not_mem_nil, or_false, not_or] at unknown
  obtain ⟨status, batchId, storageId, siteId, sensorId, receivedAt, observed, normalized, message⟩ := unknown
  unfold decodeField
  dsimp only
  rw [if_neg status, if_neg batchId, if_neg storageId, if_neg siteId, if_neg sensorId, if_neg receivedAt, if_neg observed,
    if_neg normalized, if_neg message]

theorem decode_unknown {fields : List (List Char × JsonDoc)} {field : List Char × JsonDoc} (listed : field ∈ fields)
    (unknown : ∀ acknowledgement, decodeField parseTime acknowledgement field = none) (acknowledgement : Acknowledgement) :
    fields.foldlM (decodeField parseTime) acknowledgement = none := by
  induction fields generalizing acknowledgement with
  | nil => cases listed
  | cons first rest hypothesis =>
    rw [List.foldlM_cons]
    rcases List.mem_cons.mp listed with rfl | later
    · rw [unknown acknowledgement]
      rfl
    · cases decodeField parseTime acknowledgement first with
      | none => rfl
      | some next => exact hypothesis later next

theorem canonical_unknown : String.ofList ("canonical_collection_id".toList.map foldRune) = "canonical_collection_id" := by decide

theorem decode_hub (payload : BatchIdentifiers) (acknowledgement : IngestionAcknowledgement) (evaluationState : EvaluationState) :
    decodeAcknowledgement parseTime (observationBatchResponse payload acknowledgement evaluationState) = none := by
  have listed : ("canonical_collection_id".toList, JsonDoc.string acknowledgement.canonicalCollectionId) ∈
      [("status".toList, text acknowledgement.status.text), ("observation_batch_id".toList, .string payload.observationBatchId),
        ("storage_id".toList, number acknowledgement.compatibilityCollectionId),
        ("canonical_collection_id".toList, .string acknowledgement.canonicalCollectionId)] := by
    simp only [List.mem_cons, true_or, or_true]
  apply decode_unknown (List.mem_append_left _ listed)
  intro current
  apply decodeField_unknown
  rw [canonical_unknown]
  decide

/-- The acknowledgement is for the batch. -/
structure Acknowledges (ack : Acknowledgement) (batch : Batch) : Prop where
  batchId : ack.observationBatchId = batch.observationBatchId
  siteId : ack.siteId = batch.siteId
  sensorId : ack.sensorId = batch.sensorId
  assetCount : ack.observedAssetCount = (batch.assets.getD []).length

theorem acknowledges_of_validated {ack : Acknowledgement} {batch : Batch} (valid : validateAcknowledgement ack batch = .ok ()) :
    Acknowledges ack batch := by
  obtain ⟨_, valid⟩ := require_bind_eq_ok.mp valid
  obtain ⟨batchId, valid⟩ := require_bind_eq_ok.mp valid
  obtain ⟨siteId, valid⟩ := require_bind_eq_ok.mp valid
  obtain ⟨sensorId, valid⟩ := require_bind_eq_ok.mp valid
  obtain ⟨_, valid⟩ := require_bind_eq_ok.mp valid
  obtain ⟨_, valid⟩ := require_bind_eq_ok.mp valid
  obtain ⟨count, _⟩ := require_bind_eq_ok.mp valid
  rw [Bool.and_eq_true, Bool.and_eq_true] at count
  exact ⟨of_decide_eq_true batchId, of_decide_eq_true siteId, of_decide_eq_true sensorId, of_decide_eq_true count.1.1⟩

/-- No response of the hub is taken, and a response that is taken is for the batch that was sent. -/
theorem acknowledgement_agreement :
    (∀ (payload : BatchIdentifiers) (acknowledgement : IngestionAcknowledgement) (evaluationState : EvaluationState)
      (statusCode size : Nat) (batch : Batch) (ack : Acknowledgement),
      receive parseTime ⟨statusCode, size, some [observationBatchResponse payload acknowledgement evaluationState]⟩ batch ≠ .ok ack) ∧
    ∀ (response : HubResponse) (batch : Batch) (ack : Acknowledgement),
      receive parseTime response batch = .ok ack → Acknowledges ack batch := by
  apply And.intro
  · intro payload acknowledgement evaluationState statusCode size batch ack received
    obtain ⟨_, received⟩ := require_bind_eq_ok.mp received
    obtain ⟨_, received⟩ := require_bind_eq_ok.mp received
    unfold readAcknowledgement at received
    dsimp only at received
    rw [decode_hub] at received
    cases received
  · intro response batch ack received
    obtain ⟨_, received⟩ := require_bind_eq_ok.mp received
    obtain ⟨_, received⟩ := require_bind_eq_ok.mp received
    unfold readAcknowledgement at received
    split at received
    · split at received
      · obtain ⟨valid, same⟩ := then_eq_ok.mp received
        cases same
        exact acknowledges_of_validated valid
      · cases received
    · cases received

def sentBatch : Batch where
  schemaVersion := ofText schemaVersion
  observationBatchId := ofText "sensor-home:0001"
  siteId := ofText "home-site"
  sensorId := ofText "sensor-home"
  sensorName := ofText "Home"
  sensorType := ofText "passive-network-sensor"
  observedAt := ⟨1, 0⟩
  observationSource := ofText "passive-network"
  deliveryState := ofText "live"
  confidence := .finite 1
  assets := some []

def acceptedBatch : IngestionAcknowledgement where
  status := .accepted
  canonicalCollectionId := "col_0123456789abcdef0123456789abcdef".toList
  evaluationState := .notRequired
  warnings := []
  authenticated := true
  compatibilityCollectionId := 7
  receivedAt := "2026-07-20T12:00:01Z".toList
  observedAssetCount := 0
  normalizedAssetCount := 0

/-- The body of a hub that knows the nine fields only. -/
def knownResponse : JsonDoc :=
  .object [("status".toList, text "accepted"), ("observation_batch_id".toList, text "sensor-home:0001"),
    ("storage_id".toList, number 7), ("site_id".toList, text "home-site"), ("sensor_id".toList, text "sensor-home"),
    ("received_at".toList, text "2026-07-20T12:00:01Z"), ("observed_asset_count".toList, number 0),
    ("normalized_asset_count".toList, number 0), ("message".toList, text "stored")]

theorem acknowledgement_agreement_known :
    ∃ ack, receive (fun _ => some ⟨1, 0⟩) ⟨200, 300, some [knownResponse]⟩ sentBatch = .ok ack ∧ Acknowledges ack sentBatch := by
  apply Exists.intro
  have received : receive (fun _ => some ⟨1, 0⟩) ⟨200, 300, some [knownResponse]⟩ sentBatch = .ok _ := rfl
  exact ⟨received, acknowledgement_agreement.2 _ _ _ received⟩

theorem accepted_batch_refused :
    receive (fun _ => some ⟨1, 0⟩) ⟨200, 640, some [observationBatchResponse
      ⟨"sensor-home:0001".toList, "home-site".toList, "sensor-home".toList⟩ acceptedBatch .notRequired]⟩ sentBatch =
      .error "hub returned an invalid acknowledgement" := by
  rfl

end Agreement

end OpenAssetWatch.Sensor
