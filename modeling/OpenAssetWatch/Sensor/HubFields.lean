import OpenAssetWatch.Ingestion.Adapters
import OpenAssetWatch.Sensor.Wire
import OpenAssetWatch.Ingestion.Noninterference
import OpenAssetWatch.Text.Normalize
import OpenAssetWatch.Text.Strip

namespace OpenAssetWatch.Sensor

open Library Text Ingestion

inductive HubError where
  | field (name : String)
  | futureSkew
  | sourceDiffers
  | overflow
  | envelope (error : EnvelopeError)
deriving DecidableEq, Repr

def HubError.message : HubError → String
  | .field name => name
  | .futureSkew => "observed_at exceeds the allowed future clock skew"
  | .sourceDiffers => "observation_source must match the authenticated sensor_type"
  | .overflow => "date value out of range"
  | .envelope error => error.message

/-- The first moment of a `datetime`, that of the year 1. -/
def firstMoment : Time := -62_135_596_800_000_000

/-- A field of so many characters without the white space around them, all of which a pattern allows. -/
def contractField (name : String) (least most : Nat) (pattern : List Char → Bool) (text : List Char) :
    Except HubError String := do
  let stripped := stripChars isWhiteSpace text
  require (least ≤ stripped.length && stripped.length ≤ most && pattern stripped) (.field name)
  return String.ofList stripped

def anyText (_ : List Char) : Bool := true

def isProtocolText : List Char → Bool
  | [] => false
  | first :: rest => (first.isLower || first.isDigit) &&
    rest.all fun c => c.isLower || c.isDigit || c == '.' || c == '_' || c == '-'

/-- A field that a document may leave out. -/
def optionalField (name : String) (most : Nat) (text : List Char) : Except HubError (Option String) :=
  if text = [] then .ok none else (contractField name 0 most anyText text).map some

def confidenceField (name : String) (value : ℚ) : Except HubError ℚ := do
  require (0 ≤ value && value ≤ 1) (.field name)
  return value

def evidenceRequest (evidence : WireEvidence) : Except HubError ObservationEvidence := do
  return {
    protocol := ← contractField "protocol" 1 32 isProtocolText evidence.protocol
    kind := ← contractField "kind" 1 64 anyText evidence.kind
    value := ← contractField "value" 1 512 anyText evidence.value
    confidence := ← confidenceField "confidence" evidence.confidence }

def assetRequest (asset : WireAsset) : Except HubError ObservationAsset := do
  require (asset.evidence.length ≤ 32) (.field "evidence")
  return {
    assetId := ← contractField "asset_id" 1 160 anyText asset.assetId
    hostname := ← optionalField "hostname" 255 asset.hostname
    primaryIp := ← optionalField "primary_ip" 64 asset.primaryIp
    mac := ← optionalField "mac" 64 asset.mac
    os := ← optionalField "os" 160 asset.os
    platform := ← optionalField "platform" 160 asset.platform
    category := ← optionalField "category" 80 asset.category
    evidence := ← asset.evidence.mapM evidenceRequest }

def sensorTypeNamed (text : String) : Option SensorType :=
  [.passiveNetworkSensor, .endpointCollector, .connector].find? fun sensorType : SensorType => sensorType.text == text

def observationSourceNamed (text : String) : Option ObservationSource :=
  [.passiveNetwork, .endpointInventory, .connector].find? fun source : ObservationSource => source.text == text

def deliveryStateNamed (text : String) : Option DeliveryState :=
  [.live, .cachedRetry].find? fun state : DeliveryState => state.text == text

/-- A field of a few literals. -/
def literalField {α : Type} (name : String) (named : String → Option α) (text : List Char) : Except HubError α :=
  match named (String.ofList text) with
  | some value => .ok value
  | none => .error (.field name)

/-- A `datetime` of the text of a time, which keeps its microseconds and has no year 0. -/
def awareTime (text : Rfc3339) : Except HubError AwareTime := do
  let clock := text.clock / 1000 + firstMoment
  let offset := text.zone.getD 0 * 60
  require (firstMoment ≤ clock && clock ≤ lastMoment && (-86400 < offset && offset < 86400)) (.field "observed_at")
  return ⟨clock - offset * 1_000_000, offset⟩

/-- `astimezone(timezone.utc)`. -/
def utcTime (time : AwareTime) : Except HubError Time := do
  require (firstMoment ≤ time.instant && time.instant ≤ lastMoment) .overflow
  return time.instant

/-- The addition of `MAX_OBSERVATION_FUTURE_SKEW`. -/
def afterSkew (time : Time) : Except HubError Time := do
  require (time + maxFutureSkew ≤ lastMoment) .overflow
  return time + maxFutureSkew

def expectedSource : SensorType → ObservationSource
  | .passiveNetworkSensor => .passiveNetwork
  | .endpointCollector => .endpointInventory
  | .connector => .connector

/-- `require_timezone`, where the clock of the hub shows `now`. -/
def requireTimezone (now : Time) (time : AwareTime) : Except HubError Unit := do
  let utc ← utcTime time
  let limit ← afterSkew now
  require (utc ≤ limit) .futureSkew

/-- `ObservationBatchRequest`, of a document that a sensor encodes, which has no components. -/
def observationBatchRequest (now : Time) (document : WireBatch) : Except HubError ObservationBatchRequest := do
  require (document.schemaVersion = schemaVersion.toList) (.field "schema_version")
  let some assets := document.assets
    | throw (.field "assets")
  require (assets.length ≤ 500) (.field "assets")
  let observedAt ← awareTime document.observedAt
  requireTimezone now observedAt
  let observationBatchId ← contractField "observation_batch_id" 8 160 (·.all isAssetChar) document.observationBatchId
  let siteId ← contractField "site_id" 1 128 (·.all isSiteChar) document.siteId
  let sensorId ← contractField "sensor_id" 1 160 (·.all isAssetChar) document.sensorId
  let sensorName ← contractField "sensor_name" 1 160 anyText document.sensorName
  let sensorType ← literalField "sensor_type" sensorTypeNamed document.sensorType
  let sensorVersion ← optionalField "sensor_version" 80 document.sensorVersion
  let observationSource ← literalField "observation_source" observationSourceNamed document.observationSource
  let deliveryState ← literalField "delivery_state" deliveryStateNamed document.deliveryState
  let confidence ← confidenceField "confidence" document.confidence
  let assets ← assets.mapM assetRequest
  require (observationSource = expectedSource sensorType) .sourceDiffers
  let _ ← afterSkew observedAt.instant
  return {
    observationBatchId, siteId, sensorId, sensorName, sensorType, sensorVersion, observedAt, observationSource,
    deliveryState, confidence, assets }

/-- What the credential of an enrolled sensor binds it to. -/
structure BoundSensor where
  siteId : String
  sensorId : String
  credentialId : String
  site : (isLong 1 128 siteId && siteId.toList.all isSiteChar) = true
  sensor : (isLong 1 160 sensorId && sensorId.toList.all isAssetChar) = true
  credential : (isLong 1 80 credentialId && credentialId.toList.all isAssetChar) = true

variable (printed : Json → String) (digest : List String → HexDigest) (batchDigest : ObservationBatchRequest → String)

/-- What the hub makes of a document: the request that it validates at one time and the envelope it builds at another. -/
def receiveBatch (sensor : BoundSensor) (now receivedAt : Time) (document : WireBatch) : Except HubError AdaptedEnvelope := do
  let payload ← observationBatchRequest now document
  (sensorEnvelope printed digest batchDigest payload (.boundSensor sensor.siteId sensor.sensorId sensor.credentialId)
    receivedAt).mapError .envelope

end OpenAssetWatch.Sensor

namespace OpenAssetWatch.Sensor

open Library Text Ingestion

theorem isWhiteSpace_eq : isWhiteSpace = isGoSpace := by
  funext c
  unfold isWhiteSpace isSpace isGoSpace
  rw [Bool.eq_iff_iff]
  simp only [Bool.and_eq_true, Bool.or_eq_true, Bool.not_eq_true', Bool.and_eq_false_iff, decide_eq_true_eq,
    decide_eq_false_iff_not, beq_iff_eq]
  omega

theorem isSpace_of (c : Char) (space : isSpace c = true) : isWhiteSpace c = true ∨ isControlRune c = true := by
  unfold isWhiteSpace isControlRune
  rw [space]
  simp only [Bool.true_and, Bool.not_eq_true', Bool.or_eq_true, Bool.and_eq_true, Bool.and_eq_false_iff, decide_eq_true_eq,
    decide_eq_false_iff_not]
  omega

section Go

variable {value : GoString} {least most : Nat}

theorem validText_iff : validText value least most = true ↔
    (least ≤ (stripChars isWhiteSpace value.runes).length ∧ (stripChars isWhiteSpace value.runes).length ≤ most) ∧
      stripChars isWhiteSpace value.runes ≠ [] ∧ ∀ c ∈ stripChars isWhiteSpace value.runes, isControlRune c = false := by
  unfold validText trimSpace
  rw [isWhiteSpace_eq]
  simp [List.isEmpty_eq_false_iff, and_assoc]

theorem contractField_of_validText (name : String) (valid : validText value least most = true) :
    contractField name least most anyText value.runes = .ok (String.ofList (stripChars isWhiteSpace value.runes)) := by
  obtain ⟨⟨long, short⟩, -⟩ := validText_iff.mp valid
  unfold contractField
  rw [require_bind_eq_ok]
  refine ⟨?_, rfl⟩
  rw [decide_eq_true long, decide_eq_true short]
  rfl

theorem optionalField_of_short (name : String) {text : List Char} (short : text.length ≤ most) :
    ∃ field, optionalField name most text = .ok field := by
  unfold optionalField
  split
  · exact ⟨_, rfl⟩
  · have stripped := (length_stripChars_le isWhiteSpace text).trans short
    refine ⟨some (String.ofList (stripChars isWhiteSpace text)), ?_⟩
    unfold contractField
    simp only [anyText, decide_eq_true stripped, Nat.zero_le, decide_true, Bool.and_self, require, if_true]
    rfl

theorem optionalField_of_valid (name : String) (valid : optionalText value most = true) :
    ∃ field, optionalField name most value.runes = .ok field := by
  unfold optionalText at valid
  simp only [Bool.or_eq_true, decide_eq_true_eq] at valid
  rcases valid with rfl | valid
  · exact ⟨none, rfl⟩
  · unfold optionalField
    split
    · exact ⟨_, rfl⟩
    · obtain ⟨⟨-, short⟩, -⟩ := validText_iff.mp valid
      refine ⟨some (String.ofList (stripChars isWhiteSpace value.runes)), ?_⟩
      unfold contractField
      simp only [anyText, decide_eq_true short, Nat.zero_le, decide_true, Bool.and_self, require, if_true]
      rfl

theorem length_le_byteLength (value : GoString) : value.length ≤ value.byteLength := by
  induction value with
  | nil => exact le_rfl
  | cons rune rest ih =>
    have positive : 1 ≤ rune.size := by
      cases rune with
      | char c => exact Char.utf8Size_pos c
      | invalid byte => exact le_rfl
    unfold GoString.byteLength at ih ⊢
    rw [List.map_cons, List.sum_cons, List.length_cons]
    omega

theorem utf8Size_of_ascii {c : Char} (ascii : c.toNat < 128) : c.utf8Size = 1 := by
  unfold Char.utf8Size
  rw [if_pos]
  rw [UInt32.le_iff_toNat_le]
  exact Nat.le_of_lt_succ ascii

theorem byteLength_of_ascii {class_ : Char → Bool} (ascii : ∀ c, class_ c = true → c.toNat < 128)
    (all : (value.all fun rune => class_ rune.decoded) = true) : value.byteLength = value.length := by
  induction value with
  | nil => rfl
  | cons rune rest ih =>
    rw [List.all_cons, Bool.and_eq_true] at all
    have one : rune.size = 1 := by
      cases rune with
      | char c => exact utf8Size_of_ascii (ascii c all.1)
      | invalid byte => rfl
    have others := ih all.2
    unfold GoString.byteLength at others ⊢
    rw [List.map_cons, List.sum_cons, List.length_cons, one, others, Nat.add_comm]

theorem isAlphanum_range {c : Char} (alphanumeric : c.isAlphanum = true) :
    (48 ≤ c.toNat ∧ c.toNat ≤ 57) ∨ (65 ≤ c.toNat ∧ c.toNat ≤ 90) ∨ (97 ≤ c.toNat ∧ c.toNat ≤ 122) := by
  simp only [Char.isAlphanum, Char.isAlpha, Char.isUpper, Char.isLower, Char.isDigit, Bool.or_eq_true, Bool.and_eq_true,
    decide_eq_true_eq, UInt32.le_iff_toNat_le, ge_iff_le] at alphanumeric
  have whole : c.toNat = c.val.toNat := rfl
  have upper : 'A'.val.toNat = 65 ∧ 'Z'.val.toNat = 90 := ⟨rfl, rfl⟩
  have lower : 'a'.val.toNat = 97 ∧ 'z'.val.toNat = 122 := ⟨rfl, rfl⟩
  have digit : '0'.val.toNat = 48 ∧ '9'.val.toNat = 57 := ⟨rfl, rfl⟩
  omega

theorem isAlphanum_ascii {c : Char} (alphanumeric : c.isAlphanum = true) : c.toNat < 128 := by
  have range := isAlphanum_range alphanumeric
  omega

theorem isAssetChar_ascii (c : Char) (allowed : isAssetChar c = true) : c.toNat < 128 := by
  simp only [isAssetChar, Bool.or_eq_true, beq_iff_eq] at allowed
  rcases allowed with (((alphanumeric | rfl) | rfl) | rfl) | rfl
  · exact isAlphanum_ascii alphanumeric
  all_goals decide

theorem isSiteChar_ascii (c : Char) (allowed : isSiteChar c = true) : c.toNat < 128 := by
  simp only [isSiteChar, Bool.or_eq_true, beq_iff_eq] at allowed
  rcases allowed with ((alphanumeric | rfl) | rfl) | rfl
  · exact isAlphanum_ascii alphanumeric
  all_goals decide

theorem isAlphanum_not_space {c : Char} (alphanumeric : c.isAlphanum = true) : isWhiteSpace c = false := by
  have range := isAlphanum_range alphanumeric
  rw [isWhiteSpace_eq]
  unfold isGoSpace
  simp only [Bool.or_eq_false_iff, Bool.and_eq_false_iff, decide_eq_false_iff_not, beq_eq_false_iff_ne]
  omega

theorem isAssetChar_not_space (c : Char) (allowed : isAssetChar c = true) : isWhiteSpace c = false := by
  simp only [isAssetChar, Bool.or_eq_true, beq_iff_eq] at allowed
  rcases allowed with (((alphanumeric | rfl) | rfl) | rfl) | rfl
  · exact isAlphanum_not_space alphanumeric
  all_goals decide

theorem isSiteChar_not_space (c : Char) (allowed : isSiteChar c = true) : isWhiteSpace c = false := by
  simp only [isSiteChar, Bool.or_eq_true, beq_iff_eq] at allowed
  rcases allowed with ((alphanumeric | rfl) | rfl) | rfl
  · exact isAlphanum_not_space alphanumeric
  all_goals decide

theorem contractField_of_isIdentifier (name : String) {class_ : Char → Bool} (ascii : ∀ c, class_ c = true → c.toNat < 128)
    (solid : ∀ c, class_ c = true → isWhiteSpace c = false) (valid : isIdentifier least most class_ value = true) :
    contractField name least most (·.all class_) value.runes = .ok (String.ofList value.runes) := by
  simp only [isIdentifier, Bool.and_eq_true, decide_eq_true_eq] at valid
  obtain ⟨⟨⟨long, short⟩, -⟩, all⟩ := valid
  rw [byteLength_of_ascii ascii all] at long short
  have each : value.runes.all class_ = true := by
    unfold GoString.runes
    rw [List.all_map]
    exact all
  have unstripped : stripChars isWhiteSpace value.runes = value.runes :=
    stripChars_none fun c member => solid c (List.all_eq_true.mp each c member)
  have length : value.runes.length = value.length := List.length_map _
  unfold contractField
  rw [require_bind_eq_ok, unstripped, length, decide_eq_true long, decide_eq_true short]
  exact ⟨each, rfl⟩

end Go

end OpenAssetWatch.Sensor
