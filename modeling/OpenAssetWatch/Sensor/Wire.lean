import OpenAssetWatch.Sensor.Contract

namespace OpenAssetWatch.Sensor

open Library

def second : Int := 1_000_000_000

/-- A time as RFC 3339 writes it: the clock of its zone, and the whole minutes the zone is east of UTC unless it says `Z`. -/
structure Rfc3339 where
  clock : Instant
  zone : Option Int
deriving DecidableEq, Repr

/-- The first moment of year 0, and that of year 10000. -/
def firstYear : Instant := -31_622_400 * second
def lastYear : Instant := 315_537_897_600 * second

/-- `Time.MarshalJSON`, which drops the seconds of a zone. -/
def GoTime.marshal (t : GoTime) : Except String Rfc3339 := do
  let clock := t.instant + t.offset * second
  require (firstYear ≤ clock && clock < lastYear) "year outside of range [0,9999]"
  require ((t.offset.tdiv 60).natAbs < 24 * 60) "timezone hour outside of range [0,23]"
  return ⟨clock, if t.offset = 0 then none else some (t.offset.tdiv 60)⟩

/-- `Time.UnmarshalJSON`. -/
def Rfc3339.unmarshal (text : Rfc3339) : GoTime :=
  let zone := text.zone.getD 0 * 60
  ⟨text.clock - zone * second, zone⟩

/-- The JSON documents of a batch. Texts are the characters of JSON strings, and the empty text stands for a field that
    `omitempty` leaves out. -/
structure WireEvidence where
  protocol : List Char
  kind : List Char
  value : List Char
  confidence : ℚ
deriving DecidableEq, Repr

structure WireAsset where
  assetId : List Char
  hostname : List Char
  primaryIp : List Char
  mac : List Char
  os : List Char
  platform : List Char
  category : List Char
  evidence : List WireEvidence
deriving DecidableEq, Repr

structure WireBatch where
  schemaVersion : List Char
  observationBatchId : List Char
  siteId : List Char
  sensorId : List Char
  sensorName : List Char
  sensorType : List Char
  sensorVersion : List Char
  observedAt : Rfc3339
  observationSource : List Char
  deliveryState : List Char
  confidence : ℚ
  assets : Option (List WireAsset)
deriving DecidableEq, Repr

def Float64.marshal : Float64 → Except String ℚ
  | .finite value => .ok value
  | .infinite => .error "json: unsupported value"
  | .notANumber => .error "json: unsupported value"

def Evidence.marshal (evidence : Evidence) : Except String WireEvidence := do
  return {
    protocol := evidence.protocol.runes
    kind := evidence.kind.runes
    value := evidence.value.runes
    confidence := ← evidence.confidence.marshal }

/-- The fields of an asset that have a place in the document. -/
def Asset.marshal (asset : Asset) : Except String WireAsset := do
  return {
    assetId := asset.assetId.runes
    hostname := asset.hostname.runes
    primaryIp := asset.primaryIp.runes
    mac := asset.mac.runes
    os := asset.os.runes
    platform := asset.platform.runes
    category := asset.category.runes
    evidence := ← asset.evidence.mapM Evidence.marshal }

def Batch.marshal (b : Batch) : Except String WireBatch := do
  return {
    schemaVersion := b.schemaVersion.runes
    observationBatchId := b.observationBatchId.runes
    siteId := b.siteId.runes
    sensorId := b.sensorId.runes
    sensorName := b.sensorName.runes
    sensorType := b.sensorType.runes
    sensorVersion := b.sensorVersion.runes
    observedAt := ← b.observedAt.marshal
    observationSource := b.observationSource.runes
    deliveryState := b.deliveryState.runes
    confidence := ← b.confidence.marshal
    assets := ← b.assets.mapM fun assets => assets.mapM Asset.marshal }

def WireEvidence.unmarshal (evidence : WireEvidence) : Evidence where
  protocol := .ofChars evidence.protocol
  kind := .ofChars evidence.kind
  value := .ofChars evidence.value
  confidence := .finite evidence.confidence

def WireAsset.unmarshal (asset : WireAsset) : Asset where
  assetId := .ofChars asset.assetId
  hostname := .ofChars asset.hostname
  primaryIp := .ofChars asset.primaryIp
  mac := .ofChars asset.mac
  os := .ofChars asset.os
  platform := .ofChars asset.platform
  category := .ofChars asset.category
  evidence := asset.evidence.map WireEvidence.unmarshal

def WireBatch.unmarshal (b : WireBatch) : Batch where
  schemaVersion := .ofChars b.schemaVersion
  observationBatchId := .ofChars b.observationBatchId
  siteId := .ofChars b.siteId
  sensorId := .ofChars b.sensorId
  sensorName := .ofChars b.sensorName
  sensorType := .ofChars b.sensorType
  sensorVersion := .ofChars b.sensorVersion
  observedAt := b.observedAt.unmarshal
  observationSource := .ofChars b.observationSource
  deliveryState := .ofChars b.deliveryState
  confidence := .finite b.confidence
  assets := b.assets.map fun assets => assets.map WireAsset.unmarshal

section Lengths

/-- The bytes of a rune in a JSON string, which escapes HTML. -/
def Rune.jsonLength : Rune → Nat
  | .invalid _ => 6
  | .char c =>
    if c = '\\' || c = '"' then 2
    else if c.toNat < 32 then if [8, 9, 10, 12, 13].contains c.toNat then 2 else 6
    else if c = '<' || c = '>' || c = '&' || c.toNat = 0x2028 || c.toNat = 0x2029 then 6
    else c.utf8Size

def GoString.jsonLength (value : GoString) : Nat := 2 + (value.map Rune.jsonLength).sum

def naturalLength (n : Nat) : Nat := (Nat.toDigits 10 n).length

/-- The digits of a fraction of a second with its point, without trailing zeros. -/
def fractionLength (nanoseconds : Nat) : Nat :=
  if nanoseconds = 0 then 0
  else 10 - ((List.range 9).takeWhile fun k => nanoseconds % 10 ^ (k + 1) = 0).length

def Rfc3339.jsonLength (text : Rfc3339) : Nat :=
  2 + 19 + fractionLength (text.clock % second).toNat + if text.zone.isNone then 1 else 6

/-- The bytes of an array or object whose members take so many each. -/
def listLength (members : List Nat) : Nat := 2 + members.sum + (members.length - 1)

/-- A field of an object: its name in quotation marks, a colon and its value. -/
def fieldLength (name : String) (value : Nat) : Nat := name.length + 3 + value

/-- A field that is left out when its text is empty. -/
def optionalLength (name : String) (value : GoString) : List Nat :=
  if value = [] then [] else [fieldLength name value.jsonLength]

/-- `floatLength` says how many bytes the shortest decimal of a `float64` takes. -/
def Float64.jsonLength (floatLength : ℚ → Nat) : Float64 → Nat
  | .finite value => floatLength value
  | .infinite => 0
  | .notANumber => 0

variable (floatLength : ℚ → Nat)

def Evidence.jsonLength (evidence : Evidence) : Nat := listLength [
  fieldLength "protocol" evidence.protocol.jsonLength,
  fieldLength "kind" evidence.kind.jsonLength,
  fieldLength "value" evidence.value.jsonLength,
  fieldLength "confidence" (evidence.confidence.jsonLength floatLength)]

def Asset.jsonLength (asset : Asset) : Nat := listLength (
  [fieldLength "asset_id" asset.assetId.jsonLength] ++
  optionalLength "hostname" asset.hostname ++
  optionalLength "primary_ip" asset.primaryIp ++
  optionalLength "mac" asset.mac ++
  optionalLength "os" asset.os ++
  optionalLength "platform" asset.platform ++
  optionalLength "category" asset.category ++
  if asset.evidence = [] then [] else [fieldLength "evidence" (listLength (asset.evidence.map (·.jsonLength floatLength)))])

/-- The bytes of `json.Marshal` of a batch; a nil slice is `null`. -/
def Batch.jsonLength (b : Batch) (observedAt : Rfc3339) : Nat := listLength (
  [fieldLength "schema_version" b.schemaVersion.jsonLength,
    fieldLength "observation_batch_id" b.observationBatchId.jsonLength,
    fieldLength "site_id" b.siteId.jsonLength,
    fieldLength "sensor_id" b.sensorId.jsonLength,
    fieldLength "sensor_name" b.sensorName.jsonLength,
    fieldLength "sensor_type" b.sensorType.jsonLength] ++
  optionalLength "sensor_version" b.sensorVersion ++
  [fieldLength "observed_at" observedAt.jsonLength,
    fieldLength "observation_source" b.observationSource.jsonLength,
    fieldLength "delivery_state" b.deliveryState.jsonLength,
    fieldLength "confidence" (b.confidence.jsonLength floatLength),
    fieldLength "assets" (b.assets.elim 4 fun assets => listLength (assets.map (·.jsonLength floatLength)))])

/-- `contract.Marshal`. -/
def marshal (b : Batch) : Except String WireBatch := do
  b.validate
  let document ← b.marshal
  require (b.jsonLength floatLength document.observedAt ≤ maxBodyBytes) "observation batch exceeds maximum body bytes"
  return document

end Lengths

/-- Every text with a place in the document is UTF-8. -/
def Evidence.isText (evidence : Evidence) : Bool :=
  evidence.protocol.isValid && evidence.kind.isValid && evidence.value.isValid

def Asset.isText (asset : Asset) : Bool :=
  asset.assetId.isValid && asset.hostname.isValid && asset.primaryIp.isValid && asset.mac.isValid && asset.os.isValid &&
    asset.platform.isValid && asset.category.isValid && asset.evidence.all Evidence.isText

def Batch.isText (b : Batch) : Bool :=
  b.schemaVersion.isValid && b.observationBatchId.isValid && b.siteId.isValid && b.sensorId.isValid &&
    b.sensorName.isValid && b.sensorType.isValid && b.sensorVersion.isValid && b.observationSource.isValid &&
    b.deliveryState.isValid && b.assets.all fun assets => assets.all Asset.isText

/-- The fields of an asset without those that are not part of the contract with the hub. -/
def Asset.wireFields (asset : Asset) : Asset := { asset with vlanId := none, sourceProtocols := [] }

def Batch.wireFields (b : Batch) : Batch := { b with assets := b.assets.map fun assets => assets.map Asset.wireFields }

section

variable {evidence : Evidence} {asset : Asset} {b : Batch} {t : GoTime}

theorem GoTime.unmarshal_marshal {text : Rfc3339} (encoded : t.marshal = .ok text) (whole : t.offset % 60 = 0) :
    text.unmarshal = t := by
  simp only [GoTime.marshal, require_bind_eq_ok] at encoded
  obtain ⟨-, -, encoded⟩ := encoded
  have written := Except.ok.inj encoded
  have zone : t.offset.tdiv 60 * 60 = t.offset := Int.tdiv_mul_cancel (Int.dvd_of_emod_eq_zero whole)
  rw [← written]
  unfold Rfc3339.unmarshal
  by_cases utc : t.offset = 0
  · rw [if_pos utc]
    cases t
    simp_all
  · rw [if_neg utc]
    dsimp only [Option.getD_some]
    rw [zone]
    cases t
    simp

theorem Float64.marshal_eq {confidence : Float64} {value : ℚ} (encoded : confidence.marshal = .ok value) :
    confidence = .finite value := by
  cases confidence with
  | finite x => rw [Except.ok.inj encoded]
  | infinite => cases encoded
  | notANumber => cases encoded

theorem Evidence.unmarshal_marshal {document : WireEvidence} (encoded : evidence.marshal = .ok document)
    (text : evidence.isText = true) : document.unmarshal = evidence := by
  unfold Evidence.marshal at encoded
  obtain ⟨value, confidence, encoded⟩ := bind_eq_ok.mp encoded
  cases encoded
  simp only [Evidence.isText, Bool.and_eq_true] at text
  obtain ⟨⟨protocol, kind⟩, shown⟩ := text
  unfold WireEvidence.unmarshal
  rw [GoString.ofChars_runes protocol, GoString.ofChars_runes kind, GoString.ofChars_runes shown,
    ← Float64.marshal_eq confidence]

theorem evidence_unmarshal_marshal {items : List Evidence} {documents : List WireEvidence}
    (encoded : items.mapM Evidence.marshal = .ok documents) (text : items.all Evidence.isText = true) :
    documents.map WireEvidence.unmarshal = items := by
  have pairs := mapM_eq_ok.mp encoded
  clear encoded
  induction pairs with
  | nil => rfl
  | cons here _ ih =>
    rw [List.all_cons, Bool.and_eq_true] at text
    rw [List.map_cons, Evidence.unmarshal_marshal here text.1, ih text.2]

theorem Asset.unmarshal_marshal {document : WireAsset} (encoded : asset.marshal = .ok document) (text : asset.isText = true) :
    document.unmarshal = asset.wireFields := by
  unfold Asset.marshal at encoded
  obtain ⟨evidence, listed, encoded⟩ := bind_eq_ok.mp encoded
  cases encoded
  simp only [Asset.isText, Bool.and_eq_true] at text
  obtain ⟨⟨⟨⟨⟨⟨⟨assetId, hostname⟩, primaryIp⟩, mac⟩, os⟩, platform⟩, category⟩, evidenceText⟩ := text
  unfold WireAsset.unmarshal Asset.wireFields
  rw [GoString.ofChars_runes assetId, GoString.ofChars_runes hostname, GoString.ofChars_runes primaryIp,
    GoString.ofChars_runes mac, GoString.ofChars_runes os, GoString.ofChars_runes platform, GoString.ofChars_runes category]
  dsimp only
  rw [evidence_unmarshal_marshal listed evidenceText]

theorem assets_unmarshal_marshal {items : List Asset} {documents : List WireAsset}
    (encoded : items.mapM Asset.marshal = .ok documents) (text : items.all Asset.isText = true) :
    documents.map WireAsset.unmarshal = items.map Asset.wireFields := by
  have pairs := mapM_eq_ok.mp encoded
  clear encoded
  induction pairs with
  | nil => rfl
  | cons here _ ih =>
    rw [List.all_cons, Bool.and_eq_true] at text
    rw [List.map_cons, List.map_cons, Asset.unmarshal_marshal here text.1, ih text.2]

theorem Batch.unmarshal_marshal {document : WireBatch} (encoded : b.marshal = .ok document) (text : b.isText = true)
    (whole : b.observedAt.offset % 60 = 0) : document.unmarshal = b.wireFields := by
  unfold Batch.marshal at encoded
  obtain ⟨observedAt, time, encoded⟩ := bind_eq_ok.mp encoded
  obtain ⟨value, confidence, encoded⟩ := bind_eq_ok.mp encoded
  obtain ⟨assets, listed, encoded⟩ := bind_eq_ok.mp encoded
  cases encoded
  simp only [Batch.isText, Bool.and_eq_true] at text
  obtain ⟨⟨⟨⟨⟨⟨⟨⟨⟨schemaVersion, batchId⟩, siteId⟩, sensorId⟩, sensorName⟩, sensorType⟩, sensorVersion⟩, source⟩, state⟩,
    assetsText⟩ := text
  unfold WireBatch.unmarshal Batch.wireFields
  rw [GoString.ofChars_runes schemaVersion, GoString.ofChars_runes batchId, GoString.ofChars_runes siteId,
    GoString.ofChars_runes sensorId, GoString.ofChars_runes sensorName, GoString.ofChars_runes sensorType,
    GoString.ofChars_runes sensorVersion, GoString.ofChars_runes source, GoString.ofChars_runes state,
    GoTime.unmarshal_marshal time whole, ← Float64.marshal_eq confidence]
  dsimp only
  cases held : b.assets with
  | none =>
    rw [held] at listed
    cases listed
    rfl
  | some items =>
    rw [held] at listed assetsText
    obtain ⟨documents, each, listed⟩ := bind_eq_ok.mp listed
    cases listed
    exact congrArg (fun assets => { b with assets := some assets }) (assets_unmarshal_marshal each assetsText)

theorem Asset.validate_wireFields (valid : asset.validate = .ok ()) : asset.wireFields.validate = .ok () := by
  unfold Asset.validate at valid ⊢
  simp only [require_bind_eq_ok] at valid ⊢
  obtain ⟨assetId, hostname, os, platform, category, primaryIp, mac, -, -, few, evidence⟩ := valid
  obtain ⟨done, each, -⟩ := bind_eq_ok.mp evidence
  exact ⟨assetId, hostname, os, platform, category, primaryIp, mac, rfl, rfl, few, bind_eq_ok.mpr ⟨done, each, rfl⟩⟩

theorem validateAssets_wireFields {seen : List GoString} {items : List Asset} (valid : validateAssets seen items = .ok ()) :
    validateAssets seen (items.map Asset.wireFields) = .ok () := by
  induction items generalizing seen with
  | nil => rfl
  | cons asset rest ih =>
    rw [validateAssets] at valid
    obtain ⟨done, here, valid⟩ := bind_eq_ok.mp valid
    obtain ⟨fresh, others⟩ := require_bind_eq_ok.mp valid
    rw [List.map_cons, validateAssets]
    exact bind_eq_ok.mpr ⟨done, Asset.validate_wireFields here, require_bind_eq_ok.mpr ⟨fresh, ih others⟩⟩

theorem Batch.validate_wireFields (valid : b.validate = .ok ()) : b.wireFields.validate = .ok () := by
  unfold Batch.validate at valid ⊢
  simp only [require_bind_eq_ok] at valid ⊢
  obtain ⟨schema, batchId, siteId, sensorId, sensorName, sensorType, sensorVersion, observed, source, state, confidence,
    assets⟩ := valid
  refine ⟨schema, batchId, siteId, sensorId, sensorName, sensorType, sensorVersion, observed, source, state, confidence, ?_⟩
  unfold Batch.wireFields
  cases held : b.assets with
  | none =>
    rw [held] at assets
    cases assets
  | some items =>
    rw [held] at assets
    simp only [Option.map_some, require_bind_eq_ok, List.length_map] at assets ⊢
    exact ⟨assets.1, validateAssets_wireFields assets.2⟩

end

end OpenAssetWatch.Sensor
