import OpenAssetWatch.Sensor.HubEnvelope
import OpenAssetWatch.Sensor.SpoolCapacity

namespace OpenAssetWatch.Sensor

open Library Text Ingestion Component

/-- Python has the time, as its zone writes it without seconds and in UTC: neither lies before the year 1. -/
def GoTime.InPython (t : GoTime) : Prop :=
  0 ≤ t.instant + t.offset * second ∧ t.offset.tdiv 60 * 60 * second ≤ t.instant + t.offset * second

/-- The moment that a written time stands for, in microseconds. -/
def Rfc3339.moment (text : Rfc3339) : Time := text.clock / 1000 + firstMoment - text.zone.getD 0 * 60 * 1_000_000

section Times

variable {t : GoTime} {text : Rfc3339}

theorem marshal_facts (encoded : t.marshal = .ok text) :
    text.clock = t.instant + t.offset * second ∧ text.clock < lastYear ∧ text.zone.getD 0 = t.offset.tdiv 60 ∧
      (t.offset.tdiv 60).natAbs < 24 * 60 := by
  simp only [GoTime.marshal, require_bind_eq_ok] at encoded
  obtain ⟨clock, zone, encoded⟩ := encoded
  simp only [Bool.and_eq_true, decide_eq_true_eq] at clock zone
  rw [← Except.ok.inj encoded]
  refine ⟨rfl, clock.2, ?_, zone⟩
  by_cases utc : t.offset = 0
  · rw [if_pos utc, utc]
    rfl
  · rw [if_neg utc]
    rfl

theorem micros_bounds (clock zone : Int) :
    (0 ≤ clock / 1000 ↔ 0 ≤ clock) ∧ (zone * 60 * 1_000_000 ≤ clock / 1000 ↔ zone * 60 * 1_000_000_000 ≤ clock) := by
  have thousand : clock / 1000 * 1000 + clock % 1000 = clock := Int.ediv_mul_add_emod _ _
  have below : 0 ≤ clock % 1000 := Int.emod_nonneg _ (by norm_num)
  have above : clock % 1000 < 1000 := Int.emod_lt_of_pos _ (by norm_num)
  constructor <;> constructor <;> intro _ <;> omega

theorem written_iff (encoded : t.marshal = .ok text) :
    t.InPython ↔ firstMoment ≤ text.clock / 1000 + firstMoment ∧ firstMoment ≤ text.moment := by
  obtain ⟨clock, -, zone, -⟩ := marshal_facts encoded
  obtain ⟨written, utc⟩ := micros_bounds text.clock (t.offset.tdiv 60)
  unfold GoTime.InPython Rfc3339.moment second
  rw [← second, ← clock, zone]
  constructor
  · rintro ⟨first, second⟩
    have first' : 0 ≤ text.clock / 1000 := written.mpr first
    have second' := utc.mpr second
    constructor <;> linarith
  · rintro ⟨first, second⟩
    have first' : 0 ≤ text.clock / 1000 := by linarith
    constructor
    · exact written.mp first'
    · apply utc.mp
      linarith

theorem written_before (encoded : t.marshal = .ok text) :
    text.clock / 1000 + firstMoment ≤ lastMoment ∧ -86400 < text.zone.getD 0 * 60 ∧ text.zone.getD 0 * 60 < 86400 := by
  obtain ⟨-, early, zone, bounded⟩ := marshal_facts encoded
  have below : text.clock / 1000 < 315_537_897_600_000_000 := by
    apply Int.ediv_lt_of_lt_mul (by norm_num)
    exact early
  have zoneBelow : -1440 < t.offset.tdiv 60 ∧ t.offset.tdiv 60 < 1440 := by omega
  rw [zone]
  unfold firstMoment lastMoment
  refine ⟨?_, by linarith [zoneBelow.1], by linarith [zoneBelow.2]⟩
  have : text.clock / 1000 + 1 ≤ 315_537_897_600_000_000 := below
  linarith

theorem awareTime_iff (encoded : t.marshal = .ok text) {now : Time} (seen : text.moment ≤ now) (last : now ≤ lastMoment) :
    t.InPython ↔ ∃ time, awareTime text = .ok time ∧ time.instant = text.moment ∧ utcTime time = .ok text.moment := by
  obtain ⟨early, east, west⟩ := written_before encoded
  rw [written_iff encoded]
  constructor
  · rintro ⟨first, utc⟩
    refine ⟨⟨text.moment, text.zone.getD 0 * 60⟩, ?_, rfl, ?_⟩
    · unfold awareTime
      rw [require_bind_eq_ok]
      refine ⟨?_, rfl⟩
      simp only [Bool.and_eq_true, decide_eq_true_eq]
      exact ⟨⟨first, early⟩, east, west⟩
    · unfold utcTime
      rw [require_bind_eq_ok]
      refine ⟨?_, rfl⟩
      simp only [Bool.and_eq_true, decide_eq_true_eq]
      exact ⟨utc, seen.trans last⟩
  · rintro ⟨time, aware, instant, utc⟩
    unfold awareTime at aware
    obtain ⟨range, -⟩ := require_bind_eq_ok.mp aware
    unfold utcTime at utc
    obtain ⟨within, -⟩ := require_bind_eq_ok.mp utc
    rw [instant] at within
    simp only [Bool.and_eq_true, decide_eq_true_eq] at range within
    exact ⟨range.1.1, within.1⟩

end Times

/-- A text of a contract between two lengths, which has no white space around it. -/
structure IsField (least most : Nat) (text : String) : Prop where
  long : isLong least most text = true
  bare : contractText text = text

theorem IsField.within {least most low high : Nat} {text : String} (field : IsField least most text) (lower : low ≤ least)
    (higher : most ≤ high) : isLong low high (contractText text) = true := by
  have bounds := field.long
  rw [field.bare]
  unfold isLong at bounds ⊢
  rw [Bool.and_eq_true, decide_eq_true_eq, decide_eq_true_eq] at bounds ⊢
  exact ⟨lower.trans bounds.1, bounds.2.trans higher⟩

theorem contractField_isField {name : String} {least most : Nat} {pattern : List Char → Bool} {text : List Char}
    {field : String} (found : contractField name least most pattern text = .ok field) : IsField least most field := by
  unfold contractField at found
  obtain ⟨bounds, same⟩ := require_bind_eq_ok.mp found
  simp only [Bool.and_eq_true, decide_eq_true_eq] at bounds
  rw [← Except.ok.inj same]
  constructor
  · unfold isLong
    rw [String.length_ofList, Bool.and_eq_true, decide_eq_true_eq, decide_eq_true_eq]
    exact bounds.1
  · unfold contractText
    rw [String.toList_ofList, stripChars_stripChars]

theorem optionalField_isField {name : String} {most : Nat} {text : List Char} {field : Option String}
    (found : optionalField name most text = .ok field) : ∀ value ∈ field, IsField 0 most value := by
  unfold optionalField at found
  split at found
  · cases found
    intro value absent
    cases absent
  · cases stripped : contractField name 0 most anyText text with
    | error error =>
      rw [stripped] at found
      cases found
    | ok value =>
      rw [stripped] at found
      cases found
      rintro value ⟨⟩
      exact contractField_isField stripped

theorem isField_of_solid {least most : Nat} {text : String} {class_ : Char → Bool} (solid : ∀ c, class_ c = true → isWhiteSpace c = false)
    (valid : (isLong least most text && text.toList.all class_) = true) : IsField least most text := by
  rw [Bool.and_eq_true] at valid
  refine ⟨valid.1, ?_⟩
  unfold contractText
  rw [stripChars_none fun c member => solid c (List.all_eq_true.mp valid.2 c member), String.ofList_toList]

/-- What the contract of the hub makes of a batch of a sensor. -/
structure RequestAdmitted (moment : Time) (payload : ObservationBatchRequest) : Prop where
  batchId : IsField 8 160 payload.observationBatchId
  sensorId : IsField 1 160 payload.sensorId
  sensorName : IsField 1 160 payload.sensorName
  sensorVersion : ∀ version ∈ payload.sensorVersion, IsField 0 80 version
  instant : payload.observedAt.instant = moment
  few : payload.assets.length ≤ 500
  assets : ∀ asset ∈ payload.assets, AssetAdmitted asset

section Batch

variable {b : Batch} {document : WireBatch} {now : Time}

theorem validateAssets_each {seen : List GoString} {assets : List Asset} (valid : validateAssets seen assets = .ok ()) :
    ∀ asset ∈ assets, asset.validate = .ok () := by
  induction assets generalizing seen with
  | nil =>
    intro asset absent
    cases absent
  | cons first rest ih =>
    unfold validateAssets at valid
    obtain ⟨_, here, valid⟩ := bind_eq_ok.mp valid
    obtain ⟨-, others⟩ := require_bind_eq_ok.mp valid
    intro asset member
    rcases List.mem_cons.mp member with rfl | later
    · exact here
    · exact ih others asset later

theorem requireTimezone_iff {time : AwareTime} {moment : Time} (seen : moment ≤ now) (utc : utcTime time = .ok moment) :
    requireTimezone now time = .ok () ↔ now + maxFutureSkew ≤ lastMoment := by
  unfold requireTimezone afterSkew
  rw [utc]
  constructor
  · intro passed
    obtain ⟨_, -, passed⟩ := bind_eq_ok.mp passed
    obtain ⟨limit, found, -⟩ := bind_eq_ok.mp passed
    exact of_decide_eq_true (require_bind_eq_ok.mp found).1
  · intro early
    have before : moment ≤ now + maxFutureSkew := seen.trans (le_add_of_nonneg_right (by decide))
    refine bind_eq_ok.mpr ⟨moment, rfl, bind_eq_ok.mpr ⟨now + maxFutureSkew, ?_, ?_⟩⟩
    · exact require_bind_eq_ok.mpr ⟨decide_eq_true early, rfl⟩
    · rw [require_eq_ok]
      exact decide_eq_true before

theorem deliveryState_field {value : GoString}
    (valid : (decide (value = GoString.ofText "live") || decide (value = GoString.ofText "cached-retry")) = true) :
    ∃ state, literalField "delivery_state" deliveryStateNamed value.runes = .ok state := by
  rw [Bool.or_eq_true, decide_eq_true_eq, decide_eq_true_eq] at valid
  rcases valid with rfl | rfl
  · exact ⟨.live, by decide⟩
  · exact ⟨.cachedRetry, by decide⟩

theorem request_of_inPython (valid : b.validate = .ok ()) (encoded : b.marshal = .ok document)
    (seen : document.observedAt.moment ≤ now) (early : now + maxFutureSkew ≤ lastMoment) (written : b.observedAt.InPython) :
    ∃ payload, observationBatchRequest now document = .ok payload ∧ RequestAdmitted document.observedAt.moment payload := by
  simp only [Batch.validate, require_bind_eq_ok] at valid
  obtain ⟨schema, batchId, siteId, sensorId, sensorName, sensorType, sensorVersion, -, source, delivery, confidence, valid⟩ :=
    valid
  unfold Batch.marshal at encoded
  obtain ⟨observedAt, time, encoded⟩ := bind_eq_ok.mp encoded
  obtain ⟨number, finite, encoded⟩ := bind_eq_ok.mp encoded
  obtain ⟨listed, assets_eq, encoded⟩ := bind_eq_ok.mp encoded
  cases encoded
  cases held : b.assets with
  | none =>
    rw [held] at valid
    cases valid
  | some assets =>
    rw [held] at valid assets_eq
    obtain ⟨few, each⟩ := require_bind_eq_ok.mp valid
    have few : assets.length ≤ 500 := of_decide_eq_true few
    obtain ⟨documents, written_assets, listed_eq⟩ : ∃ documents, assets.mapM Asset.marshal = .ok documents ∧
        some documents = listed := by
      obtain ⟨documents, done, same⟩ := bind_eq_ok.mp assets_eq
      exact ⟨documents, done, Except.ok.inj same⟩
    subst listed_eq
    obtain ⟨requests, made, length, admitted⟩ := mapM_good written_assets fun asset member between marshalled =>
      assetRequest_of_valid (validateAssets_each each asset member) marshalled
    obtain ⟨aware, read, instant, utc⟩ := (awareTime_iff time seen ((le_add_of_nonneg_right (by decide)).trans early)).mp written
    have dated : requireTimezone now aware = .ok () := (requireTimezone_iff seen utc).mpr early
    have batchId := contractField_of_isIdentifier "observation_batch_id" isAssetChar_ascii isAssetChar_not_space batchId
    have siteId := contractField_of_isIdentifier "site_id" isSiteChar_ascii isSiteChar_not_space siteId
    have sensorId := contractField_of_isIdentifier "sensor_id" isAssetChar_ascii isAssetChar_not_space sensorId
    have sensorName := contractField_of_validText "sensor_name" sensorName
    obtain ⟨version, sensorVersion⟩ := optionalField_of_valid "sensor_version" sensorVersion
    obtain ⟨state, delivery⟩ := deliveryState_field delivery
    have confidence := (confidence_field "confidence" confidence finite).1
    have written_few : documents.length ≤ 500 := by
      rw [← (mapM_eq_ok.mp written_assets).length_eq]
      exact few
    have skew : afterSkew aware.instant = .ok (aware.instant + maxFutureSkew) := by
      rw [instant]
      exact require_bind_eq_ok.mpr ⟨decide_eq_true ((add_le_add_left seen _).trans early), rfl⟩
    have sensorType : literalField "sensor_type" sensorTypeNamed b.sensorType.runes = .ok .passiveNetworkSensor := by
      rw [of_decide_eq_true sensorType]
      decide
    have source : literalField "observation_source" observationSourceNamed b.observationSource.runes = .ok .passiveNetwork := by
      rw [of_decide_eq_true source]
      decide
    have schema : decide (b.schemaVersion.runes = schemaVersion.toList) = true := by
      rw [of_decide_eq_true schema]
      exact decide_eq_true (GoString.runes_ofChars _)
    refine ⟨_, require_bind_eq_ok.mpr ⟨schema, require_bind_eq_ok.mpr ⟨decide_eq_true written_few, bind_eq_ok.mpr ⟨aware, read,
      bind_eq_ok.mpr ⟨(), dated, bind_eq_ok.mpr ⟨_, batchId, bind_eq_ok.mpr ⟨_, siteId, bind_eq_ok.mpr ⟨_, sensorId,
      bind_eq_ok.mpr ⟨_, sensorName, bind_eq_ok.mpr ⟨_, sensorType, bind_eq_ok.mpr ⟨_, sensorVersion, bind_eq_ok.mpr ⟨_, source,
      bind_eq_ok.mpr ⟨_, delivery, bind_eq_ok.mpr ⟨_, confidence, bind_eq_ok.mpr ⟨_, made, require_bind_eq_ok.mpr ⟨rfl,
      bind_eq_ok.mpr ⟨_, skew, rfl⟩⟩⟩⟩⟩⟩⟩⟩⟩⟩⟩⟩⟩⟩⟩⟩, ?_⟩
    constructor
    · exact contractField_isField batchId
    · exact contractField_isField sensorId
    · exact contractField_isField sensorName
    · exact optionalField_isField sensorVersion
    · exact instant
    · exact length.le.trans few
    · exact admitted

theorem inPython_of_request (encoded : b.marshal = .ok document) (seen : document.observedAt.moment ≤ now)
    (last : now ≤ lastMoment) {payload : ObservationBatchRequest} (received : observationBatchRequest now document = .ok payload) :
    b.observedAt.InPython := by
  unfold Batch.marshal at encoded
  obtain ⟨observedAt, time, encoded⟩ := bind_eq_ok.mp encoded
  obtain ⟨number, finite, encoded⟩ := bind_eq_ok.mp encoded
  obtain ⟨listed, assets_eq, encoded⟩ := bind_eq_ok.mp encoded
  cases encoded
  apply (awareTime_iff time seen last).mpr
  unfold observationBatchRequest at received
  obtain ⟨-, received⟩ := require_bind_eq_ok.mp received
  cases listed with
  | none => cases received
  | some documents =>
    obtain ⟨-, received⟩ := require_bind_eq_ok.mp received
    obtain ⟨aware, read, received⟩ := bind_eq_ok.mp received
    obtain ⟨_, dated, -⟩ := bind_eq_ok.mp received
    have instant : aware.instant = observedAt.moment := by
      unfold awareTime at read
      rw [← Except.ok.inj (require_bind_eq_ok.mp read).2]
      rfl
    refine ⟨aware, read, instant, ?_⟩
    unfold requireTimezone at dated
    obtain ⟨utc, found, -⟩ := bind_eq_ok.mp dated
    rw [← instant]
    unfold utcTime at found ⊢
    exact require_bind_eq_ok.mpr ⟨(require_bind_eq_ok.mp found).1, rfl⟩

end Batch

section Receipt

variable (printed : Json → String) (digest : List String → HexDigest) (batchDigest : ObservationBatchRequest → String)
  {sensor : BoundSensor} {payload : ObservationBatchRequest} {moment now receivedAt : Time}

theorem canonicalAssets_of_admitted {assets : List ObservationAsset} (admitted : ∀ asset ∈ assets, AssetAdmitted asset)
    (start : Nat) :
    ∃ canonical, (assets.zipIdx start).mapM (fun entry => canonicalAsset printed entry.1.dump entry.2) = .ok canonical ∧
      canonical.length = assets.length ∧ ∀ asset ∈ canonical, asset.components = [] ∧ asset.evidence.length ≤ 32 := by
  induction assets generalizing start with
  | nil => exact ⟨[], rfl, rfl, fun asset absent => absurd absent List.not_mem_nil⟩
  | cons first rest ih =>
    obtain ⟨made, made_eq, components, evidence⟩ : ∃ made, canonicalAsset printed first.dump start = .ok made ∧
        made.components = [] ∧ made.evidence.length ≤ 32 :=
      canonicalAsset_of_admitted (admitted first List.mem_cons_self) start
    obtain ⟨others, others_eq, length, each⟩ := ih (fun asset member => admitted asset (List.mem_cons_of_mem _ member)) (start + 1)
    refine ⟨made :: others, ?_, by rw [List.length_cons, List.length_cons, length], ?_⟩
    · rw [List.zipIdx_cons, List.mapM_cons]
      exact bind_eq_ok.mpr ⟨made, made_eq, bind_eq_ok.mpr ⟨others, others_eq, rfl⟩⟩
    · intro asset member
      rcases List.mem_cons.mp member with rfl | later
      · exact ⟨components, evidence⟩
      · exact each asset later

theorem sum_le_of_each {α : Type} {measure : α → Nat} {bound : Nat} {items : List α} (each : ∀ item ∈ items, measure item ≤ bound) :
    (items.map measure).sum ≤ items.length * bound := by
  have bounded := List.sum_le_card_nsmul (items.map measure) bound fun value member => by
    obtain ⟨item, listed, same⟩ := List.mem_map.mp member
    rw [← same]
    exact each item listed
  rwa [List.length_map, smul_eq_mul] at bounded

theorem provenance_within (admitted : RequestAdmitted moment payload) (assets : List CanonicalAsset) :
    let provenance := (sensorArguments digest payload (.boundSensor sensor.siteId sensor.sensorId sensor.credentialId) assets
      receivedAt).stripped.provenance
    provenance.length ≤ 16 ∧ provenance.all (fun entry => isLong 1 240 entry.2) = true := by
  have typed : ∀ sensorType : SensorType, isLong 1 240 (contractText sensorType.text) = true := by
    intro sensorType
    cases sensorType <;> decide
  have claimed : isLong 1 240 (contractText payload.sensorId) = true := admitted.sensorId.within le_rfl (by norm_num)
  have named : isLong 1 240 (contractText payload.sensorName) = true := admitted.sensorName.within le_rfl (by norm_num)
  have typed := typed payload.sensorType
  intro provenance
  unfold provenance sensorArguments EnvelopeArguments.stripped
  dsimp only
  cases version_eq : payload.sensorVersion.filter (· ≠ "") with
  | none =>
    simp only [Option.map_none, Option.toList_none, List.append_nil, List.map_cons, List.map_nil, List.length_cons,
      List.length_nil, List.all_cons, List.all_nil, claimed, named, typed]
    decide
  | some version =>
    obtain ⟨held, nonempty⟩ := Option.filter_eq_some_iff.mp version_eq
    have field := admitted.sensorVersion version held
    have versioned : isLong 1 240 (contractText version) = true := by
      have bounds := field.long
      have positive : 0 < version.length := by
        apply Nat.pos_of_ne_zero
        intro empty
        exact of_decide_eq_true nonempty (String.length_eq_zero_iff.mp empty)
      rw [field.bare]
      unfold isLong at bounds ⊢
      rw [Bool.and_eq_true, decide_eq_true_eq, decide_eq_true_eq] at bounds ⊢
      exact ⟨positive, bounds.2.trans (by norm_num)⟩
    simp only [Option.map_some, Option.toList_some, List.map_cons, List.map_nil, List.cons_append, List.nil_append,
      List.length_cons, List.length_nil, List.all_cons, List.all_nil, claimed, named, typed, versioned]
    decide

theorem fieldsValid_of {a : EnvelopeArguments} (routeName : isLong 1 96 a.routeName = true) (site : isLong 1 128 a.siteId = true)
    (identity : isLong 1 160 a.sourceIdentity = true) (key : isLong 1 200 a.idempotencyKey = true)
    (identifier : ∀ text ∈ a.originalIdentifier, isLong 0 160 text = true) (few : a.assets.length ≤ 1000)
    (limited : a.limitations.length ≤ 64) (limitations : ∀ text ∈ a.limitations, isLong 1 240 text = true)
    (entries : a.provenance.length ≤ 16) (provenance : ∀ entry ∈ a.provenance, isLong 1 240 entry.2 = true)
    (credential : ∀ text ∈ a.credentialId, isLong 0 80 text = true) (bound : ∀ text ∈ a.boundIdentityId, isLong 0 160 text = true) :
    a.fieldsValid = true := by
  simp only [EnvelopeArguments.fieldsValid, Bool.and_eq_true, decide_eq_true_eq, List.all_eq_true, Option.all_eq_true]
  exact ⟨⟨⟨⟨⟨⟨⟨⟨⟨⟨⟨routeName, site⟩, identity⟩, key⟩, identifier⟩, few⟩, limited⟩, limitations⟩, entries⟩, provenance⟩, credential⟩,
    bound⟩

theorem validatedEnvelope_of (sourceId collectionId payloadDigest : String) {a : EnvelopeArguments} (valid : a.fieldsValid = true)
    (early : a.ingestedAt + maxFutureSkew ≤ lastMoment) (components : (a.assets.map (·.components.length)).sum ≤ 32000)
    (evidence : (a.assets.map (·.evidence.length)).sum ≤ 64000) (consistent : a.Consistent)
    (notAhead : a.observedAt ≤ a.ingestedAt + maxFutureSkew) :
    ∃ envelope, validatedEnvelope sourceId collectionId payloadDigest a = .ok envelope := by
  unfold validatedEnvelope
  rw [dif_pos consistent, dif_pos notAhead, valid, decide_eq_true early, decide_eq_true components, decide_eq_true evidence]
  exact ⟨_, rfl⟩

/-- The arguments of the envelope that the hub makes of an admitted request. -/
abbrev receivedArguments (sensor : BoundSensor) (payload : ObservationBatchRequest) (assets : List CanonicalAsset)
    (receivedAt : Time) : EnvelopeArguments :=
  (sensorArguments digest payload (.boundSensor sensor.siteId sensor.sensorId sensor.credentialId) assets receivedAt).stripped

theorem receivedArguments_valid (admitted : RequestAdmitted moment payload) {assets : List CanonicalAsset} (few : assets.length ≤ 500) :
    (receivedArguments digest sensor payload assets receivedAt).fieldsValid = true := by
  have site := (isField_of_solid isSiteChar_not_space sensor.site).within le_rfl le_rfl
  have identity := (isField_of_solid isAssetChar_not_space sensor.sensor).within le_rfl le_rfl
  have bound := (isField_of_solid isAssetChar_not_space sensor.sensor).within (Nat.zero_le _) le_rfl
  have credential := (isField_of_solid isAssetChar_not_space sensor.credential).within (Nat.zero_le _) le_rfl
  have key : isLong 1 200 (contractText payload.observationBatchId) = true := admitted.batchId.within (by norm_num) (by norm_num)
  have identifier := admitted.batchId.within (Nat.zero_le _) le_rfl
  obtain ⟨entries, lengths⟩ : (receivedArguments digest sensor payload assets receivedAt).provenance.length ≤ 16 ∧
      (receivedArguments digest sensor payload assets receivedAt).provenance.all (fun entry => isLong 1 240 entry.2) = true :=
    provenance_within digest admitted assets
  have routed : isLong 1 96 "/api/v1/observations/batches" = true := by decide
  apply fieldsValid_of
  · exact routed
  · exact site
  · exact identity
  · exact key
  · rintro _ ⟨⟩
    exact identifier
  · exact few.trans (by norm_num)
  · exact Nat.zero_le _
  · intro limitation absent
    exact absurd absent List.not_mem_nil
  · exact entries
  · exact fun entry => List.all_eq_true.mp lengths entry
  · rintro _ ⟨⟩
    exact credential
  · rintro _ ⟨⟩
    exact bound

theorem ne_empty_of_isLong {least most : Nat} {text : String} (positive : 1 ≤ least) (long : isLong least most text = true) :
    text ≠ "" := by
  rintro rfl
  unfold isLong at long
  rw [Bool.and_eq_true, decide_eq_true_eq] at long
  exact absurd (positive.trans long.1) (by decide)

theorem receivedArguments_consistent (assets : List CanonicalAsset) :
    (receivedArguments digest sensor payload assets receivedAt).Consistent := by
  have site := isField_of_solid isSiteChar_not_space sensor.site
  have identity := isField_of_solid isAssetChar_not_space sensor.sensor
  have sensorBound : isLong 1 80 sensor.credentialId = true := (Bool.and_eq_true _ _ ▸ sensor.credential).1
  have credential := isField_of_solid isAssetChar_not_space sensor.credential
  have siteChars : sensor.siteId.toList.all isSiteChar = true := (Bool.and_eq_true _ _ ▸ sensor.site).2
  constructor
  · show (contractText sensor.siteId).toList.all isSiteChar = true
    rw [site.bare]
    exact siteChars
  · rfl
  · rfl
  · rfl
  · rintro adapter ⟨⟩
    rfl
  · exact fun _ => rfl
  · intro _
    constructor
    · show decide (contractText sensor.credentialId ≠ "") = true
      rw [credential.bare]
      exact decide_eq_true (ne_empty_of_isLong le_rfl credential.long)
    · show decide (contractText sensor.sensorId ≠ "") = true
      rw [identity.bare]
      exact decide_eq_true (ne_empty_of_isLong le_rfl identity.long)

theorem sensorEnvelope_iff (admitted : RequestAdmitted moment payload) (seen : moment ≤ receivedAt) :
    (∃ envelope, sensorEnvelope printed digest batchDigest payload
      (.boundSensor sensor.siteId sensor.sensorId sensor.credentialId) receivedAt = .ok envelope) ↔
      receivedAt + maxFutureSkew ≤ lastMoment := by
  obtain ⟨canonical, made, length, each⟩ := canonicalAssets_of_admitted printed admitted.assets 0
  have few : canonical.length ≤ 500 := length.le.trans admitted.few
  have valid : (receivedArguments digest sensor payload canonical receivedAt).fieldsValid = true :=
    receivedArguments_valid digest admitted few
  have consistent : (receivedArguments digest sensor payload canonical receivedAt).Consistent :=
    receivedArguments_consistent digest canonical
  have components : (canonical.map (·.components.length)).sum ≤ 32000 := by
    have none_reported : (canonical.map (·.components.length)).sum ≤ canonical.length * 0 :=
      sum_le_of_each fun asset member => by rw [(each asset member).1]; exact le_rfl
    exact none_reported.trans (by norm_num)
  have evidence : (canonical.map (·.evidence.length)).sum ≤ 64000 := by
    have bounded : (canonical.map (·.evidence.length)).sum ≤ canonical.length * 32 :=
      sum_le_of_each fun asset member => (each asset member).2
    omega
  have observed : (receivedArguments digest sensor payload canonical receivedAt).observedAt = moment := admitted.instant
  have notAhead : (receivedArguments digest sensor payload canonical receivedAt).observedAt ≤ receivedAt + maxFutureSkew := by
    rw [observed]
    exact seen.trans (le_add_of_nonneg_right (by decide))
  unfold sensorEnvelope
  constructor
  · rintro ⟨envelope, found⟩
    obtain ⟨assets, -, found⟩ := bind_eq_ok.mp found
    unfold envelopeOf validatedEnvelope at found
    obtain ⟨-, found⟩ := require_bind_eq_ok.mp found
    exact of_decide_eq_true (require_bind_eq_ok.mp found).1
  · intro early
    obtain ⟨envelope, done⟩ := validatedEnvelope_of
      (sourceIdOf digest (sensorArguments digest payload (.boundSensor sensor.siteId sensor.sensorId sensor.credentialId)
        canonical receivedAt))
      (collectionIdOf digest (sensorArguments digest payload (.boundSensor sensor.siteId sensor.sensorId sensor.credentialId)
        canonical receivedAt)) (batchDigest payload) valid early components evidence consistent notAhead
    exact ⟨envelope, bind_eq_ok.mpr ⟨canonical, made, done⟩⟩

end Receipt

section Sample

def sampleBound : BoundSensor := ⟨"site", "sensor", "credential", by decide, by decide, by decide⟩

/-- The hub's clock after the sample has been taken. -/
def sampleReceipt : Time := 1_000_000_000_000_000

/-- A digest that no check looks into. -/
def sampleHubDigest (_ : List String) : HexDigest := ⟨"00000000000000000000000000000000", isHexText_zeros⟩

def sampleDocument : WireBatch where
  schemaVersion := schemaVersion.toList
  observationBatchId := "oaw:first-batch".toList
  siteId := "site-demo".toList
  sensorId := "sensor-demo".toList
  sensorName := "Demo Passive Sensor".toList
  sensorType := "passive-network-sensor".toList
  sensorVersion := []
  observedAt := ⟨63_000_000_000 * second, none⟩
  observationSource := "passive-network".toList
  deliveryState := "live".toList
  confidence := 1
  assets := some []

/-- A sensor whose clock shows the last second of the year 0. -/
def ancientBatch : Batch := { Directory.sampleBatch with observedAt := ⟨-second, 0⟩ }

end Sample

end OpenAssetWatch.Sensor
