import OpenAssetWatch.Ingestion.EndpointTrace
import OpenAssetWatch.Ingestion.Noninterference

namespace OpenAssetWatch.Ingestion

open Library Text Component

/-- `persistence_payload` with what it says of the envelope as a whole. -/
structure PersistedPayload extends PersistencePayload where
  siteId : String
  inventoryMode : InventoryMode
  ingestedAt : Time
  sourceAuthenticated : Bool
  sourceAuthority : SourceAuthority
  collectionLimitations : List String
  provenance : List (String × String)

def AdaptedEnvelope.persisted (envelope : AdaptedEnvelope) : PersistedPayload :=
  { envelope.persistencePayload with
    siteId := envelope.siteId
    inventoryMode := envelope.inventoryMode
    ingestedAt := envelope.ingestedAt
    sourceAuthenticated := envelope.sourceAuthenticated
    sourceAuthority := envelope.sourceAuthority
    collectionLimitations := envelope.collectionLimitations
    provenance := envelope.provenance }

/-- Where a persisted payload comes from, what it is trusted with, and whether it claims to be complete. -/
structure Standing where
  siteId : String
  agentId : String
  sensorId : String
  sensorType : String
  observationSource : String
  sourceAuthenticated : Bool
  sourceAuthority : SourceAuthority
  confidence : ℚ
  inventoryComplete : Bool
  ingestedAt : Time
deriving DecidableEq

def PersistedPayload.standing (payload : PersistedPayload) : Standing where
  siteId := payload.siteId
  agentId := payload.agentId
  sensorId := payload.sensorId
  sensorType := payload.sensorType
  observationSource := payload.observationSource
  sourceAuthenticated := payload.sourceAuthenticated
  sourceAuthority := payload.sourceAuthority
  confidence := payload.confidence
  inventoryComplete := payload.componentInventoryComplete
  ingestedAt := payload.ingestedAt

section

variable (digest : List String → HexDigest)

/-- The standing of a source of a site. -/
def standingOf (authority : SourceAuthority) (adapter : AdapterType) (authentication : AuthenticationClass)
    (siteId identity : String) (inventoryComplete : Bool) (receivedAt : Time) : Standing where
  siteId := contractText siteId
  agentId := "src_" ++ (digest [siteId, adapter.text, authentication.text, identity]).text
  sensorId := "src_" ++ (digest [siteId, adapter.text, authentication.text, identity]).text
  sensorType := sensorType authority
  observationSource := observationSource adapter
  sourceAuthenticated := authority.isAuthenticated
  sourceAuthority := authority
  confidence := payloadConfidence authority
  inventoryComplete
  ingestedAt := receivedAt

/-- A record says who sent it and when as the server does, and names no authority outside its components. -/
structure RecordOwned (sourceId : String) (observedAt : Time) (record : List (String × Json)) : Prop where
  source : record.lookup "source_agent_id" = some (.string sourceId)
  observed : record.lookup "observed_at" = some (.time observedAt)
  keys : ∀ entry ∈ record, isAuthorityField entry.1 = false
  values : ∀ entry ∈ record, entry.1 ≠ "components" → noAuthority entry.2 = true

/-- Every record of the assets of an envelope is. -/
def AdaptedEnvelope.RecordsOwned (envelope : AdaptedEnvelope) : Prop :=
  ∀ record ∈ envelope.persisted.assets, RecordOwned envelope.sourceId envelope.observedAt record

variable {digest}

section Records

theorem mem_merge {old new : List (String × Json)} {entry : String × Json} (member : entry ∈ merge old new) :
    entry ∈ new ∨ entry ∈ old := by
  rcases List.mem_append.mp member with here | kept
  · exact .inl here
  · exact .inr (List.mem_filter.mp kept).1

theorem entriesNoAuthority_mem {entries : List (String × Json)} (clean : entriesNoAuthority entries = true) :
    ∀ entry ∈ entries, isAuthorityField entry.1 = false ∧ noAuthority entry.2 = true := by
  induction entries with
  | nil =>
    intro entry member
    cases member
  | cons first rest ih =>
    unfold entriesNoAuthority at clean
    simp only [Bool.and_eq_true, Bool.not_eq_true'] at clean
    intro entry member
    rcases List.mem_cons.mp member with rfl | later
    · exact clean.1
    · exact ih clean.2 entry later

theorem itemsNoAuthority_of {items : List Json} (clean : ∀ item ∈ items, noAuthority item = true) :
    itemsNoAuthority items = true := by
  induction items with
  | nil =>
    unfold itemsNoAuthority
    rfl
  | cons item rest ih =>
    unfold itemsNoAuthority
    rw [clean item List.mem_cons_self, ih fun item member => clean item (List.mem_cons_of_mem _ member)]
    rfl

theorem noAuthority_evidence (evidence : List CanonicalEvidence) :
    noAuthority (.array (evidence.map (·.dump))) = true := by
  unfold noAuthority
  apply itemsNoAuthority_of
  intro item member
  obtain ⟨evidence, -, rfl⟩ := List.mem_map.mp member
  rfl

theorem noAuthority_ofText (text : Option String) : noAuthority (.ofText text) = true := by
  cases text <;> rfl

theorem fields_plain (asset : CanonicalAsset) :
    ∀ entry ∈ asset.fields, isAuthorityField entry.1 = false ∧ (entry.1 ≠ "components" → noAuthority entry.2 = true) := by
  have keys : ["asset_id", "hostname", "primary_ip", "mac", "os", "platform", "category", "evidence", "components",
      "component_inventory_complete"].all (fun key => !isAuthorityField key) = true := observationKeys_plain
  simp only [List.all_cons, Bool.and_eq_true, Bool.not_eq_true'] at keys
  intro entry member
  simp only [CanonicalAsset.fields, List.mem_cons, List.not_mem_nil, or_false] at member
  rcases member with rfl | rfl | rfl | rfl | rfl | rfl | rfl | rfl | rfl | rfl
  · exact ⟨keys.1, fun _ => rfl⟩
  · exact ⟨keys.2.1, fun _ => noAuthority_ofText _⟩
  · exact ⟨keys.2.2.1, fun _ => noAuthority_ofText _⟩
  · exact ⟨keys.2.2.2.1, fun _ => noAuthority_ofText _⟩
  · exact ⟨keys.2.2.2.2.1, fun _ => noAuthority_ofText _⟩
  · exact ⟨keys.2.2.2.2.2.1, fun _ => noAuthority_ofText _⟩
  · exact ⟨keys.2.2.2.2.2.2.1, fun _ => noAuthority_ofText _⟩
  · exact ⟨keys.2.2.2.2.2.2.2.1, fun _ => noAuthority_evidence _⟩
  · exact ⟨keys.2.2.2.2.2.2.2.2.1, fun other => absurd rfl other⟩
  · exact ⟨keys.2.2.2.2.2.2.2.2.2.1, fun _ => rfl⟩

theorem added_plain : ["source_agent_id", "observed_at"].all (fun key => !isAuthorityField key) = true := by
  decide

theorem recordOwned (asset : CanonicalAsset) (clean : entriesNoAuthority asset.metadata = true) (sourceId : String)
    (observedAt : Time) :
    RecordOwned sourceId observedAt (merge (merge asset.metadata asset.fields)
      [("source_agent_id", .string sourceId), ("observed_at", .time observedAt)]) := by
  have added := added_plain
  simp only [List.all_cons, Bool.and_eq_true, Bool.not_eq_true'] at added
  have each : ∀ entry ∈ merge (merge asset.metadata asset.fields)
      [("source_agent_id", .string sourceId), ("observed_at", .time observedAt)],
      isAuthorityField entry.1 = false ∧ (entry.1 ≠ "components" → noAuthority entry.2 = true) := by
    intro entry member
    rcases mem_merge member with new | old
    · simp only [List.mem_cons, List.not_mem_nil, or_false] at new
      rcases new with rfl | rfl
      · exact ⟨added.1, fun _ => rfl⟩
      · exact ⟨added.2.1, fun _ => rfl⟩
    · rcases mem_merge old with field | kept
      · exact fields_plain asset entry field
      · obtain ⟨key, value⟩ := entriesNoAuthority_mem clean entry kept
        exact ⟨key, fun _ => value⟩
  exact ⟨rfl, rfl, fun entry member => (each entry member).1, fun entry member => (each entry member).2⟩

variable {printed : Json → String}

theorem boundedJson_clean {value : Json} {entries : List (String × Json)} (bounded : boundedJson value = .ok (.object entries)) :
    entriesNoAuthority entries = true := by
  have clean := noAuthority_withoutAuthority value
  rw [← (boundedJson_eq_ok.mp bounded).2.2] at clean
  unfold noAuthority at clean
  exact clean

theorem assetFromMapping_clean {value : Json} {index : Nat} {asset : CanonicalAsset}
    (found : assetFromMapping printed value index = .ok asset) : entriesNoAuthority asset.metadata = true := by
  unfold assetFromMapping at found
  obtain ⟨safe, bounded, found⟩ := bind_eq_ok.mp found
  obtain ⟨-, found⟩ := require_bind_eq_ok.mp found
  obtain ⟨components, -, found⟩ := bind_eq_ok.mp found
  rw [← Except.ok.inj found]
  cases safe with
  | object entries => exact boundedJson_clean bounded
  | array items => rfl
  | null => rfl
  | bool value => rfl
  | number value => rfl
  | string text => rfl
  | time value => rfl

theorem canonicalAsset_clean {value : Json} {index : Nat} {asset : CanonicalAsset}
    (found : canonicalAsset printed value index = .ok asset) : entriesNoAuthority asset.metadata = true := by
  unfold canonicalAsset at found
  obtain ⟨made, -, found⟩ := bind_eq_ok.mp found
  obtain ⟨-, found⟩ := require_bind_eq_ok.mp found
  obtain ⟨metadata, bounded, found⟩ := bind_eq_ok.mp found
  rw [← Except.ok.inj found]
  cases metadata with
  | object entries => exact boundedJson_clean bounded
  | array items => rfl
  | null => rfl
  | bool value => rfl
  | number value => rfl
  | string text => rfl
  | time value => rfl

end Records

variable {printed : Json → String} {batchDigest : ObservationBatchRequest → String} {jsonDigest : Json → String}
  {fromIsoFormat : String → Option (Option Time)} {payloadDigest : EndpointInventoryRequest → String}
  {receivedAt : Time} {envelope : AdaptedEnvelope}

theorem standing_envelopeOf {submission : String} {a : EnvelopeArguments} (found : envelopeOf digest submission a = .ok envelope)
    (mode : a.inventoryMode ≠ .complete) :
    envelope.persisted.standing = standingOf digest a.sourceAuthority a.adapterType a.authenticationClass a.siteId
      a.sourceIdentity false a.ingestedAt ∧ envelope.assets = a.assets := by
  simp only [envelopeOf, validatedEnvelope, require_bind_eq_ok] at found
  obtain ⟨-, -, -, -, found⟩ := found
  by_cases consistent : a.stripped.Consistent
  · rw [dif_pos consistent] at found
    by_cases notAhead : a.stripped.observedAt ≤ a.stripped.ingestedAt + maxFutureSkew
    · rw [dif_pos notAhead] at found
      rw [← Except.ok.inj found]
      refine ⟨?_, rfl⟩
      have partly : (decide (a.inventoryMode = .complete) && ([] : List CanonicalSoftwareSource).isEmpty) = false := by
        rw [decide_eq_false mode]
        rfl
      show Standing.mk _ _ _ _ _ _ _ _ (decide (a.inventoryMode = .complete) && ([] : List CanonicalSoftwareSource).isEmpty) _ = _
      rw [partly]
      rfl
    · rw [dif_neg notAhead] at found
      cases found
  · rw [dif_neg consistent] at found
    cases found

theorem recordsOwned_of_clean (clean : ∀ asset ∈ envelope.assets, entriesNoAuthority asset.metadata = true) :
    envelope.RecordsOwned := by
  intro record member
  obtain ⟨asset, listed, rfl⟩ := List.mem_map.mp member
  exact recordOwned asset (clean asset listed) _ _

theorem clean_of_mapM {α : Type} {f : α → Except EnvelopeError CanonicalAsset} {items : List α} {assets : List CanonicalAsset}
    (mapped : items.mapM f = .ok assets) (each : ∀ item asset, f item = .ok asset → entriesNoAuthority asset.metadata = true) :
    ∀ asset ∈ assets, entriesNoAuthority asset.metadata = true := by
  intro asset member
  obtain ⟨item, -, made⟩ := exists_left_of_forall₂ (mapM_eq_ok.mp mapped) member
  exact each item asset made

theorem sensorEnvelope_standing {payload : ObservationBatchRequest} {siteId sensorId credentialId : String}
    (found : sensorEnvelope printed digest batchDigest payload (.boundSensor siteId sensorId credentialId) receivedAt =
      .ok envelope) :
    envelope.persisted.standing = standingOf digest .authenticatedPassiveSensor .passiveSensor .boundCredential siteId sensorId
      false receivedAt ∧ envelope.RecordsOwned := by
  unfold sensorEnvelope at found
  obtain ⟨assets, mapped, found⟩ := bind_eq_ok.mp found
  obtain ⟨standing, listed⟩ := standing_envelopeOf found InventoryMode.noConfusion
  refine ⟨standing, recordsOwned_of_clean ?_⟩
  rw [listed]
  apply clean_of_mapM mapped
  rintro ⟨asset, index⟩ made here
  exact canonicalAsset_clean here

theorem developmentEnvelope_standing {payload : ObservationBatchRequest}
    (found : sensorEnvelope printed digest batchDigest payload .developmentShared receivedAt = .ok envelope) :
    envelope.persisted.standing = standingOf digest .untrustedTransitional .passiveSensor .developmentShared payload.siteId
      ("transitional_" ++ (digest [payload.siteId, payload.sensorId]).text) false receivedAt ∧ envelope.RecordsOwned := by
  unfold sensorEnvelope at found
  obtain ⟨assets, mapped, found⟩ := bind_eq_ok.mp found
  obtain ⟨standing, listed⟩ := standing_envelopeOf found InventoryMode.noConfusion
  refine ⟨standing, recordsOwned_of_clean ?_⟩
  rw [listed]
  apply clean_of_mapM mapped
  rintro ⟨asset, index⟩ made here
  exact canonicalAsset_clean here

theorem transitionalEnvelope_standing {payload : Json}
    (found : transitionalEnvelope printed digest jsonDigest fromIsoFormat payload receivedAt = .ok envelope) :
    (∃ siteId, shortText printed 128 ((withoutAuthority payload).get "site_id") = some siteId ∧
      envelope.persisted.standing = standingOf digest .untrustedTransitional .transitionalLocal .unauthenticated siteId
        ("transitional_" ++ (digest [siteId]).text) false receivedAt) ∧ envelope.RecordsOwned := by
  unfold transitionalEnvelope at found
  obtain ⟨safe, bounded, found⟩ := bind_eq_ok.mp found
  obtain ⟨-, found⟩ := require_bind_eq_ok.mp found
  split at found
  · rename_i siteId named
    obtain ⟨-, found⟩ := require_bind_eq_ok.mp found
    obtain ⟨assets, mapped, found⟩ := bind_eq_ok.mp found
    obtain ⟨standing, listed⟩ := standing_envelopeOf found InventoryMode.noConfusion
    refine ⟨⟨siteId, ?_, standing⟩, recordsOwned_of_clean ?_⟩
    · rw [← (boundedJson_eq_ok.mp bounded).2.2]
      exact (Option.filter_eq_some_iff.mp named).1
    · rw [listed]
      apply clean_of_mapM mapped
      rintro ⟨item, index⟩ made here
      exact canonicalAsset_clean here
  · cases found

theorem legacyCollectorEnvelope_standing {payload : CollectorInventoryRequest} {authentication : AuthenticationClass}
    (found : legacyCollectorEnvelope printed digest jsonDigest payload authentication receivedAt = .ok envelope) :
    (∃ siteId identity, envelope.persisted.standing = standingOf digest .legacyCollector .pythonCollector authentication siteId
      ("legacy_" ++ (digest [identity]).text) false receivedAt ∧
      identity = (collectorNames printed (withoutAuthority payload.known)).identityClaim) ∧ envelope.RecordsOwned := by
  unfold legacyCollectorEnvelope at found
  obtain ⟨safe, bounded, found⟩ := bind_eq_ok.mp found
  obtain ⟨-, found⟩ := require_bind_eq_ok.mp found
  obtain ⟨assets, mapped, found⟩ := bind_eq_ok.mp found
  obtain ⟨submission, -, found⟩ := bind_eq_ok.mp found
  obtain ⟨standing, listed⟩ := standing_envelopeOf found InventoryMode.noConfusion
  refine ⟨⟨_, _, standing, ?_⟩, recordsOwned_of_clean ?_⟩
  · rw [← (boundedJson_eq_ok.mp bounded).2.2]
  · rw [listed]
    apply clean_of_mapM mapped
    rintro ⟨item, index⟩ made here
    exact canonicalAsset_clean here

theorem client_complete (asset : EndpointAsset) (inventoryComplete : Bool) :
    (asset.client inventoryComplete).get "component_inventory_complete" = .bool inventoryComplete := by
  unfold EndpointAsset.client
  rw [Json.get_object, lookup_present (by simp)]
  rfl

theorem assetFromMapping_complete {asset : EndpointAsset} {inventoryComplete : Bool} {index : Nat} {canonical : CanonicalAsset}
    (found : assetFromMapping printed (asset.client inventoryComplete) index = .ok canonical) :
    canonical.componentInventoryComplete = inventoryComplete := by
  unfold assetFromMapping at found
  obtain ⟨safe, bounded, found⟩ := bind_eq_ok.mp found
  obtain ⟨-, found⟩ := require_bind_eq_ok.mp found
  obtain ⟨components, -, found⟩ := bind_eq_ok.mp found
  have safe_eq := (boundedJson_eq_ok.mp bounded).2.2
  rw [client_withoutAuthority] at safe_eq
  rw [← Except.ok.inj found]
  show (safe.get "component_inventory_complete").isTruthy = inventoryComplete
  rw [safe_eq, client_complete]
  rfl

theorem adaptedEndpoint_standing {inventory : AdmittedInventory} {claims : EndpointClaims} {context : AgentContext}
    {deploymentId : String}
    (found : adaptedEndpoint printed digest payloadDigest inventory claims context deploymentId = .ok envelope) :
    envelope.persisted.standing = { standingOf digest .authenticatedEndpoint .endpointAgent .boundCredential context.siteId
      context.agentId (inventory.isComplete && inventory.softwareSources.isEmpty) inventory.receivedAt with
        siteId := context.siteId } ∧ envelope.RecordsOwned ∧
    ∀ asset ∈ envelope.assets, asset.componentInventoryComplete =
      (inventory.isComplete && inventory.softwareSources.isEmpty) := by
  unfold adaptedEndpoint at found
  obtain ⟨canonical, made, found⟩ := bind_eq_ok.mp found
  unfold endpointEnvelope at made
  obtain ⟨assets, mapped, made⟩ := bind_eq_ok.mp made
  by_cases site : context.siteId.toList.all isSiteChar = true
  · rw [dif_pos site] at made
    by_cases notAhead : inventory.observedAt ≤ inventory.receivedAt + maxFutureSkew
    · rw [dif_pos notAhead] at made
      rw [← Except.ok.inj found, ← Except.ok.inj made]
      refine ⟨?_, recordsOwned_of_clean ?_, ?_⟩
      · have sources : (inventory.softwareSources.map canonicalSource).isEmpty = inventory.softwareSources.isEmpty :=
          List.isEmpty_map
        have mode : decide ((if inventory.isComplete then InventoryMode.complete else .partially) = .complete) =
            inventory.isComplete := by
          cases inventory.isComplete <;> rfl
        show Standing.mk _ _ _ _ _ _ _ _
          (decide ((if inventory.isComplete then InventoryMode.complete else .partially) = .complete) &&
            (inventory.softwareSources.map canonicalSource).isEmpty) _ = _
        rw [mode, sources]
        rfl
      · apply clean_of_mapM mapped
        rintro ⟨asset, index⟩ result here
        exact assetFromMapping_clean here
      · intro asset member
        obtain ⟨⟨original, index⟩, -, here⟩ := exists_left_of_forall₂ (mapM_eq_ok.mp mapped) member
        exact assetFromMapping_complete here
    · rw [dif_neg notAhead] at made
      cases made
  · rw [dif_neg site] at made
    cases made

variable (printed digest batchDigest jsonDigest fromIsoFormat payloadDigest)

/-- What fields that name an authority, and what a source says of its assets, can do. -/
structure Noninterference : Prop where
  bounded : ∀ value result, boundedJson value = .ok result → noAuthority result = true ∧ boundedJson result = .ok result ∧
    ∀ path, OutsideAuthority path → locate result path = (locate value path).map withoutAuthority
  sensor : ∀ (payload payload' : ObservationBatchRequest) context receivedAt envelope envelope',
    payload.withoutAuthority = payload'.withoutAuthority →
    sensorEnvelope printed digest batchDigest payload context receivedAt = .ok envelope →
    sensorEnvelope printed digest batchDigest payload' context receivedAt = .ok envelope' →
    envelope.withoutDigest = envelope'.withoutDigest
  endpoint : ∀ (inventory inventory' : AdmittedInventory) claims context deploymentId envelope envelope',
    inventory.toEndpointInventoryRequest.withoutAuthority = inventory'.toEndpointInventoryRequest.withoutAuthority →
    inventory.receivedAt = inventory'.receivedAt →
    adaptedEndpoint printed digest payloadDigest inventory claims context deploymentId = .ok envelope →
    adaptedEndpoint printed digest payloadDigest inventory' claims context deploymentId = .ok envelope' →
    envelope.withoutDigest = envelope'.withoutDigest
  transitional : ∀ payload payload' receivedAt envelope envelope', withoutAuthority payload = withoutAuthority payload' →
    transitionalEnvelope printed digest jsonDigest fromIsoFormat payload receivedAt = .ok envelope →
    transitionalEnvelope printed digest jsonDigest fromIsoFormat payload' receivedAt = .ok envelope' → envelope = envelope'
  legacy : ∀ (payload payload' : CollectorInventoryRequest) authentication receivedAt envelope envelope',
    entriesWithoutAuthority payload.fields = entriesWithoutAuthority payload'.fields →
    payload.collectedAt = payload'.collectedAt →
    legacyCollectorEnvelope printed digest jsonDigest payload authentication receivedAt = .ok envelope →
    legacyCollectorEnvelope printed digest jsonDigest payload' authentication receivedAt = .ok envelope' →
    envelope = envelope'
  endpointStanding : ∀ (inventory : AdmittedInventory) claims context deploymentId envelope,
    adaptedEndpoint printed digest payloadDigest inventory claims context deploymentId = .ok envelope →
    envelope.persisted.standing = { standingOf digest .authenticatedEndpoint .endpointAgent .boundCredential context.siteId
      context.agentId (inventory.isComplete && inventory.softwareSources.isEmpty) inventory.receivedAt with
        siteId := context.siteId } ∧ envelope.RecordsOwned ∧
    ∀ asset ∈ envelope.assets, asset.componentInventoryComplete =
      (inventory.isComplete && inventory.softwareSources.isEmpty)
  sensorStanding : ∀ (payload : ObservationBatchRequest) siteId sensorId credentialId receivedAt envelope,
    sensorEnvelope printed digest batchDigest payload (.boundSensor siteId sensorId credentialId) receivedAt = .ok envelope →
    envelope.persisted.standing = standingOf digest .authenticatedPassiveSensor .passiveSensor .boundCredential siteId sensorId
      false receivedAt ∧ envelope.RecordsOwned
  developmentStanding : ∀ (payload : ObservationBatchRequest) receivedAt envelope,
    sensorEnvelope printed digest batchDigest payload .developmentShared receivedAt = .ok envelope →
    envelope.persisted.standing = standingOf digest .untrustedTransitional .passiveSensor .developmentShared payload.siteId
      ("transitional_" ++ (digest [payload.siteId, payload.sensorId]).text) false receivedAt ∧ envelope.RecordsOwned
  transitionalStanding : ∀ payload receivedAt envelope,
    transitionalEnvelope printed digest jsonDigest fromIsoFormat payload receivedAt = .ok envelope →
    (∃ siteId, shortText printed 128 ((withoutAuthority payload).get "site_id") = some siteId ∧
      envelope.persisted.standing = standingOf digest .untrustedTransitional .transitionalLocal .unauthenticated siteId
        ("transitional_" ++ (digest [siteId]).text) false receivedAt) ∧ envelope.RecordsOwned
  legacyStanding : ∀ (payload : CollectorInventoryRequest) authentication receivedAt envelope,
    legacyCollectorEnvelope printed digest jsonDigest payload authentication receivedAt = .ok envelope →
    (∃ siteId identity, envelope.persisted.standing = standingOf digest .legacyCollector .pythonCollector authentication siteId
      ("legacy_" ++ (digest [identity]).text) false receivedAt ∧
      identity = (collectorNames printed (withoutAuthority payload.known)).identityClaim) ∧ envelope.RecordsOwned

theorem adaptedEndpoint_unique {inventory inventory' : AdmittedInventory} {claims : EndpointClaims} {context : AgentContext}
    {deploymentId : String} {envelope envelope' : AdaptedEnvelope}
    (same : inventory.toEndpointInventoryRequest.withoutAuthority = inventory'.toEndpointInventoryRequest.withoutAuthority)
    (received : inventory.receivedAt = inventory'.receivedAt)
    (found : adaptedEndpoint printed digest payloadDigest inventory claims context deploymentId = .ok envelope)
    (found' : adaptedEndpoint printed digest payloadDigest inventory' claims context deploymentId = .ok envelope') :
    envelope.withoutDigest = envelope'.withoutDigest := by
  have limitations := congrArg EndpointInventoryRequest.collectionLimitations same
  have platform := congrArg EndpointInventoryRequest.platform same
  change inventory.collectionLimitations = inventory'.collectionLimitations at limitations
  change inventory.platform = inventory'.platform at platform
  unfold adaptedEndpoint at found found'
  obtain ⟨canonical, made, found⟩ := bind_eq_ok.mp found
  obtain ⟨canonical', made', found'⟩ := bind_eq_ok.mp found'
  have alike := endpointEnvelope_unique same received made made'
  rw [← Except.ok.inj found, ← Except.ok.inj found', limitations, platform]
  exact congrArg (fun canonical : CanonicalInventoryEnvelope => AdaptedEnvelope.mk canonical _ _ _) alike

/-- Fields that name an authority change no envelope but for its digest of the submission, and none of them is persisted
    with an asset; what a payload is trusted with comes from the server. -/
theorem authority_noninterference :
    Noninterference digest printed batchDigest jsonDigest fromIsoFormat payloadDigest where
  bounded value result found := by
    refine ⟨?_, boundedJson_boundedJson found, ?_⟩
    · rw [(boundedJson_eq_ok.mp found).2.2]
      exact noAuthority_withoutAuthority value
    · intro path outside
      rw [(boundedJson_eq_ok.mp found).2.2]
      exact locate_withoutAuthority outside value
  sensor _ _ _ _ _ _ same found found' := sensorEnvelope_unique same found found'
  endpoint _ _ _ _ _ _ _ same received found found' := adaptedEndpoint_unique _ _ _ same received found found'
  transitional _ _ _ _ _ same found found' := transitionalEnvelope_unique same found found'
  legacy _ _ _ _ _ _ same collected found found' := legacyCollectorEnvelope_unique same collected found found'
  endpointStanding _ _ _ _ _ found := adaptedEndpoint_standing found
  sensorStanding _ _ _ _ _ _ found := sensorEnvelope_standing found
  developmentStanding _ _ _ found := developmentEnvelope_standing found
  transitionalStanding _ _ _ found := transitionalEnvelope_standing found
  legacyStanding _ _ _ _ found := legacyCollectorEnvelope_standing found

end

section Sample

def sampleIdentifier (_ : List String) : HexDigest := ⟨"00000000000000000000000000000000", isHexText_zeros⟩

/-- A batch of one asset with one component. -/
def sampleObservation (metadata : List (String × String)) : ObservationBatchRequest where
  observationBatchId := "oaw:batch"
  siteId := "site"
  sensorId := "sensor"
  sensorName := "Sensor"
  sensorType := .passiveNetworkSensor
  observedAt := ⟨0, 0⟩
  observationSource := .passiveNetwork
  assets := [{
    assetId := "asset"
    components := [{ componentType := .application, ecosystem := "generic", name := "name", metadata }] }]

/-- A digest of the metadata of a batch. -/
def sampleBatchDigest (payload : ObservationBatchRequest) : String :=
  String.join (payload.assets.flatMap fun asset => asset.components.flatMap fun component => component.metadata.map Prod.snd)

def observedEnvelope (metadata : List (String × String)) : Except EnvelopeError AdaptedEnvelope :=
  sensorEnvelope (fun _ => "") sampleIdentifier sampleBatchDigest (sampleObservation metadata)
    (.boundSensor "site" "sensor" "credential") 0

/-- A metadata entry named as an authority is in the digest of the submission. -/
theorem digest_of_authority :
    ¬ ∀ (payload payload' : ObservationBatchRequest) context receivedAt envelope envelope',
      payload.withoutAuthority = payload'.withoutAuthority →
      sensorEnvelope (fun _ => "") sampleIdentifier sampleBatchDigest payload context receivedAt = .ok envelope →
      sensorEnvelope (fun _ => "") sampleIdentifier sampleBatchDigest payload' context receivedAt = .ok envelope' →
      envelope = envelope' := by
  intro equal
  have digested : (observedEnvelope [("risk", "low")]).toOption.map (·.payloadSha256) = some "low" := by decide +kernel
  have without : (observedEnvelope []).toOption.map (·.payloadSha256) = some "" := by decide +kernel
  have same : (sampleObservation [("risk", "low")]).withoutAuthority = (sampleObservation []).withoutAuthority := by
    have dropped : [("risk", "low")].filter (fun entry : String × String => !isAuthorityField entry.1) = [] := by
      decide
    unfold sampleObservation ObservationBatchRequest.withoutAuthority ObservationAsset.withoutAuthority observationWithoutAuthority
    simp only [List.map_cons, List.map_nil, dropped, List.filter_nil]
  cases made : observedEnvelope [("risk", "low")] with
  | error error =>
    rw [made] at digested
    cases digested
  | ok envelope =>
    cases made' : observedEnvelope [] with
    | error error =>
      rw [made'] at without
      cases without
    | ok envelope' =>
      have alike := equal _ _ _ _ _ _ same made made'
      rw [made] at digested
      rw [made', ← alike] at without
      have differ := digested.symm.trans without
      exact absurd differ (by decide)

end Sample

end OpenAssetWatch.Ingestion
