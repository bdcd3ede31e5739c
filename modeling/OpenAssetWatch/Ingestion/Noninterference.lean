import OpenAssetWatch.Ingestion.Adapters

namespace OpenAssetWatch.Ingestion

open Library Text Component

/-- A component without the entries of its metadata that name an authority. -/
def observationWithoutAuthority (component : ComponentObservation) : ComponentObservation :=
  { component with metadata := component.metadata.filter fun (key, _) => !isAuthorityField key }

def ObservationAsset.withoutAuthority (asset : ObservationAsset) : ObservationAsset :=
  { asset with components := asset.components.map observationWithoutAuthority }

/-- A batch as it is when no field that names an authority is sent: its contract has such fields nowhere else. -/
def ObservationBatchRequest.withoutAuthority (payload : ObservationBatchRequest) : ObservationBatchRequest :=
  { payload with assets := payload.assets.map (·.withoutAuthority) }

def EndpointAsset.withoutAuthority (asset : EndpointAsset) : EndpointAsset :=
  { asset with components := asset.components.map observationWithoutAuthority }

def EndpointInventoryRequest.withoutAuthority (request : EndpointInventoryRequest) : EndpointInventoryRequest :=
  { request with assets := request.assets.map (·.withoutAuthority) }

/-- An envelope whatever its digest of the submission. -/
def AdaptedEnvelope.withoutDigest (envelope : AdaptedEnvelope) : AdaptedEnvelope := { envelope with payloadSha256 := "" }

section Dumps

theorem entriesWithoutAuthority_plain {entries : List (String × Json)}
    (plain : (entries.map Prod.fst).all (fun key => !isAuthorityField key) = true) :
    entriesWithoutAuthority entries = entries.map fun (key, value) => (key, withoutAuthority value) := by
  induction entries with
  | nil =>
    unfold entriesWithoutAuthority
    rfl
  | cons entry rest ih =>
    obtain ⟨key, value⟩ := entry
    rw [List.map_cons, List.all_cons, Bool.and_eq_true, Bool.not_eq_true'] at plain
    unfold entriesWithoutAuthority
    rw [if_neg (Bool.eq_false_iff.mp plain.1), ih plain.2, List.map_cons]

@[simp] theorem withoutAuthority_string (text : String) : withoutAuthority (.string text) = .string text := rfl

@[simp] theorem withoutAuthority_number (value : ℚ) : withoutAuthority (.number value) = .number value := rfl

@[simp] theorem withoutAuthority_bool (value : Bool) : withoutAuthority (.bool value) = .bool value := rfl

@[simp] theorem withoutAuthority_ofText (text : Option String) : withoutAuthority (.ofText text) = .ofText text := by
  cases text <;> rfl

theorem withoutAuthority_time (time : Option Time) : withoutAuthority (time.elim .null .time) = time.elim .null .time := by
  cases time <;> rfl

theorem withoutAuthority_array (items : List Json) : withoutAuthority (.array items) = .array (items.map withoutAuthority) := by
  unfold withoutAuthority
  rw [itemsWithoutAuthority_eq_map]

theorem withoutAuthority_texts (texts : List String) : withoutAuthority (.array (texts.map .string)) = .array (texts.map .string) := by
  rw [withoutAuthority_array, List.map_map]
  rfl

theorem withoutAuthority_object (entries : List (String × Json)) :
    withoutAuthority (.object entries) = .object (entriesWithoutAuthority entries) := by
  unfold withoutAuthority
  rfl

theorem withoutAuthority_plain {entries : List (String × Json)}
    (plain : (entries.map Prod.fst).all (fun key => !isAuthorityField key) = true) :
    withoutAuthority (.object entries) = .object (entries.map fun (key, value) => (key, withoutAuthority value)) := by
  rw [withoutAuthority_object, entriesWithoutAuthority_plain plain]

theorem entriesWithoutAuthority_metadata (metadata : List (String × String)) :
    entriesWithoutAuthority (metadata.map fun (key, value) => (key, .string value)) =
      (metadata.filter fun (key, _) => !isAuthorityField key).map fun (key, value) => (key, .string value) := by
  induction metadata with
  | nil =>
    unfold entriesWithoutAuthority
    rfl
  | cons entry rest ih =>
    obtain ⟨key, value⟩ := entry
    rw [List.map_cons]
    unfold entriesWithoutAuthority
    by_cases named : isAuthorityField key = true
    · rw [if_pos named, ih, List.filter_cons_of_neg (by simpa using named)]
    · rw [if_neg named, ih, List.filter_cons_of_pos (by simpa using named)]
      rfl

theorem componentKeys_plain : ["component_type", "ecosystem", "name", "version", "namespace", "vendor", "architecture",
    "package_manager", "purl", "install_scope", "observed_at", "firmware_evidence_type", "confidence", "evidence_ids",
    "collection_source_id", "source_record_id", "evidence_method", "metadata"].all (fun key => !isAuthorityField key) = true := by
  decide

theorem dump_withoutAuthority (component : ComponentObservation) :
    withoutAuthority component.dump = (observationWithoutAuthority component).dump := by
  unfold ComponentObservation.dump
  rw [withoutAuthority_plain]
  · simp only [List.map_cons, List.map_nil, withoutAuthority_string, withoutAuthority_ofText, withoutAuthority_time,
      withoutAuthority_number, withoutAuthority_texts, withoutAuthority_object, entriesWithoutAuthority_metadata]
    rfl
  · exact componentKeys_plain

theorem components_withoutAuthority (components : List ComponentObservation) :
    withoutAuthority (.array (components.map (·.dump))) =
      .array ((components.map observationWithoutAuthority).map (·.dump)) := by
  rw [withoutAuthority_array, List.map_map, List.map_map]
  congr 1
  apply List.map_congr_left
  intro component _
  exact dump_withoutAuthority component

theorem evidenceDump_withoutAuthority (evidence : List ObservationEvidence) :
    withoutAuthority (.array (evidence.map (·.dump))) = .array (evidence.map (·.dump)) := by
  rw [withoutAuthority_array, List.map_map]
  rfl

theorem observationKeys_plain : ["asset_id", "hostname", "primary_ip", "mac", "os", "platform", "category", "evidence",
    "components", "component_inventory_complete"].all (fun key => !isAuthorityField key) = true := by
  decide

theorem assetDump_withoutAuthority (asset : ObservationAsset) :
    withoutAuthority asset.dump = asset.withoutAuthority.dump := by
  unfold ObservationAsset.dump
  rw [withoutAuthority_plain]
  · simp only [List.map_cons, List.map_nil, withoutAuthority_string, withoutAuthority_ofText, withoutAuthority_bool,
      evidenceDump_withoutAuthority, components_withoutAuthority]
    rfl
  · exact observationKeys_plain

theorem isNull_withoutAuthority (value : Json) : (withoutAuthority value).isNull = value.isNull := by
  cases value with
  | object entries => rw [withoutAuthority_object]; rfl
  | array items => rw [withoutAuthority_array]; rfl
  | null => rfl
  | bool value => rfl
  | number value => rfl
  | string text => rfl
  | time value => rfl

theorem present_withoutAuthority {entries : List (String × Json)}
    (plain : (entries.map Prod.fst).all (fun key => !isAuthorityField key) = true) :
    withoutAuthority (.object (present entries)) =
      .object (present (entries.map fun (key, value) => (key, withoutAuthority value))) := by
  have fewer : ((present entries).map Prod.fst).all (fun key => !isAuthorityField key) = true := by
    rw [List.all_eq_true] at plain ⊢
    intro key member
    obtain ⟨entry, kept, rfl⟩ := List.mem_map.mp member
    exact plain _ (List.mem_map_of_mem (List.mem_filter.mp kept).1)
  rw [withoutAuthority_plain fewer]
  unfold present
  rw [List.filter_map]
  congr 3
  funext entry
  show (!entry.2.isNull) = !(withoutAuthority entry.2).isNull
  rw [isNull_withoutAuthority]

theorem clientComponent_withoutAuthority (component : ComponentObservation) :
    withoutAuthority (clientComponent component) = clientComponent (observationWithoutAuthority component) := by
  unfold clientComponent ComponentObservation.dump
  dsimp only
  rw [present_withoutAuthority]
  · simp only [List.map_cons, List.map_nil, withoutAuthority_string, withoutAuthority_ofText, withoutAuthority_time,
      withoutAuthority_number, withoutAuthority_texts, withoutAuthority_object, entriesWithoutAuthority_metadata]
    rfl
  · exact componentKeys_plain

theorem addressKeys_plain : ["address", "family"].all (fun key => !isAuthorityField key) = true := by
  decide

theorem address_withoutAuthority (address : EndpointIPAddress) : withoutAuthority address.client = address.client := by
  unfold EndpointIPAddress.client
  rw [present_withoutAuthority]
  · simp only [List.map_cons, List.map_nil, withoutAuthority_string, withoutAuthority_ofText]
  · exact addressKeys_plain

theorem addresses_withoutAuthority (addresses : List EndpointIPAddress) :
    withoutAuthority (.array (addresses.map (·.client))) = .array (addresses.map (·.client)) := by
  rw [withoutAuthority_array, List.map_map]
  congr 1
  apply List.map_congr_left
  intro address _
  exact address_withoutAuthority address

theorem interfaceKeys_plain : ["name", "mac_address", "ip_addresses"].all (fun key => !isAuthorityField key) = true := by
  decide

theorem interfaces_withoutAuthority (interfaces : List EndpointInterface) :
    withoutAuthority (.array (interfaces.map (·.client))) = .array (interfaces.map (·.client)) := by
  rw [withoutAuthority_array, List.map_map]
  congr 1
  apply List.map_congr_left
  intro interface _
  show withoutAuthority interface.client = interface.client
  unfold EndpointInterface.client
  rw [present_withoutAuthority]
  · simp only [List.map_cons, List.map_nil, withoutAuthority_string, withoutAuthority_ofText, addresses_withoutAuthority]
  · exact interfaceKeys_plain

theorem endpointEvidence_withoutAuthority (evidence : List EndpointEvidence) :
    withoutAuthority (.array (evidence.map (·.client))) = .array (evidence.map (·.client)) := by
  rw [withoutAuthority_array, List.map_map]
  rfl

theorem clientComponents_withoutAuthority (components : List ComponentObservation) :
    withoutAuthority (.array (components.map clientComponent)) =
      .array ((components.map observationWithoutAuthority).map clientComponent) := by
  rw [withoutAuthority_array, List.map_map, List.map_map]
  congr 1
  apply List.map_congr_left
  intro component _
  exact clientComponent_withoutAuthority component

theorem allAddresses_withoutAuthority (interfaces : List EndpointInterface) :
    withoutAuthority (.array (interfaces.flatMap fun interface => interface.ipAddresses.map (·.client))) =
      .array (interfaces.flatMap fun interface => interface.ipAddresses.map (·.client)) := by
  rw [← List.map_flatMap]
  exact addresses_withoutAuthority _

theorem macAddresses_withoutAuthority (interfaces : List EndpointInterface) :
    withoutAuthority (.array (interfaces.filterMap fun interface =>
        interface.macAddress.map fun address => .object [("address", .string address)])) =
      .array (interfaces.filterMap fun interface =>
        interface.macAddress.map fun address => .object [("address", .string address)]) := by
  rw [withoutAuthority_array, List.map_filterMap]
  simp only [Option.map_map]
  rfl

theorem endpointKeys_plain : ["asset_id", "hostname", "fqdn", "os", "platform", "architecture", "category", "evidence",
    "components", "management_capabilities", "primary_interfaces", "ip_addresses", "mac_addresses",
    "component_inventory_complete"].all (fun key => !isAuthorityField key) = true := by
  decide

theorem client_withoutAuthority (asset : EndpointAsset) (inventoryComplete : Bool) :
    withoutAuthority (asset.client inventoryComplete) = asset.withoutAuthority.client inventoryComplete := by
  unfold EndpointAsset.client
  rw [present_withoutAuthority]
  · simp only [List.map_cons, List.map_nil, withoutAuthority_ofText, withoutAuthority_bool, withoutAuthority_texts,
      endpointEvidence_withoutAuthority, clientComponents_withoutAuthority, interfaces_withoutAuthority,
      allAddresses_withoutAuthority, macAddresses_withoutAuthority]
    rfl
  · exact endpointKeys_plain

end Dumps

section Unique

theorem mapM_unique {α β : Type} {f : α → Except EnvelopeError β} {relation : α → α → Prop}
    (unique : ∀ a a' b b', relation a a' → f a = .ok b → f a' = .ok b' → b = b') {items items' : List α}
    (related : List.Forall₂ relation items items') {results results' : List β} (found : items.mapM f = .ok results)
    (found' : items'.mapM f = .ok results') : results = results' := by
  have pairs := mapM_eq_ok.mp found
  have pairs' := mapM_eq_ok.mp found'
  clear found found'
  induction related generalizing results results' with
  | nil =>
    cases pairs
    cases pairs'
    rfl
  | cons here _ ih =>
    cases pairs with
    | cons first others =>
      cases pairs' with
      | cons first' others' => rw [unique _ _ _ _ here first first', ih others others']

theorem forall₂_of_map_eq {α β : Type} {f : α → β} {items items' : List α} (same : items.map f = items'.map f) :
    List.Forall₂ (fun a a' => f a = f a') items items' := by
  have pairs : List.Forall₂ Eq (items.map f) (items'.map f) := by rw [List.forall₂_eq_eq_eq, same]
  exact List.forall₂_map_right_iff.mp (List.forall₂_map_left_iff.mp pairs)

theorem forall₂_zipIdx {α : Type} {relation : α → α → Prop} {items items' : List α}
    (related : List.Forall₂ relation items items') (n : Nat) :
    List.Forall₂ (fun a a' => relation a.1 a'.1 ∧ a.2 = a'.2) (items.zipIdx n) (items'.zipIdx n) := by
  induction related generalizing n with
  | nil => exact .nil
  | cons here _ ih => exact .cons ⟨here, rfl⟩ (ih (n + 1))

variable {printed : Json → String} {digest : List String → HexDigest} {value value' : Json}

theorem boundedJson_unique (same : withoutAuthority value = withoutAuthority value') {result result' : Json}
    (found : boundedJson value = .ok result) (found' : boundedJson value' = .ok result') : result = result' := by
  rw [(boundedJson_eq_ok.mp found).2.2, (boundedJson_eq_ok.mp found').2.2, same]

theorem assetFromMapping_unique (same : withoutAuthority value = withoutAuthority value') {index : Nat}
    {asset asset' : CanonicalAsset} (found : assetFromMapping printed value index = .ok asset)
    (found' : assetFromMapping printed value' index = .ok asset') : asset = asset' := by
  unfold assetFromMapping at found found'
  obtain ⟨safe, bounded, found⟩ := bind_eq_ok.mp found
  obtain ⟨safe', bounded', found'⟩ := bind_eq_ok.mp found'
  have safe_eq := boundedJson_unique same bounded bounded'
  subst safe_eq
  exact Except.ok.inj (found.symm.trans found')

theorem canonicalAsset_unique (same : withoutAuthority value = withoutAuthority value') {index : Nat}
    {asset asset' : CanonicalAsset} (found : canonicalAsset printed value index = .ok asset)
    (found' : canonicalAsset printed value' index = .ok asset') : asset = asset' := by
  unfold canonicalAsset at found found'
  obtain ⟨made, mapped, found⟩ := bind_eq_ok.mp found
  obtain ⟨made', mapped', found'⟩ := bind_eq_ok.mp found'
  have made_eq := assetFromMapping_unique same mapped mapped'
  subst made_eq
  exact Except.ok.inj (found.symm.trans found')

theorem validatedEnvelope_digest {sourceId collectionId payloadDigest payloadDigest' : String} {a : EnvelopeArguments}
    {envelope envelope' : AdaptedEnvelope}
    (found : validatedEnvelope sourceId collectionId payloadDigest a = .ok envelope)
    (found' : validatedEnvelope sourceId collectionId payloadDigest' a = .ok envelope') :
    envelope.withoutDigest = envelope'.withoutDigest := by
  simp only [validatedEnvelope, require_bind_eq_ok] at found found'
  obtain ⟨-, -, -, -, found⟩ := found
  obtain ⟨-, -, -, -, found'⟩ := found'
  by_cases consistent : a.Consistent
  · rw [dif_pos consistent] at found found'
    by_cases notAhead : a.observedAt ≤ a.ingestedAt + maxFutureSkew
    · rw [dif_pos notAhead] at found found'
      rw [← Except.ok.inj found, ← Except.ok.inj found']
      rfl
    · rw [dif_neg notAhead] at found
      cases found
  · rw [dif_neg consistent] at found
    cases found

variable {batchDigest : ObservationBatchRequest → String} {jsonDigest : Json → String}
  {fromIsoFormat : String → Option (Option Time)} {payloadDigest : EndpointInventoryRequest → String}
  {receivedAt : Time} {envelope envelope' : AdaptedEnvelope}

theorem sensorEnvelope_unique {payload payload' : ObservationBatchRequest} {context : SensorContext}
    (same : payload.withoutAuthority = payload'.withoutAuthority)
    (found : sensorEnvelope printed digest batchDigest payload context receivedAt = .ok envelope)
    (found' : sensorEnvelope printed digest batchDigest payload' context receivedAt = .ok envelope') :
    envelope.withoutDigest = envelope'.withoutDigest := by
  unfold sensorEnvelope at found found'
  obtain ⟨assets, mapped, found⟩ := bind_eq_ok.mp found
  obtain ⟨assets', mapped', found'⟩ := bind_eq_ok.mp found'
  have listed := forall₂_of_map_eq (congrArg ObservationBatchRequest.assets same)
  have assets_eq : assets = assets' := by
    apply mapM_unique _ (forall₂_zipIdx listed 0) mapped mapped'
    rintro ⟨asset, index⟩ ⟨asset', index'⟩ made made' ⟨alike, rfl⟩ here here'
    apply canonicalAsset_unique _ here here'
    rw [assetDump_withoutAuthority, assetDump_withoutAuthority, alike]
  have plain : ∀ payload : ObservationBatchRequest, sensorArguments digest payload.withoutAuthority context assets receivedAt =
      sensorArguments digest payload context assets receivedAt := by
    intro payload
    cases context <;> rfl
  rw [← plain, same, plain] at found
  rw [← assets_eq] at found'
  exact validatedEnvelope_digest found found'

theorem endpointEnvelope_unique {inventory inventory' : AdmittedInventory} {context : AgentContext}
    (same : inventory.toEndpointInventoryRequest.withoutAuthority = inventory'.toEndpointInventoryRequest.withoutAuthority)
    (received : inventory.receivedAt = inventory'.receivedAt) {envelope envelope' : CanonicalInventoryEnvelope}
    (found : endpointEnvelope printed digest payloadDigest inventory context = .ok envelope)
    (found' : endpointEnvelope printed digest payloadDigest inventory' context = .ok envelope') :
    { envelope with payloadSha256 := "" } = { envelope' with payloadSha256 := "" } := by
  have complete := congrArg EndpointInventoryRequest.isComplete same
  have observed := congrArg EndpointInventoryRequest.observedAt same
  have batch := congrArg EndpointInventoryRequest.inventoryBatchId same
  have sources := congrArg EndpointInventoryRequest.softwareSources same
  change inventory.isComplete = inventory'.isComplete at complete
  change inventory.observedAt = inventory'.observedAt at observed
  change inventory.inventoryBatchId = inventory'.inventoryBatchId at batch
  change inventory.softwareSources = inventory'.softwareSources at sources
  have listed := forall₂_of_map_eq (congrArg EndpointInventoryRequest.assets same)
  unfold endpointEnvelope at found found'
  obtain ⟨assets, mapped, found⟩ := bind_eq_ok.mp found
  obtain ⟨assets', mapped', found'⟩ := bind_eq_ok.mp found'
  have assets_eq : assets = assets' := by
    apply mapM_unique _ (forall₂_zipIdx listed 0) mapped
    · rw [complete, sources]
      exact mapped'
    · rintro ⟨asset, index⟩ ⟨asset', index'⟩ made made' ⟨alike, rfl⟩ here here'
      apply assetFromMapping_unique _ here here'
      rw [client_withoutAuthority, client_withoutAuthority, alike]
  by_cases site : context.siteId.toList.all isSiteChar = true
  · rw [dif_pos site] at found found'
    by_cases notAhead : inventory.observedAt ≤ inventory.receivedAt + maxFutureSkew
    · have notAhead' : inventory'.observedAt ≤ inventory'.receivedAt + maxFutureSkew := by rwa [← observed, ← received]
      rw [dif_pos notAhead] at found
      rw [dif_pos notAhead'] at found'
      rw [← Except.ok.inj found, ← Except.ok.inj found']
      simp only [complete, observed, batch, sources, received, assets_eq]
    · rw [dif_neg notAhead] at found
      cases found
  · rw [dif_neg site] at found
    cases found

theorem transitionalEnvelope_unique {payload payload' : Json} (same : withoutAuthority payload = withoutAuthority payload')
    (found : transitionalEnvelope printed digest jsonDigest fromIsoFormat payload receivedAt = .ok envelope)
    (found' : transitionalEnvelope printed digest jsonDigest fromIsoFormat payload' receivedAt = .ok envelope') :
    envelope = envelope' := by
  unfold transitionalEnvelope at found found'
  obtain ⟨safe, bounded, found⟩ := bind_eq_ok.mp found
  obtain ⟨safe', bounded', found'⟩ := bind_eq_ok.mp found'
  have safe_eq := boundedJson_unique same bounded bounded'
  subst safe_eq
  exact Except.ok.inj (found.symm.trans found')

theorem collectorFields_plain : collectorFields.all (fun key => !isAuthorityField key) = true := by
  decide

theorem known_withoutAuthority (payload : CollectorInventoryRequest) :
    withoutAuthority payload.known = CollectorInventoryRequest.known { payload with fields := entriesWithoutAuthority payload.fields } := by
  unfold CollectorInventoryRequest.known
  rw [withoutAuthority_plain]
  · rw [List.map_filterMap]
    congr 1
    apply List.filterMap_congr
    intro key listed
    have plain : isAuthorityField key = false := by simpa using List.all_eq_true.mp collectorFields_plain key listed
    rw [lookup_entriesWithoutAuthority plain, Option.map_map, Option.map_map]
    rfl
  · rw [List.all_eq_true]
    intro key member
    obtain ⟨entry, kept, rfl⟩ := List.mem_map.mp member
    obtain ⟨name, listed, found⟩ := List.mem_filterMap.mp kept
    obtain ⟨value, -, rfl⟩ := Option.map_eq_some_iff.mp found
    exact List.all_eq_true.mp collectorFields_plain name listed

theorem legacyCollectorEnvelope_unique {payload payload' : CollectorInventoryRequest} {class_ : AuthenticationClass}
    (same : entriesWithoutAuthority payload.fields = entriesWithoutAuthority payload'.fields)
    (collected : payload.collectedAt = payload'.collectedAt)
    (found : legacyCollectorEnvelope printed digest jsonDigest payload class_ receivedAt = .ok envelope)
    (found' : legacyCollectorEnvelope printed digest jsonDigest payload' class_ receivedAt = .ok envelope') :
    envelope = envelope' := by
  unfold legacyCollectorEnvelope at found found'
  obtain ⟨safe, bounded, found⟩ := bind_eq_ok.mp found
  obtain ⟨safe', bounded', found'⟩ := bind_eq_ok.mp found'
  have known : withoutAuthority payload.known = withoutAuthority payload'.known := by
    rw [known_withoutAuthority, known_withoutAuthority, same]
    rfl
  have safe_eq := boundedJson_unique known bounded bounded'
  subst safe_eq
  rw [← collected] at found'
  exact Except.ok.inj (found.symm.trans found')

end Unique

end OpenAssetWatch.Ingestion
