import OpenAssetWatch.Ingestion.EndpointTrace

namespace OpenAssetWatch.Ingestion

open Library Text Component

section

variable {old new : List (String × Json)} {key : String}

theorem lookup_filter_keys (p : String → Bool) (entries : List (String × Json)) :
    (entries.filter fun (name, _) => p name).lookup key = if p key then entries.lookup key else none := by
  induction entries with
  | nil => exact (ite_self none).symm
  | cons entry rest ih =>
    obtain ⟨name, value⟩ := entry
    rw [List.filter_cons, DictEntries.lookup_cons]
    by_cases same : key = name
    · subst same
      cases kept : p key with
      | true =>
        rw [if_pos rfl]
        simp only [kept, if_true]
        rw [DictEntries.lookup_cons, if_pos rfl]
      | false =>
        simp only [kept, Bool.false_eq_true, if_false] at ih ⊢
        exact ih
    · rw [if_neg same, ← ih]
      cases kept : p name with
      | true =>
        simp only [kept, if_true]
        rw [DictEntries.lookup_cons, if_neg same]
      | false => simp only [kept, Bool.false_eq_true, if_false]

theorem lookup_merge : (merge old new).lookup key = (new.lookup key).or (old.lookup key) := by
  rw [merge, List.lookup_append, lookup_filter_keys fun name => !(new.map Prod.fst).contains name]
  cases found : new.lookup key with
  | some value => rfl
  | none =>
    have absent : key ∉ new.map Prod.fst := by
      intro member
      obtain ⟨entry, listed, rfl⟩ := List.mem_map.mp member
      exact (bne_iff_ne.mp (List.lookup_eq_none_iff.mp found entry listed)) rfl
    have kept : (!(new.map Prod.fst).contains key) = true := by
      rw [Bool.not_eq_true', List.contains_eq_mem, decide_eq_false_iff_not]
      exact absent
    rw [if_pos kept]

end

/-- The entry of a component of the envelope. -/
def envelopeEntry (component : ComponentObservation) : Json :=
  match component.dump with
  | .object entries => .object (merge entries [("_default_component_type", .null)])
  | other => other

theorem envelopeEntry_get (component : ComponentObservation) :
    (envelopeEntry component).get "collection_source_id" = .ofText component.collectionSourceId ∧
      (envelopeEntry component).get "evidence_method" = .ofText component.evidenceMethod := by
  refine ⟨?_, ?_⟩ <;> simp [envelopeEntry, ComponentObservation.dump, lookup_merge, List.lookup]

theorem entriesUnder_absent {container : Json} {field : String × Json} (absent : container.get field.1 = .null) :
    entriesUnder container field = [] := by
  rw [entriesUnder, absent]
  rfl

variable {printed : Json → String} {payload : PersistencePayload} {siteId : String} {receivedAt : Time} {index : Nat}
  {asset : EndpointAsset} {canonical : CanonicalAsset}

theorem metadata_lookup (fields : List (String × Json)) {key : String} (shown : hubOwnedAssetMetadataFields.contains key = false) :
    ((normalizeAsset printed payload siteId receivedAt index fields).dict.get "metadata").get key =
      (fields.lookup key).getD .null := by
  show ((fields.filter fun (name, _) => !hubOwnedAssetMetadataFields.contains name).lookup key).getD .null = _
  rw [lookup_filter_keys fun name => !hubOwnedAssetMetadataFields.contains name, if_pos (by rw [shown]; rfl)]

theorem componentEntries_eq (traced : Traced asset canonical) {fields added : List (String × Json)}
    (own : fields = merge (merge canonical.metadata canonical.fields) added)
    (apart : ∀ field ∈ ["components", "software", "packages", "firmware"], added.lookup field = none) :
    componentEntries (normalizeAsset printed payload siteId receivedAt index fields).dict =
      canonical.components.map envelopeEntry := by
  have top (field : String) (member : field ∈ ["components", "software", "packages", "firmware"]) :
      (normalizeAsset printed payload siteId receivedAt index fields).dict.get field = .null := by
    simp only [List.mem_cons, List.not_mem_nil, or_false] at member
    rcases member with rfl | rfl | rfl | rfl <;> rfl
  have below (field : String) (member : field ∈ ["components", "software", "packages", "firmware"]) :
      ((normalizeAsset printed payload siteId receivedAt index fields).dict.get "metadata").get field =
        ((canonical.fields.lookup field).or (canonical.metadata.lookup field)).getD .null := by
    have shown : hubOwnedAssetMetadataFields.contains field = false := by
      revert field
      decide
    rw [metadata_lookup fields shown, own, lookup_merge, lookup_merge, apart field member]
    rfl
  have components : ((normalizeAsset printed payload siteId receivedAt index fields).dict.get "metadata").get "components" =
      .array (canonical.components.map (·.dump)) := by
    rw [below "components" (by decide)]
    simp [CanonicalAsset.fields, List.lookup]
  have empty (field : String) (member : field ∈ ["software", "packages", "firmware"]) :
      ((normalizeAsset printed payload siteId receivedAt index fields).dict.get "metadata").get field = .null := by
    rw [below field (List.mem_cons_of_mem _ member), traced.only field member]
    simp only [List.mem_cons, List.not_mem_nil, or_false] at member
    rcases member with rfl | rfl | rfl <;> simp [CanonicalAsset.fields, List.lookup]
  have listed (container : Json) (found : container.get "components" = .array (canonical.components.map (·.dump))) :
      entriesUnder container ("components", .null) = canonical.components.map envelopeEntry := by
    have few : (canonical.components.map (·.dump)).length ≤ maxComponentsPerAsset := by
      rw [List.length_map]
      exact traced.few
    rw [entriesUnder, found]
    simp only
    rw [List.take_of_length_le few, List.filterMap_map, ← List.filterMap_eq_map]
    rfl
  have whole : (canonical.components.map envelopeEntry).length ≤ maxComponentsPerAsset := by
    rw [List.length_map]
    exact traced.few
  rw [componentEntries]
  simp only [componentFields, List.flatMap_cons, List.flatMap_nil, List.append_nil]
  rw [entriesUnder_absent (top _ (by decide)), entriesUnder_absent (top _ (by decide)), entriesUnder_absent (top _ (by decide)),
    entriesUnder_absent (top _ (by decide)), listed _ components, entriesUnder_absent (empty _ (by decide)),
    entriesUnder_absent (empty _ (by decide)), entriesUnder_absent (empty _ (by decide))]
  simp only [List.nil_append, List.append_nil]
  exact List.take_of_length_le whole

/-- What an admitted request promises of its native sources. -/
structure ContractKept (request : EndpointInventoryRequest) (now : Time) : Prop where
  few : request.softwareSources.length ≤ 8
  sources : ∀ source ∈ request.softwareSources, source.validate = .ok ()
  components : ∀ asset ∈ request.assets, ∀ component ∈ asset.components, validateComponent now component = .ok ()
  distinct : (request.softwareSources.map (·.sourceId)).Nodup
  single : request.softwareSources = [] ∨ request.assets.length = 1
  reported : ∀ component ∈ request.components, ∀ sourceId, component.collectionSourceId = some sourceId →
    ∃ source ∈ request.softwareSources, source.sourceId = sourceId
  counted : ∀ source ∈ request.softwareSources, source.recordCount = request.components.countP (hasSource source.sourceId)

theorem contractKept {request : EndpointInventoryRequest} {now : Time} (admitted : request.validate now = .ok ()) :
    ContractKept request now := by
  rw [EndpointInventoryRequest.validate] at admitted
  obtain ⟨bounds, admitted⟩ := require_bind_eq_ok.mp admitted
  obtain ⟨-, admitted⟩ := require_bind_eq_ok.mp admitted
  obtain ⟨-, admitted⟩ := require_bind_eq_ok.mp admitted
  obtain ⟨_, sources, admitted⟩ := bind_eq_ok.mp admitted
  obtain ⟨_, assets, admitted⟩ := bind_eq_ok.mp admitted
  obtain ⟨-, admitted⟩ := require_bind_eq_ok.mp admitted
  obtain ⟨-, admitted⟩ := require_bind_eq_ok.mp admitted
  obtain ⟨-, admitted⟩ := require_bind_eq_ok.mp admitted
  obtain ⟨distinct, admitted⟩ := require_bind_eq_ok.mp admitted
  obtain ⟨single, admitted⟩ := require_bind_eq_ok.mp admitted
  obtain ⟨reported, admitted⟩ := require_bind_eq_ok.mp admitted
  obtain ⟨counted, -⟩ := require_bind_eq_ok.mp admitted
  simp only [Bool.and_eq_true, decide_eq_true_eq] at bounds
  refine ⟨bounds.1.1.2, forM_eq_ok.mp sources, fun asset member component listed => ?_, of_decide_eq_true distinct, ?_,
    fun component member sourceId named => ?_, fun source member => ?_⟩
  · have valid := forM_eq_ok.mp assets asset member
    rw [EndpointAsset.validate] at valid
    obtain ⟨-, valid⟩ := require_bind_eq_ok.mp valid
    obtain ⟨_, valid, -⟩ := bind_eq_ok.mp valid
    exact forM_eq_ok.mp valid component listed
  · rw [Bool.or_eq_true, List.isEmpty_iff, beq_iff_eq] at single
    exact single
  · have named_source := List.all_eq_true.mp reported component member
    rw [named, Option.all_some, List.contains_eq_mem, decide_eq_true_eq] at named_source
    exact List.mem_map.mp named_source
  · exact eq_of_beq (List.all_eq_true.mp counted source member)

theorem validComponent_native {now : Time} {component : ComponentObservation} (valid : validateComponent now component = .ok ())
    {sourceId : String} (named : component.collectionSourceId = some sourceId) :
    isSourceName sourceId = true ∧ ∃ method, component.evidenceMethod = some method ∧ isSourceName method = true := by
  rw [validateComponent] at valid
  obtain ⟨fields, valid⟩ := require_bind_eq_ok.mp valid
  obtain ⟨-, valid⟩ := require_bind_eq_ok.mp valid
  obtain ⟨-, together⟩ := require_bind_eq_ok.mp valid
  have together := require_eq_ok.mp together
  simp only [componentFieldsValid, Bool.and_eq_true] at fields
  obtain ⟨⟨⟨⟨-, source⟩, -⟩, method⟩, -⟩ := fields
  rw [named, Option.all_some] at source
  refine ⟨source, ?_⟩
  cases known : component.evidenceMethod with
  | none => simp [named, known] at together
  | some name =>
    rw [known, Option.all_some] at method
    exact ⟨name, rfl, method⟩

theorem validSource {source : NativeSoftwareSourceResult} (valid : source.validate = .ok ()) :
    isSourceName source.sourceId = true ∧ (reviewedSources source.platform).contains source.sourceId = true ∧
      (source.status = .complete → source.truncated = false ∧ source.errorCode = none) ∧
      (source.status = .failed ∨ source.status = .unsupported → source.recordCount = 0) := by
  rw [NativeSoftwareSourceResult.validate] at valid
  obtain ⟨fields, valid⟩ := require_bind_eq_ok.mp valid
  obtain ⟨-, valid⟩ := require_bind_eq_ok.mp valid
  obtain ⟨reviewed, valid⟩ := require_bind_eq_ok.mp valid
  obtain ⟨complete, valid⟩ := require_bind_eq_ok.mp valid
  obtain ⟨unsuccessful, -⟩ := require_bind_eq_ok.mp valid
  simp only [Bool.and_eq_true] at fields
  refine ⟨fields.1.1.1, reviewed, fun status => ?_, fun status => ?_⟩
  · simpa [status] using complete
  · rcases status with status | status
    · simpa [status] using unsuccessful
    · simpa [status] using unsuccessful

/-- What the envelope keeps of an admitted inventory. -/
structure EnvelopeTraced (inventory : AdmittedInventory) (envelope : CanonicalInventoryEnvelope) : Prop where
  assets : List.Forall₂ Traced inventory.assets envelope.assets
  sources : envelope.softwareSources = inventory.softwareSources.map canonicalSource
  authority : envelope.sourceAuthority = .authenticatedEndpoint
  collection : isCollectionId envelope.canonicalCollectionId = true

theorem isCollectionId_digest (digest : HexDigest) : isCollectionId ("col_" ++ digest.text) = true := by
  have hex := digest.isHex
  simp only [isHexText, Bool.and_eq_true, beq_iff_eq] at hex
  obtain ⟨digits, length⟩ := hex
  have chars : ("col_" ++ digest.text).toList = ['c', 'o', 'l', '_'] ++ digest.text.toList := by
    rw [String.toList_append]
    rfl
  simp only [isCollectionId, chars, Bool.and_eq_true, beq_iff_eq]
  refine ⟨⟨rfl, ?_⟩, ?_⟩
  · exact digits
  · rw [List.length_append, length]
    rfl

variable {digest : List String → HexDigest} {payloadDigest : EndpointInventoryRequest → String} {inventory : AdmittedInventory}
  {agent : AgentContext} {envelope : CanonicalInventoryEnvelope}

theorem envelopeTraced (built : endpointEnvelope printed digest payloadDigest inventory agent = .ok envelope) :
    EnvelopeTraced inventory envelope := by
  have kept := contractKept inventory.admitted
  rw [endpointEnvelope] at built
  obtain ⟨assets, mapped, built⟩ := bind_eq_ok.mp built
  have pairs := mapM_eq_ok.mp mapped
  have traced : List.Forall₂ Traced inventory.assets assets := by
    have indexed : List.Forall₂ (fun item canonical => Traced item.1 canonical) inventory.assets.zipIdx assets := by
      have listed : ∀ item ∈ inventory.assets.zipIdx, item.1 ∈ inventory.assets := by
        intro item member
        rw [← List.zipIdx_map_fst 0 inventory.assets]
        exact List.mem_map_of_mem member
      refine List.Forall₂.imp (fun item canonical found => ?_) ((List.forall₂_and_left _ _).mpr ⟨listed, pairs⟩)
      apply assetFromMapping_traced _ found.2
      intro component member sourceId named
      exact (validComponent_native (kept.components item.1 found.1 component member) named).1
    rw [← List.forall₂_map_left_iff (f := Prod.fst), List.zipIdx_map_fst] at indexed
    exact indexed
  simp only at built
  split at built
  · split at built
    · rw [← Except.ok.inj built]
      exact ⟨traced, rfl, rfl, isCollectionId_digest _⟩
    · cases built
  · cases built

theorem sourcesAdmitted (traced : EnvelopeTraced inventory envelope) : SourcesAdmitted envelope.softwareSources := by
  have kept := contractKept inventory.admitted
  rw [traced.sources]
  refine ⟨?_, ?_, ?_, ?_, ?_⟩
  · rw [List.length_map]
    exact kept.few
  · rw [List.map_map]
    exact kept.distinct
  · intro source member
    obtain ⟨original, listed, rfl⟩ := List.mem_map.mp member
    exact (validSource (kept.sources original listed)).1
  · intro source member
    obtain ⟨original, listed, rfl⟩ := List.mem_map.mp member
    exact (validSource (kept.sources original listed)).2.1
  · intro source member
    obtain ⟨original, listed, rfl⟩ := List.mem_map.mp member
    exact (validSource (kept.sources original listed)).2.2.1

theorem boundedString_ofText {text : Option String} {limit : Nat} {bounded : String}
    (found : boundedString limit (.ofText text) = some bounded) : ∃ whole, text = some whole := by
  cases text with
  | none => cases found
  | some whole => exact ⟨whole, rfl⟩

theorem envelopeEntry_source {component : ComponentObservation} {sourceId : String}
    (valid : validateComponent 0 component = .ok ())
    (named : boundedString 64 ((envelopeEntry component).get "collection_source_id") = some sourceId) :
    component.collectionSourceId = some sourceId := by
  rw [(envelopeEntry_get component).1] at named
  obtain ⟨whole, known⟩ := boundedString_ofText named
  have shaped := (validComponent_native valid known).1
  rw [known] at named ⊢
  exact (boundedString_sourceName shaped).symm.trans named

theorem entriesAdmitted (traced : EnvelopeTraced inventory envelope) {canonical : CanonicalAsset}
    (member : canonical ∈ envelope.assets) :
    EntriesAdmitted envelope.softwareSources (canonical.components.map envelopeEntry) := by
  have kept := contractKept inventory.admitted
  obtain ⟨asset, listed, own⟩ := exists_left_of_forall₂ traced.assets member
  have original {component : ComponentObservation} (member : component ∈ canonical.components) {sourceId : String}
      (named : boundedString 64 ((envelopeEntry component).get "collection_source_id") = some sourceId) :
      ∃ reported ∈ inventory.components, reported.collectionSourceId = some sourceId := by
    obtain ⟨reported, among, same⟩ := own.reported component member sourceId
      (envelopeEntry_source (own.valid component member) named)
    exact ⟨reported, List.mem_flatMap.mpr ⟨asset, listed, among⟩, same⟩
  refine ⟨?_, ?_, ?_⟩
  · intro entry member sourceId named
    obtain ⟨component, here, rfl⟩ := List.mem_map.mp member
    have known := envelopeEntry_source (own.valid component here) named
    obtain ⟨shaped, method, methodNamed, methodShaped⟩ := validComponent_native (own.valid component here) known
    refine ⟨shaped, method, ?_, methodShaped⟩
    rw [(envelopeEntry_get component).2, methodNamed]
    exact boundedString_sourceName methodShaped
  · intro entry member sourceId named
    obtain ⟨component, here, rfl⟩ := List.mem_map.mp member
    obtain ⟨reported, among, same⟩ := original here named
    obtain ⟨source, found, shared⟩ := kept.reported reported among sourceId same
    rw [traced.sources]
    exact ⟨canonicalSource source, List.mem_map_of_mem found, shared⟩
  · intro entry member source reviewed named
    obtain ⟨component, here, rfl⟩ := List.mem_map.mp member
    obtain ⟨reported, among, same⟩ := original here (eq_of_beq named)
    rw [traced.sources] at reviewed
    obtain ⟨result, found, rfl⟩ := List.mem_map.mp reviewed
    have shown : 0 < inventory.components.countP (hasSource result.sourceId) := by
      rw [List.countP_pos_iff]
      exact ⟨reported, among, beq_iff_eq.mpr same⟩
    have silent := (validSource (kept.sources result found)).2.2.2
    have counted := kept.counted result found
    constructor
    · intro failed
      have none := silent (.inl failed)
      omega
    · intro unsupported
      have none := silent (.inr unsupported)
      omega

/-- Every native record that the evaluated asset shows is kept. -/
def NativeRecordsKept (printed : Json → String) (digest : List String → HexDigest) (envelope : CanonicalInventoryEnvelope)
    (selected : List String) : Prop :=
  ∀ asset ∈ evaluatedAssets printed envelope selected, ∀ context,
    entryContext asset envelope.persistencePayload envelope.ingestedAt envelope.sourceAuthenticated = some context →
      RecordsKept digest context (componentEntries asset)

/-- A projection that passes the checks before those of the components: the site is configured, the collection runs under
the agent's authority, and no source has been observed later. -/
structure Unobstructed (hub : Hub) (store : ComponentStore) (snapshots : List ComponentSourceSnapshot) : Prop where
  configured : ∀ snapshot ∈ snapshots, hub.configured snapshot.scope.siteId = true
  bound : ∀ snapshot ∈ snapshots, hub.authority snapshot.canonicalCollectionId = some (boundEndpoint snapshot)
  ordered : ∀ snapshot ∈ snapshots, inOrder store.sources snapshot = true

theorem evaluatedAssets_entries (traced : EnvelopeTraced inventory envelope) {selected : List String} {asset : Json}
    (member : asset ∈ evaluatedAssets printed envelope selected) :
    ∃ canonical ∈ envelope.assets, componentEntries asset = canonical.components.map envelopeEntry := by
  obtain ⟨normalized, selected, rfl⟩ := List.mem_map.mp member
  have listed := List.mem_of_mem_filter selected
  rw [CanonicalInventoryEnvelope.normalizedAssets, normalizeLocalInventoryAssets] at listed
  obtain ⟨index, short, rfl⟩ := List.mem_mapIdx.mp listed
  have below : index < envelope.assets.length := by
    simpa only [CanonicalInventoryEnvelope.persistencePayload, List.length_map] using short
  refine ⟨envelope.assets[index], List.getElem_mem below, ?_⟩
  obtain ⟨asset, -, own⟩ := exists_left_of_forall₂ traced.assets (List.getElem_mem below)
  apply componentEntries_eq own
  · exact List.getElem_map _
  · intro field member
    revert field
    simp [List.lookup]

variable (printed) in
theorem evaluatedAssets_single (traced : EnvelopeTraced inventory envelope) (selected : List String)
    (reported : envelope.softwareSources ≠ []) :
    evaluatedAssets printed envelope selected = [] ∨ ∃ asset, evaluatedAssets printed envelope selected = [asset] := by
  have one : envelope.assets.length = 1 := by
    rw [← traced.assets.length_eq]
    apply (contractKept inventory.admitted).single.resolve_left
    intro none
    rw [traced.sources, none] at reported
    exact reported rfl
  have short : (evaluatedAssets printed envelope selected).length ≤ 1 := by
    rw [evaluatedAssets, List.length_map, ← one]
    refine (List.length_filter_le _ _).trans ?_
    rw [CanonicalInventoryEnvelope.normalizedAssets, normalizeLocalInventoryAssets, List.length_mapIdx,
      CanonicalInventoryEnvelope.persistencePayload, List.length_map]
  match evaluatedAssets printed envelope selected, short with
  | [], _ => exact .inl rfl
  | [asset], _ => exact .inr ⟨asset, rfl⟩
  | _ :: _ :: _, short => exact absurd short (by simp)

theorem sourceContext_endpoint (traced : EnvelopeTraced inventory envelope) (asset : Json) :
    (sourceContext envelope.persistencePayload asset envelope.sourceAuthenticated).sourceType = "endpoint-collector" ∧
      (sourceContext envelope.persistencePayload asset envelope.sourceAuthenticated).direct = true := by
  have declared : token 64 (.string "endpoint-agent") = "endpoint-agent" := by decide
  have reported : envelope.persistencePayload.sensorType = "endpoint-agent" := by
    rw [CanonicalInventoryEnvelope.persistencePayload, traced.authority]
    rfl
  have trusted : envelope.sourceAuthenticated = true := by
    rw [CanonicalInventoryEnvelope.sourceAuthenticated, traced.authority]
    rfl
  rw [sourceContext, reported, declared, trusted]
  exact ⟨rfl, rfl⟩

theorem entryContext_source {asset : Json} {receivedAt : Time} {sourceAuthenticated : Bool} {context : EntryContext}
    (found : entryContext asset payload receivedAt sourceAuthenticated = some context) :
    context.source = sourceContext payload asset sourceAuthenticated := by
  simp only [entryContext, Option.bind_eq_bind, Option.bind_eq_some_iff] at found
  obtain ⟨_, -, _, -, same⟩ := found
  cases same
  rfl

theorem persist_raises_iff {hub : Hub} {store : ComponentStore} {components : List NormalizedComponent}
    {snapshots : List ComponentSourceSnapshot} (filled : snapshots ≠ []) (locked : Component.lockSite hub snapshots = .ok ())
    (validated : validateSnapshots hub store.sources [] snapshots = .ok ())
    (known : (nativeComponents components).all (fun item => snapshots.any (·.scope = item.1.scope)) = true)
    (quiet : ∀ snapshot ∈ snapshots, snapshot.collectionStatus = .failed ∨ snapshot.collectionStatus = .unsupported →
      (observedBySource components snapshot.scope).length = 0) :
    (persistSourcePresence hub components snapshots store ≠ .error .recordCountMismatch ∧
        persistSourcePresence hub components snapshots store ≠ .error .snapshotMissing) ↔
      ∀ snapshot ∈ snapshots, (observedBySource components snapshot.scope).length = snapshot.recordCount := by
  have reached : persistSourcePresence hub components snapshots store = checkCounts components snapshots >>= fun _ => (do
      require ((nativeComponents components).all fun item => (store.components.get? item.1.componentId).isSome)
        .componentMissing
      let presences := (nativeComponents components).foldl (upsertSourcePresence snapshots) store.presences
      return snapshots.foldl (projectSnapshot components) { store with presences }) := by
    rw [persistSourcePresence, if_neg filled, locked, validated, known]
    rfl
  rw [reached]
  rcases checkCounts_cases quiet with ⟨passes, all⟩ | ⟨fails, some⟩
  · refine iff_of_true ?_ all
    rw [passes]
    cases stored : (nativeComponents components).all fun item => (store.components.get? item.1.componentId).isSome with
    | true => exact ⟨nofun, nofun⟩
    | false => exact ⟨nofun, nofun⟩
  · refine iff_of_false (fun raised => raised.1 ?_) some
    rw [fails]
    rfl

section

variable {asset : Json} {context : EntryContext} {sources : List CanonicalSoftwareSource} {canonicalCollectionId : String}

/-- The components that one asset is projected to. -/
def assetComponents (digest : List String → HexDigest) (context : EntryContext) (asset : Json) : List NormalizedComponent :=
  (bestByKey (·.componentId) outranks ((componentEntries asset).filterMap (normalizedComponent digest context))).values

theorem assetComponents_from {component : NormalizedComponent} (member : component ∈ assetComponents digest context asset) :
    ∃ entry ∈ componentEntries asset, normalizedComponent digest context entry = some component := by
  obtain ⟨key, stored⟩ := (Dict.mem_values _ _).mp member
  exact List.mem_filterMap.mp (bestByKey_mem stored).1

theorem normalizedComponent_ofContext {entry : Json} {component : NormalizedComponent}
    (found : normalizedComponent digest context entry = some component) : OfContext context component := by
  obtain ⟨-, same, -, source, -⟩ := normalizedComponent_some found
  exact ⟨by rw [same]; rfl, by rw [same]; rfl, source⟩

variable (digest context asset) in
theorem assetComponents_observed (sourceId : String) :
    (observedBySource (assetComponents digest context asset) (context.scope sourceId)).length =
      (assetComponents digest context asset).countP (showsSource sourceId) := by
  apply observedBySource_length
  · intro component member
    obtain ⟨entry, -, found⟩ := assetComponents_from member
    exact normalizedComponent_ofContext found
  · exact nodup_bestByKey _

variable (canonicalCollectionId) in
theorem counts_iff (entries : EntriesAdmitted sources (componentEntries asset)) :
    (∀ snapshot ∈ sources.map fun source => snapshotOf asset context canonicalCollectionId source source.sourceId,
        (observedBySource (assetComponents digest context asset) snapshot.scope).length = snapshot.recordCount) ↔
      RecordsKept digest context (componentEntries asset) := by
  simp only [List.forall_mem_map]
  constructor
  · intro equal before entry after split native
    have member : entry ∈ componentEntries asset := by
      rw [split]
      exact List.mem_append_right _ List.mem_cons_self
    obtain ⟨sourceId, named⟩ := Option.isSome_iff_exists.mp native
    obtain ⟨source, listed, same⟩ := entries.reported entry member sourceId named
    have count := equal source listed
    rw [← same] at named
    exact ((shown_count digest context entries.names source.sourceId).2.mp ((assetComponents_observed digest asset context source.sourceId).symm.trans count))
      before entry after split (beq_iff_eq.mpr named)
  · intro kept source listed
    refine (assetComponents_observed digest asset context source.sourceId).trans
      ((shown_count digest context entries.names source.sourceId).2.mpr ?_)
    intro before entry after split named
    apply kept before entry after split
    rw [isNative, eq_of_beq named]
    rfl

theorem quiet_sources (entries : EntriesAdmitted sources (componentEntries asset)) :
    ∀ snapshot ∈ sources.map fun source => snapshotOf asset context canonicalCollectionId source source.sourceId,
      snapshot.collectionStatus = .failed ∨ snapshot.collectionStatus = .unsupported →
        (observedBySource (assetComponents digest context asset) snapshot.scope).length = 0 := by
  simp only [List.forall_mem_map]
  intro source listed unsuccessful
  have silent : (componentEntries asset).countP (isFromSource source.sourceId) = 0 := by
    rw [List.countP_eq_zero]
    intro entry member named
    obtain ⟨unfailed, supported⟩ := entries.succeeded entry member source listed named
    rcases unsuccessful with failed | unsupported
    · exact unfailed failed
    · exact supported unsupported
  have bound := (shown_count digest context entries.names source.sourceId).1
  rw [silent] at bound
  exact (assetComponents_observed digest asset context source.sourceId).trans (Nat.le_zero.mp bound)

theorem sources_known (entries : EntriesAdmitted sources (componentEntries asset)) :
    (nativeComponents (assetComponents digest context asset)).all (fun item =>
      (sources.map fun source => snapshotOf asset context canonicalCollectionId source source.sourceId).any
        (·.scope = item.1.scope)) = true := by
  rw [List.all_eq_true]
  intro item member
  obtain ⟨component, listed, reference⟩ := List.mem_filterMap.mp member
  obtain ⟨native, refers, rfl⟩ := Option.map_eq_some_iff.mp reference
  obtain ⟨entry, among, found⟩ := assetComponents_from listed
  have named := (nativeReference_source ((normalizedComponent_some found).2.2.1.symm.trans refers)).1
  obtain ⟨source, reported, same⟩ := entries.reported entry among _ named
  rw [List.any_eq_true]
  refine ⟨_, List.mem_map_of_mem reported, ?_⟩
  rw [decide_eq_true_eq, presenceKey_scope (normalizedComponent_ofContext found), ← same]
  rfl

end

section

variable {selected : List String} {hub : Hub} {store : ComponentStore}

theorem accepted_without_snapshots (empty : projectedSnapshots printed envelope selected = []) :
    projectSourcePresence printed digest envelope selected hub store ≠ .error .recordCountMismatch ∧
      projectSourcePresence printed digest envelope selected hub store ≠ .error .snapshotMissing := by
  have done : projectSourcePresence printed digest envelope selected hub store = .ok store := by
    rw [projectSourcePresence, empty]
    rfl
  rw [done]
  exact ⟨nofun, nofun⟩

theorem snapshots_unreported (reported : envelope.softwareSources = []) :
    projectedSnapshots printed envelope selected = [] := by
  rw [projectedSnapshots, List.flatMap_eq_nil_iff]
  intro asset _
  rw [componentSourceSnapshotsForAsset]
  split
  · split
    · show (envelope.softwareSources.take 8).filterMap _ = []
      rw [reported]
      rfl
    · rfl
  · rfl

theorem recordsKept_unreported (traced : EnvelopeTraced inventory envelope) (reported : envelope.softwareSources = []) :
    NativeRecordsKept printed digest envelope selected := by
  intro asset member context _ before entry after split native
  obtain ⟨canonical, listed, same⟩ := evaluatedAssets_entries traced member
  obtain ⟨sourceId, named⟩ := Option.isSome_iff_exists.mp native
  have among : entry ∈ canonical.components.map envelopeEntry := by
    rw [← same, split]
    exact List.mem_append_right _ List.mem_cons_self
  obtain ⟨source, found, -⟩ := (entriesAdmitted traced listed).reported entry among sourceId named
  rw [reported] at found
  cases found

theorem asset_accepted_iff (traced : EnvelopeTraced inventory envelope) (reported : envelope.softwareSources ≠ []) {asset : Json}
    (one : evaluatedAssets printed envelope selected = [asset]) {context : EntryContext}
    (found : entryContext asset envelope.persistencePayload envelope.ingestedAt envelope.sourceAuthenticated = some context)
    (unobstructed : Unobstructed hub store (projectedSnapshots printed envelope selected)) :
    (projectSourcePresence printed digest envelope selected hub store ≠ .error .recordCountMismatch ∧
        projectSourcePresence printed digest envelope selected hub store ≠ .error .snapshotMissing) ↔
      RecordsKept digest context (componentEntries asset) := by
  have admitted := sourcesAdmitted traced
  have entries : EntriesAdmitted envelope.softwareSources (componentEntries asset) := by
    have member : asset ∈ evaluatedAssets printed envelope selected := by
      rw [one]
      exact List.mem_singleton_self asset
    obtain ⟨canonical, listed, same⟩ := evaluatedAssets_entries traced member
    rw [same]
    exact entriesAdmitted traced listed
  have source := entryContext_source found
  have endpoint := sourceContext_endpoint traced asset
  rw [← source] at endpoint
  have snapshots : projectedSnapshots printed envelope selected = envelope.softwareSources.map fun source =>
      snapshotOf asset context envelope.canonicalCollectionId source source.sourceId := by
    rw [projectedSnapshots, one, List.flatMap_singleton, componentSourceSnapshotsForAsset, found, Option.filter_some,
      if_pos traced.collection]
    simp only [endpoint, decide_true, Bool.and_self, if_true]
    exact sourceSnapshots_eq admitted
  have components : projectedComponents printed digest envelope selected = assetComponents digest context asset := by
    rw [projectedComponents, one, List.flatMap_singleton, normalizeComponentsForAsset, found]
    rfl
  rw [snapshots] at unobstructed
  rw [projectSourcePresence, snapshots, components, ← counts_iff envelope.canonicalCollectionId entries]
  have filled : (envelope.softwareSources.map fun source =>
      snapshotOf asset context envelope.canonicalCollectionId source source.sourceId) ≠ [] := by
    rw [ne_eq, List.map_eq_nil_iff]
    exact reported
  obtain ⟨first, others, split⟩ := List.exists_cons_of_ne_nil reported
  apply persist_raises_iff filled
  · apply lockSite_ok context.siteId filled
    · simp only [List.forall_mem_map]
      exact fun _ _ => rfl
    · exact unobstructed.configured _ (List.mem_map_of_mem (a := first) (by rw [split]; exact List.mem_cons_self))
  · exact validateSnapshots_ok _ admitted [] (fun _ _ => List.not_mem_nil)
      (fun snapshot member => by
        have bound := unobstructed.bound snapshot member
        obtain ⟨source, -, rfl⟩ := List.mem_map.mp member
        exact bound)
      unobstructed.ordered
  · exact sources_known entries
  · exact quiet_sources entries

end

/-- The evidence of an endpoint's native sources is accepted exactly when every record keeps its name, its id and its
place among the components of the asset. -/
theorem native_evidence_accepted (printed : Json → String) (digest : List String → HexDigest)
    (payloadDigest : EndpointInventoryRequest → String) (inventory : AdmittedInventory) (agent : AgentContext)
    (envelope : CanonicalInventoryEnvelope) (selected : List String) (hub : Hub) (store : ComponentStore)
    (built : endpointEnvelope printed digest payloadDigest inventory agent = .ok envelope)
    (unobstructed : Unobstructed hub store (projectedSnapshots printed envelope selected)) :
    (projectSourcePresence printed digest envelope selected hub store ≠ .error .recordCountMismatch ∧
        projectSourcePresence printed digest envelope selected hub store ≠ .error .snapshotMissing) ↔
      NativeRecordsKept printed digest envelope selected := by
  have traced := envelopeTraced built
  by_cases reported : envelope.softwareSources = []
  · exact iff_of_true (accepted_without_snapshots (snapshots_unreported reported)) (recordsKept_unreported traced reported)
  · rcases evaluatedAssets_single printed traced selected reported with none | ⟨asset, one⟩
    · refine iff_of_true (accepted_without_snapshots ?_) ?_
      · rw [projectedSnapshots, none]
        rfl
      · intro asset member
        rw [none] at member
        cases member
    · cases found : entryContext asset envelope.persistencePayload envelope.ingestedAt envelope.sourceAuthenticated with
      | none =>
        refine iff_of_true (accepted_without_snapshots ?_) ?_
        · rw [projectedSnapshots, one, List.flatMap_singleton, componentSourceSnapshotsForAsset, found]
          split
          · rename_i matched
            cases matched
          · rfl
        · intro other member context known
          rw [one, List.mem_singleton] at member
          rw [member, found] at known
          cases known
      | some context =>
        rw [asset_accepted_iff traced reported one found unobstructed, NativeRecordsKept, one]
        simp only [List.forall_mem_singleton, found, Option.some.injEq, forall_eq']

def sampleTime : Time := 1782864000000000

/-- One entry of the uninstall registry; two of them may differ in the version only. -/
def sampleTool (record version : String) : ComponentObservation where
  componentType := .application
  ecosystem := "generic"
  name := "Tool"
  version := some version
  vendor := some "Acme"
  packageManager := some "windows-registry"
  collectionSourceId := some "windows-uninstall-64"
  sourceRecordId := some record
  evidenceMethod := some "windows-uninstall-registry"

def sampleSource : NativeSoftwareSourceResult where
  sourceId := "windows-uninstall-64"
  platform := .windows
  status := .complete
  observedAt := sampleTime
  recordCount := 2

def sampleInventory : AdmittedInventory where
  inventoryBatchId := "batch-01"
  observedAt := sampleTime
  isComplete := true
  softwareSources := [sampleSource]
  assets := [{ assetId := some "host-1", components := [sampleTool "tool-1" "1", sampleTool "tool-2" "2"] }]
  receivedAt := sampleTime
  admitted := by decide_cbv

def sampleAgent : AgentContext where
  siteId := "lab"
  agentId := "agent_00000000000000000000000000000001"
  credentialId := "acred_00000000000000000000000000000001"

def sampleRecord (record : String) : String :=
  "\x1f".intercalate ["generic", "acme", "", "tool", "windows-uninstall-64", record, "windows-uninstall-registry"]

/-- The digests of the source, the collection and the two observations. -/
def sampleDigest (parts : List String) : HexDigest :=
  if parts.length = 4 then ⟨"4ed99290a0aecda9b5a95072969ff10b", by decide⟩
  else if parts.length = 3 then ⟨"350707ebf0ba7f4386d892f39ba7b067", by decide⟩
  else if parts.contains (sampleRecord "tool-1") then ⟨"b69cadbc033d3ab465e81b13a4e48f63", by decide⟩
  else ⟨"b64244bc342627705de5814b634e4e7b", by decide⟩

def samplePayloadDigest (_ : EndpointInventoryRequest) : String :=
  "928abc55b8f7a6f9b758ba3a079279251a8ee578400c2254685c02ded99a289f"

def samplePrinted (_ : Json) : String := ""

def sampleBuilt : Except EnvelopeError CanonicalInventoryEnvelope :=
  endpointEnvelope samplePrinted sampleDigest samplePayloadDigest sampleInventory sampleAgent

def sampleHub : Hub where
  configured siteId := siteId == "lab"
  authority _ := some
    { siteId := "lab"
      sourceId := "src_4ed99290a0aecda9b5a95072969ff10b"
      adapterType := "endpoint-agent"
      ingestionStatus := "accepted"
      evaluationState := "running"
      sourceAuthority := "authenticated-endpoint"
      authenticationClass := "bound-credential" }

def raised {α : Type} (result : Except PresenceError α) : Option PresenceError :=
  match result with
  | .error error => some error
  | .ok _ => none

theorem sampleBuilt_checked : sampleBuilt.toOption.any (fun envelope =>
    ((projectedSnapshots samplePrinted envelope ["host-1"]).all fun snapshot =>
      sampleHub.configured snapshot.scope.siteId &&
        sampleHub.authority snapshot.canonicalCollectionId == some (boundEndpoint snapshot) && inOrder .empty snapshot) &&
    raised (projectSourcePresence samplePrinted sampleDigest envelope ["host-1"] sampleHub {}) ==
      some .recordCountMismatch) = true := by
  decide +kernel

theorem sampleBuilt_isSome : sampleBuilt.toOption.isSome = true := by
  obtain ⟨built, _⟩ := (Option.any_eq_true_iff_get _ _).mp sampleBuilt_checked
  exact built

def sampleEnvelope : CanonicalInventoryEnvelope := sampleBuilt.toOption.get sampleBuilt_isSome

theorem eq_ok_get {ε α : Type} (built : Except ε α) (some : built.toOption.isSome = true) :
    built = .ok (built.toOption.get some) := by
  cases built with
  | error error => cases some
  | ok value => rfl

theorem sample_snapshots : (projectedSnapshots samplePrinted sampleEnvelope ["host-1"]).all (fun snapshot =>
    sampleHub.configured snapshot.scope.siteId &&
      sampleHub.authority snapshot.canonicalCollectionId == some (boundEndpoint snapshot) && inOrder .empty snapshot) = true := by
  obtain ⟨_, checked⟩ := (Option.any_eq_true_iff_get _ _).mp sampleBuilt_checked
  exact (Bool.and_eq_true_iff.mp checked).1

theorem sample_unobstructed : Unobstructed sampleHub {} (projectedSnapshots samplePrinted sampleEnvelope ["host-1"]) := by
  have each := List.all_eq_true.mp sample_snapshots
  simp only [Bool.and_eq_true, beq_iff_eq] at each
  exact ⟨fun snapshot member => (each snapshot member).1.1, fun snapshot member => (each snapshot member).1.2,
    fun snapshot member => (each snapshot member).2⟩

theorem native_evidence_accepted_sample :
    (projectSourcePresence samplePrinted sampleDigest sampleEnvelope ["host-1"] sampleHub {} ≠ .error .recordCountMismatch ∧
        projectSourcePresence samplePrinted sampleDigest sampleEnvelope ["host-1"] sampleHub {} ≠ .error .snapshotMissing) ↔
      NativeRecordsKept samplePrinted sampleDigest sampleEnvelope ["host-1"] :=
  native_evidence_accepted samplePrinted sampleDigest samplePayloadDigest sampleInventory sampleAgent sampleEnvelope ["host-1"]
    sampleHub {} (eq_ok_get sampleBuilt sampleBuilt_isSome) sample_unobstructed

/-- The two versions have one component id, and the evidence of a complete source is refused. -/
theorem same_product_refused :
    raised (projectSourcePresence samplePrinted sampleDigest sampleEnvelope ["host-1"] sampleHub {}) =
      some .recordCountMismatch := by
  obtain ⟨_, checked⟩ := (Option.any_eq_true_iff_get _ _).mp sampleBuilt_checked
  exact eq_of_beq (Bool.and_eq_true_iff.mp checked).2

end OpenAssetWatch.Ingestion
