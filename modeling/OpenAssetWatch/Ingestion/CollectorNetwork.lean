import OpenAssetWatch.Ingestion.Standing

namespace OpenAssetWatch.Ingestion

open Library Text Component

/-- The list that a dictionary of the network keeps its observations in. -/
def listedIn (entries : List (String × Json)) : Option (String × List Json) :=
  match (Json.object entries).get "neighbors" with
  | .array items => some ("neighbors", items)
  | _ =>
    match (Json.object entries).get "observations" with
    | .array items => some ("observations", items)
    | _ => none

def networkObservationCount : Json → Nat
  | .array items => items.length
  | .object entries =>
    match listedIn entries with
    | some (_, items) => items.length
    | none => if entries.isEmpty then 0 else 1
  | _ => 0

/-- `_network_entries` of a payload with this network. -/
def networkEntries : Json → List Json
  | .array items => items.filter (·.isObject)
  | .object entries => ((listedIn entries).elim [] Prod.snd).filter (·.isObject)
  | _ => []

def CollectorInventoryRequest.network (payload : CollectorInventoryRequest) : Json :=
  (payload.fields.lookup "network").getD .null

/-- Where an object stands in a network: in its list, under a key, or in the list under a key. -/
inductive NetworkPlace where
  | item (index : Nat)
  | value (key : String)
  | below (key : String) (index : Nat)
deriving DecidableEq

def placed (place : Nat → NetworkPlace) (items : List Json) : List (NetworkPlace × Json) :=
  (items.zipIdx.filter (·.1.isObject)).map fun (item, index) => (place index, item)

/-- The objects that the legacy normalization reads, each with its place. -/
def placedEntries : Json → List (NetworkPlace × Json)
  | .array items => placed .item items
  | .object entries => (listedIn entries).elim [] fun (key, items) => placed (.below key) items
  | _ => []

/-- The objects that the adapter makes assets of, each with its place. -/
def placedItems : Json → List (NetworkPlace × Json)
  | .array items => placed .item items
  | .object entries => (entries.filter (·.2.isObject)).map fun (key, value) => (.value key, value)
  | _ => []

theorem placed_values (place : Nat → NetworkPlace) (items : List Json) :
    (placed place items).map Prod.snd = items.filter (·.isObject) := by
  unfold placed
  rw [List.map_map]
  show (items.zipIdx.filter ((·.isObject) ∘ Prod.fst)).map Prod.fst = _
  rw [← List.filter_map, List.zipIdx_map_fst]

theorem placedEntries_values (network : Json) : (placedEntries network).map Prod.snd = networkEntries network := by
  cases network with
  | array items => exact placed_values _ items
  | object entries =>
    show ((listedIn entries).elim [] fun (key, items) => placed (.below key) items).map Prod.snd =
      ((listedIn entries).elim [] Prod.snd).filter (·.isObject)
    cases listedIn entries with
    | none => rfl
    | some listed => exact placed_values _ listed.2
  | _ => rfl

theorem placedItems_values (safe : Json) :
    (placedItems (safe.get "network")).map Prod.snd = (networkItems safe).filter (·.isObject) := by
  unfold networkItems
  cases safe.get "network" with
  | array items => exact placed_values _ items
  | object entries =>
    show ((entries.filter ((·.isObject) ∘ Prod.snd)).map _).map Prod.snd = _
    rw [List.map_map, List.filter_map]
    rfl
  | _ => rfl

theorem isObject_withoutAuthority (value : Json) : (withoutAuthority value).isObject = value.isObject := by
  cases value with
  | object entries =>
    unfold withoutAuthority
    rfl
  | array items =>
    unfold withoutAuthority
    rfl
  | _ => rfl

theorem get_withoutAuthority {key : String} (kept : isAuthorityField key = false) (value : Json) :
    (withoutAuthority value).get key = withoutAuthority (value.get key) := by
  cases value with
  | object entries =>
    rw [withoutAuthority_object, Json.get_object, Json.get_object, lookup_entriesWithoutAuthority kept]
    cases entries.lookup key with
    | none => rfl
    | some found => rfl
  | array items =>
    show (withoutAuthority (.array items)).get key = .null
    unfold withoutAuthority
    rfl
  | _ => rfl

theorem placed_withoutAuthority (place : Nat → NetworkPlace) (items : List Json) :
    placed place (items.map withoutAuthority) = (placed place items).map fun (place, item) => (place, withoutAuthority item) := by
  unfold placed
  rw [List.zipIdx_map, List.filter_map, List.map_map, List.map_map]
  show ((items.zipIdx.filter fun entry => (withoutAuthority entry.1).isObject).map _) = _
  simp only [isObject_withoutAuthority]
  rfl

theorem lookup_filterMap_key {entries : List (String × Json)} {key : String} {keys : List String} (member : key ∈ keys) :
    (keys.filterMap fun key => (entries.lookup key).map fun value => (key, value)).lookup key = entries.lookup key := by
  induction keys with
  | nil => cases member
  | cons name rest ih =>
    rw [List.filterMap_cons]
    by_cases same : key = name
    · subst same
      cases found : entries.lookup key with
      | some value => exact List.lookup_cons_self
      | none =>
        show List.lookup key (rest.filterMap _) = none
        apply List.lookup_eq_none_iff.mpr
        intro entry listed
        obtain ⟨other, -, here⟩ := List.mem_filterMap.mp listed
        obtain ⟨value, present, rfl⟩ := Option.map_eq_some_iff.mp here
        apply bne_iff_ne.mpr
        rintro rfl
        rw [found] at present
        cases present
    · have later := ih ((List.mem_cons.mp member).resolve_left same)
      cases entries.lookup name with
      | none => exact later
      | some value =>
        show List.lookup key ((name, value) :: _) = _
        rw [DictEntries.lookup_cons, if_neg same]
        exact later

theorem known_network (payload : CollectorInventoryRequest) : payload.known.get "network" = payload.network := by
  unfold CollectorInventoryRequest.known CollectorInventoryRequest.network
  rw [Json.get_object, lookup_filterMap_key (by decide)]

theorem submitted_network (payload : CollectorInventoryRequest) :
    (withoutAuthority payload.known).get "network" = withoutAuthority payload.network := by
  rw [get_withoutAuthority (by decide), known_network]

theorem mem_placed {place : Nat → NetworkPlace} {items : List Json} {entry : NetworkPlace × Json}
    (member : entry ∈ placed place items) : (∃ index, entry.1 = place index) ∧ entry.2.isObject = true := by
  obtain ⟨⟨item, index⟩, listed, rfl⟩ := List.mem_map.mp member
  exact ⟨⟨index, rfl⟩, (List.mem_filter.mp listed).2⟩

theorem mem_placedItems {network : Json} {entry : NetworkPlace × Json} (member : entry ∈ placedItems network) :
    (∀ key index, entry.1 ≠ .below key index) ∧ entry.2.isObject = true := by
  cases network with
  | array items =>
    obtain ⟨⟨position, here⟩, object⟩ := mem_placed member
    exact ⟨fun key index same => NetworkPlace.noConfusion (here.symm.trans same), object⟩
  | object entries =>
    obtain ⟨⟨name, value⟩, listed, rfl⟩ := List.mem_map.mp member
    exact ⟨fun key index same => NetworkPlace.noConfusion same, (List.mem_filter.mp listed).2⟩
  | _ => cases member

theorem nodup_placed {place : Nat → NetworkPlace} (injective : Function.Injective place) (items : List Json) :
    ((placed place items).map Prod.fst).Nodup := by
  unfold placed
  rw [List.map_map]
  show ((items.zipIdx.filter _).map (place ∘ Prod.snd)).Nodup
  rw [← List.map_map]
  apply List.Nodup.map injective
  apply List.Nodup.sublist (List.filter_sublist.map Prod.snd)
  rw [List.zipIdx_map_snd]
  exact List.nodup_range'

section

variable (printed : Json → String) (digest : List String → HexDigest)

/-- What the adapter makes assets of: the device, which has no place in the network, and the objects of the network. -/
def legacySources (safe : Json) : List (Option NetworkPlace × Json) :=
  (collectorDevice printed safe ("legacy_" ++ (digest [(collectorNames printed safe).identityClaim]).text)).toList.map
      (fun device => (none, device)) ++
    (placedItems (safe.get "network")).filterMap fun (place, item) => (collectorNeighbour item).map fun mapped => (some place, mapped)

/-- One asset of the envelope, and no other, is made of the object at this place. -/
def BecomesAsset (payload : CollectorInventoryRequest) (envelope : AdaptedEnvelope) (entry : NetworkPlace × Json) : Prop :=
  ∃! position, ∃ mapped asset, collectorNeighbour (withoutAuthority entry.2) = some mapped ∧
    (legacySources printed digest (withoutAuthority payload.known))[position]? = some (some entry.1, mapped) ∧
    envelope.assets[position]? = some asset ∧ canonicalAsset printed mapped position = .ok asset

variable {printed digest} {jsonDigest : Json → String} {payload : CollectorInventoryRequest}
  {authentication : AuthenticationClass} {receivedAt : Time} {envelope : AdaptedEnvelope}

theorem filterMap_collectorNeighbour (items : List Json) :
    (items.filter (·.isObject)).filterMap collectorNeighbour = items.filterMap collectorNeighbour := by
  rw [List.filterMap_filter]
  congr 1
  funext item
  cases item <;> rfl

theorem legacySources_values (safe : Json) :
    (legacySources printed digest safe).map Prod.snd =
      (collectorDevice printed safe ("legacy_" ++ (digest [(collectorNames printed safe).identityClaim]).text)).toList ++
        (networkItems safe).filterMap collectorNeighbour := by
  unfold legacySources
  rw [List.map_append, List.map_map, ← filterMap_collectorNeighbour, ← placedItems_values, List.filterMap_map,
    List.map_filterMap]
  congr 1
  · exact List.map_id _
  · congr 1
    funext entry
    show ((collectorNeighbour entry.2).map _).map Prod.snd = collectorNeighbour entry.2
    cases collectorNeighbour entry.2 with
    | none => rfl
    | some mapped => rfl

theorem legacyCollectorEnvelope_assets
    (found : legacyCollectorEnvelope printed digest jsonDigest payload authentication receivedAt = .ok envelope) :
    List.Forall₂ (fun source asset => canonicalAsset printed source.1 source.2 = .ok asset)
      ((legacySources printed digest (withoutAuthority payload.known)).map Prod.snd).zipIdx envelope.assets := by
  unfold legacyCollectorEnvelope at found
  obtain ⟨safe, bounded, found⟩ := bind_eq_ok.mp found
  obtain ⟨-, found⟩ := require_bind_eq_ok.mp found
  obtain ⟨assets, mapped, found⟩ := bind_eq_ok.mp found
  obtain ⟨submission, -, found⟩ := bind_eq_ok.mp found
  obtain ⟨-, listed⟩ := standing_envelopeOf found InventoryMode.noConfusion
  obtain ⟨-, -, rfl⟩ := boundedJson_eq_ok.mp bounded
  rw [listed, legacySources_values]
  exact mapM_eq_ok.mp mapped

theorem exists_collectorNeighbour {item : Json} (object : item.isObject = true) :
    ∃ mapped, collectorNeighbour item = some mapped := by
  cases item with
  | object entries => exact ⟨_, rfl⟩
  | _ => cases object

theorem nodup_legacySources {safe : Json} {items : List Json} (listed : safe.get "network" = .array items) :
    ((legacySources printed digest safe).map Prod.fst).Nodup := by
  unfold legacySources
  rw [List.map_append, List.map_map, listed, List.nodup_append]
  have places := nodup_placed (fun a b same => NetworkPlace.item.inj same) items
  refine ⟨?_, ?_, ?_⟩
  · cases collectorDevice printed safe _ with
    | none => exact List.nodup_nil
    | some device => exact List.nodup_singleton _
  · have sources : ((placedItems (.array items)).filterMap fun (place, item) =>
        (collectorNeighbour item).map fun mapped => (some place, mapped)).map Prod.fst =
        ((placed .item items).map Prod.fst).map some := by
      rw [List.map_filterMap, List.map_map]
      apply List.filterMap_eq_map_iff_forall_eq_some.mpr
      intro entry member
      obtain ⟨mapped, here⟩ := exists_collectorNeighbour (mem_placed member).2
      show ((collectorNeighbour entry.2).map _).map Prod.fst = _
      rw [here]
      rfl
    rw [sources]
    exact places.map (Option.some_injective _)
  · intro first inDevice second inItems same
    obtain ⟨device, -, rfl⟩ := List.mem_map.mp inDevice
    obtain ⟨source, member, rfl⟩ := List.mem_map.mp inItems
    obtain ⟨entry, -, made⟩ := List.mem_filterMap.mp member
    obtain ⟨mapped, -, rfl⟩ := Option.map_eq_some_iff.mp made
    cases same

theorem source_of_placed {place : NetworkPlace} {mapped : Json}
    (member : (some place, mapped) ∈ legacySources printed digest (withoutAuthority payload.known)) :
    ∃ item, (place, item) ∈ placedItems (withoutAuthority payload.network) := by
  unfold legacySources at member
  rw [submitted_network] at member
  rcases List.mem_append.mp member with device | item
  · obtain ⟨value, -, same⟩ := List.mem_map.mp device
    cases same
  · obtain ⟨entry, listed, made⟩ := List.mem_filterMap.mp item
    obtain ⟨value, -, same⟩ := Option.map_eq_some_iff.mp made
    cases same
    exact ⟨entry.2, listed⟩

theorem becomesAsset_of_array {items : List Json} (listed : payload.network = .array items) {entry : NetworkPlace × Json}
    (member : entry ∈ placed .item items)
    (found : legacyCollectorEnvelope printed digest jsonDigest payload authentication receivedAt = .ok envelope) :
    BecomesAsset printed digest payload envelope entry := by
  have network : (withoutAuthority payload.known).get "network" = .array (items.map withoutAuthority) := by
    rw [submitted_network, listed, withoutAuthority, itemsWithoutAuthority_eq_map]
  have object : (withoutAuthority entry.2).isObject = true := by
    rw [isObject_withoutAuthority]
    exact (mem_placed member).2
  obtain ⟨mapped, made⟩ := exists_collectorNeighbour object
  have source : (some entry.1, mapped) ∈ legacySources printed digest (withoutAuthority payload.known) := by
    unfold legacySources
    apply List.mem_append_right
    rw [network]
    apply List.mem_filterMap.mpr
    refine ⟨(entry.1, withoutAuthority entry.2), ?_, ?_⟩
    · show _ ∈ placed .item (items.map withoutAuthority)
      rw [placed_withoutAuthority]
      exact List.mem_map.mpr ⟨entry, member, rfl⟩
    · show (collectorNeighbour (withoutAuthority entry.2)).map _ = _
      rw [made]
      rfl
  obtain ⟨position, inBounds, here⟩ := List.getElem_of_mem source
  have assets := legacyCollectorEnvelope_assets found
  have lengths : (legacySources printed digest (withoutAuthority payload.known)).length = envelope.assets.length := by
    rw [← assets.length_eq, List.length_zipIdx, List.length_map]
  have inAssets : position < envelope.assets.length := lengths ▸ inBounds
  have asset := assets.get (i := position) (by rw [assets.length_eq]; exact inAssets) inAssets
  refine ⟨position, ⟨mapped, envelope.assets[position], made, ?_, List.getElem?_eq_getElem inAssets, ?_⟩, ?_⟩
  · rw [List.getElem?_eq_getElem inBounds, here]
  · simpa [here] using asset
  · rintro other ⟨again, -, -, there, -⟩
    have places : ((legacySources printed digest (withoutAuthority payload.known)).map Prod.fst).Nodup :=
      nodup_legacySources network
    have inPlaces : position < ((legacySources printed digest (withoutAuthority payload.known)).map Prod.fst).length := by
      rw [List.length_map]
      exact inBounds
    apply ((List.getElem?_inj inPlaces places).mp _).symm
    rw [List.getElem?_map, List.getElem?_map, there, List.getElem?_eq_getElem inBounds, here]
    rfl

theorem not_becomesAsset_below {entry : NetworkPlace × Json} {key : String} {index : Nat} (nested : entry.1 = .below key index) :
    ¬ BecomesAsset printed digest payload envelope entry := by
  rintro ⟨position, ⟨mapped, asset, -, source, -⟩, -⟩
  obtain ⟨item, listed⟩ := source_of_placed (List.mem_of_getElem? source)
  exact (mem_placedItems listed).1 key index nested

/-- The adapter takes the values of a dictionary and not the objects of its list of neighbors or of observations. -/
theorem network_becomes_assets_iff
    (adapted : legacyCollectorEnvelope printed digest jsonDigest payload authentication receivedAt = .ok envelope) :
    (∀ entry ∈ placedEntries payload.network, BecomesAsset printed digest payload envelope entry) ↔
      ¬ (payload.network.isObject = true ∧ networkEntries payload.network ≠ []) := by
  rw [← placedEntries_values]
  cases network : payload.network with
  | array items =>
    constructor
    · rintro - ⟨dictionary, -⟩
      cases dictionary
    · intro _ entry member
      exact becomesAsset_of_array network member adapted
  | object entries =>
    constructor
    · rintro kept ⟨-, some⟩
      obtain ⟨value, read⟩ := List.exists_mem_of_ne_nil _ some
      obtain ⟨entry, member, -⟩ := List.mem_map.mp read
      have nested : ∃ key index, entry.1 = .below key index := by
        change entry ∈ (listedIn entries).elim [] fun (key, items) => placed (.below key) items at member
        cases listed : listedIn entries with
        | none =>
          rw [listed] at member
          cases member
        | some list =>
          rw [listed] at member
          obtain ⟨⟨index, here⟩, -⟩ := mem_placed member
          exact ⟨list.1, index, here⟩
      obtain ⟨key, index, here⟩ := nested
      exact not_becomesAsset_below here (kept entry member)
    · intro unread entry member
      apply absurd _ unread
      refine ⟨rfl, List.ne_nil_of_mem (List.mem_map.mpr ⟨entry, member, rfl⟩)⟩
  | _ =>
    constructor
    · rintro - ⟨dictionary, -⟩
      cases dictionary
    · intro _ entry member
      cases member

end

/-- An address in a list of the network. -/
def listedAddress : CollectorInventoryRequest where
  fields := [("network", .array [.object [("ip", .string "192.0.2.10")]])]
  collectedAt := none

/-- The same address in the list of neighbors of a dictionary. -/
def nestedAddress : CollectorInventoryRequest where
  fields := [("network", .object [("neighbors", .array [.object [("ip", .string "192.0.2.10")]])])]
  collectedAt := none

theorem network_becomes_assets_sample : ∃ envelope,
    legacyCollectorEnvelope (fun _ => "") sampleIdentifier (fun _ => "0") listedAddress .legacyShared 0 = .ok envelope ∧
      ∀ entry ∈ placedEntries listedAddress.network, BecomesAsset (fun _ => "") sampleIdentifier listedAddress envelope entry := by
  have taken : (legacyCollectorEnvelope (fun _ => "") sampleIdentifier (fun _ => "0") listedAddress .legacyShared 0).isOk = true := by
    decide
  cases adapted : legacyCollectorEnvelope (fun _ => "") sampleIdentifier (fun _ => "0") listedAddress .legacyShared 0 with
  | error error =>
    rw [adapted] at taken
    cases taken
  | ok envelope =>
    refine ⟨envelope, rfl, (network_becomes_assets_iff adapted).mpr ?_⟩
    rintro ⟨dictionary, -⟩
    cases dictionary

/-- One neighbor is counted and read, and the envelope has no asset. -/
theorem nested_neighbor_lost : ∃ envelope,
    legacyCollectorEnvelope (fun _ => "") sampleIdentifier (fun _ => "0") nestedAddress .legacyShared 0 = .ok envelope ∧
      envelope.assets.length = 0 ∧ networkObservationCount nestedAddress.network = 1 ∧ (networkEntries nestedAddress.network).length = 1 ∧
      ¬ ∀ entry ∈ placedEntries nestedAddress.network, BecomesAsset (fun _ => "") sampleIdentifier nestedAddress envelope entry := by
  have taken : (legacyCollectorEnvelope (fun _ => "") sampleIdentifier (fun _ => "0") nestedAddress .legacyShared 0).toOption.map
      (·.assets.length) = some 0 := by
    decide
  cases adapted : legacyCollectorEnvelope (fun _ => "") sampleIdentifier (fun _ => "0") nestedAddress .legacyShared 0 with
  | error error =>
    rw [adapted] at taken
    cases taken
  | ok envelope =>
    rw [adapted] at taken
    refine ⟨envelope, rfl, Option.some_inj.mp taken, by decide, by decide, ?_⟩
    intro kept
    have read : (NetworkPlace.below "neighbors" 0, Json.object [("ip", .string "192.0.2.10")]) ∈
        placedEntries nestedAddress.network := List.mem_singleton.mpr rfl
    exact not_becomesAsset_below rfl (kept _ read)

end OpenAssetWatch.Ingestion
