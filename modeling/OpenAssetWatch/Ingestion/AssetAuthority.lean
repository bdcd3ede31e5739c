import OpenAssetWatch.Ingestion.Assets
import OpenAssetWatch.Library.Replacement
import OpenAssetWatch.Library.Run

namespace OpenAssetWatch.Ingestion

open Library Library.Run Text

/-- Trust before time. -/
def standing (observation : AssetObservation) : Nat ×ₗ Time :=
  toLex (observation.envelope.rank, observation.envelope.observedAt)

def yields (current incoming : AssetObservation) : Bool := standing current ≤ standing incoming

theorem site_prefix {site site' rest rest' : List Char} (own : site.all isSiteChar = true) (own' : site'.all isSiteChar = true)
    (same : site ++ ':' :: rest = site' ++ ':' :: rest') : site = site' ∧ rest = rest' := by
  induction site generalizing site' with
  | nil =>
    cases site' with
    | nil => exact ⟨rfl, (List.cons.inj same).2⟩
    | cons c _ =>
      obtain ⟨here, -⟩ := List.cons.inj same
      rw [← here] at own'
      cases own'
  | cons c site ih =>
    cases site' with
    | nil =>
      obtain ⟨here, -⟩ := List.cons.inj same
      rw [here] at own
      cases own
    | cons d site' =>
      obtain ⟨rfl, tails⟩ := List.cons.inj same
      simp only [List.all_cons, Bool.and_eq_true] at own own'
      obtain ⟨rfl, rests⟩ := ih own.2 own'.2 tails
      exact ⟨rfl, rests⟩

theorem assetKey_injective {site asset site' asset' : String} (own : site.toList.all isSiteChar = true)
    (own' : site'.toList.all isSiteChar = true) (same : assetKey site asset = assetKey site' asset') :
    site = site' ∧ asset = asset' := by
  have texts : site.toList ++ ':' :: asset.toList = site'.toList ++ ':' :: asset'.toList := by
    simpa [assetKey] using congrArg String.toList same
  obtain ⟨sites, assets⟩ := site_prefix own own' texts
  exact ⟨String.toList_injective sites, String.toList_injective assets⟩

section

variable {printed : Json → String} {envelope : CanonicalInventoryEnvelope} {observation : AssetObservation}

/-- What the normalisation gives every observation. -/
structure IsObservation (observation : AssetObservation) : Prop where
  key : observation.asset.assetKey = assetKey observation.envelope.siteId observation.asset.assetId
  site : observation.asset.siteId = observation.envelope.siteId
  observed : observation.asset.observedAt = observation.envelope.observedAt
  seen : observation.asset.lastSeenAt = observation.envelope.observedAt

theorem bounded_observed (envelope : CanonicalInventoryEnvelope) :
    boundedObservedAt envelope.observedAt envelope.ingestedAt = envelope.observedAt :=
  if_neg (not_lt.mpr envelope.notAhead)

theorem normalized_observation (member : observation ∈ envelope.observations printed) : IsObservation observation := by
  obtain ⟨asset, listed, rfl⟩ := List.mem_map.mp member
  obtain ⟨index, -, rfl⟩ := List.mem_mapIdx.mp listed
  exact ⟨rfl, rfl, bounded_observed envelope, bounded_observed envelope⟩

end

section

variable {store : AssetStore} {observation : AssetObservation} {key : String}

theorem persistAsset_authority_ne (apart : key ≠ observation.asset.assetKey) :
    (persistAsset store observation).1.authority.get? key = store.authority.get? key := by
  simp only [persistAsset]
  split
  · exact Dict.get?_update_ne _ apart _
  · rfl

theorem persistAsset_authority :
    (persistAsset store observation).1.authority.get? observation.asset.assetKey =
      if shouldReplaceAssetAuthority (store.authority.get? observation.asset.assetKey) observation.envelope.rank
        observation.envelope.observedAt then
        some (recordedAuthority (store.authority.get? observation.asset.assetKey) observation)
      else store.authority.get? observation.asset.assetKey := by
  simp only [persistAsset]
  split
  · exact Dict.get?_update_self ..
  · rfl

theorem replaces_iff {row : AuthorityRow} : shouldReplaceAssetAuthority (some row) observation.envelope.rank
      observation.envelope.observedAt = true ↔ toLex (row.trustRank, row.observedAt) ≤ standing observation := by
  simp only [shouldReplaceAssetAuthority, standing, Prod.Lex.toLex_le_toLex, Bool.or_eq_true, Bool.and_eq_true,
    decide_eq_true_eq, beq_iff_eq]
  rw [eq_comm (a := row.trustRank)]

theorem replaces_eq_yields (current incoming : AssetObservation) :
    shouldReplaceAssetAuthority (some current.authorityRow) incoming.envelope.rank incoming.envelope.observedAt =
      yields current incoming := by
  rw [Bool.eq_iff_iff, replaces_iff, yields, decide_eq_true_eq]
  rfl

/-- The turn of an observation at its own key. -/
def authorityTurn (observation : AssetObservation) (stored : Option AuthorityRow) : Option AuthorityRow :=
  if shouldReplaceAssetAuthority stored observation.envelope.rank observation.envelope.observedAt then
    some (recordedAuthority stored observation)
  else stored

theorem authority_turns (observations : List AssetObservation) (store : AssetStore) :
    (observations.foldl (fun store observation => (persistAsset store observation).1) store).authority.get? key =
      (observations.filter (·.asset.assetKey = key)).foldl (fun stored observation => authorityTurn observation stored)
        (store.authority.get? key) :=
  foldl_turns_at_key (fun key (store : AssetStore) => store.authority.get? key) (·.asset.assetKey)
    (fun store observation => (persistAsset store observation).1) authorityTurn
    (fun _ _ => persistAsset_authority) (fun _ _ _ apart => persistAsset_authority_ne apart) observations store key

theorem authority_settles (current : AssetObservation) (observations : List AssetObservation)
    (sound : ∀ observation ∈ current :: observations, IsObservation observation)
    (same : ∀ observation ∈ current :: observations, observation.asset.assetKey = key) :
    observations.foldl (fun stored observation => authorityTurn observation stored) (some current.authorityRow) =
      some (settle yields current observations).authorityRow := by
  induction observations generalizing current with
  | nil => rfl
  | cons observation rest ih =>
    have here := sound current List.mem_cons_self
    have there := sound observation (List.mem_cons_of_mem _ List.mem_cons_self)
    have keys := (here.key.symm.trans (same current List.mem_cons_self)).trans
      ((same observation (List.mem_cons_of_mem _ List.mem_cons_self)).symm.trans there.key)
    obtain ⟨sites, assets⟩ := assetKey_injective current.envelope.site observation.envelope.site keys
    have recorded : recordedAuthority (some current.authorityRow) observation = observation.authorityRow := by
      simp only [recordedAuthority, AssetObservation.authorityRow, here.site, there.site, sites, assets]
    have later (other : AssetObservation) (member : other ∈ rest) : other ∈ current :: observation :: rest :=
      List.mem_cons_of_mem _ (List.mem_cons_of_mem _ member)
    rw [List.foldl_cons, authorityTurn, replaces_eq_yields, recorded, settle_cons]
    split
    · apply ih
      · exact fun other member => sound other (List.mem_cons_of_mem _ member)
      · exact fun other member => same other (List.mem_cons_of_mem _ member)
    · apply ih
      · intro other member
        rcases List.mem_cons.mp member with rfl | member
        · exact here
        · exact sound other (later other member)
      · intro other member
        rcases List.mem_cons.mp member with rfl | member
        · exact same _ List.mem_cons_self
        · exact same other (later other member)

/-- The authority of an asset is its last observation of the greatest standing. -/
def IsAuthority (observations : List AssetObservation) : Option AuthorityRow → Prop
  | none => observations = []
  | some row => ∃ winner, LastGreatest yields observations winner ∧ row = winner.authorityRow

theorem authority_isAuthority (observations : List AssetObservation) (store : AssetStore)
    (sound : ∀ observation ∈ observations, IsObservation observation) (fresh : store.authority.get? key = none) :
    IsAuthority (observations.filter (·.asset.assetKey = key))
      ((observations.foldl (fun store observation => (persistAsset store observation).1) store).authority.get? key) := by
  rw [authority_turns, fresh]
  have own : ∀ observation ∈ observations.filter (·.asset.assetKey = key),
      IsObservation observation ∧ observation.asset.assetKey = key := by
    intro observation member
    obtain ⟨listed, same⟩ := List.mem_filter.mp member
    exact ⟨sound observation listed, of_decide_eq_true same⟩
  cases split : observations.filter (·.asset.assetKey = key) with
  | nil => rfl
  | cons first rest =>
    rw [split] at own
    have turns := authority_settles first rest (fun other member => (own other member).1) fun other member =>
      (own other member).2
    have opened : authorityTurn first none = some first.authorityRow := rfl
    rw [List.foldl_cons, opened, turns]
    refine ⟨_, settle_lastGreatest (fun a b c below above => ?_) (fun a b => ?_), rfl⟩
    · exact decide_eq_true ((of_decide_eq_true below).trans (of_decide_eq_true above))
    · exact (le_total (standing a) (standing b)).imp decide_eq_true decide_eq_true

end

/-- The descriptive columns of the row come from the observation. -/
structure DescribedBy (row : AssetRow) (asset : NormalizedAsset) : Prop where
  hostname : row.hostname = asset.hostname
  primaryIp : row.primaryIp = asset.primaryIp
  mac : row.mac = asset.mac
  os : row.os = asset.os
  platform : row.platform = asset.platform
  metadata : row.metadata = asset.metadata
  observedAt : row.observedAt = some asset.observedAt
  evidenceCount : row.evidenceCount = asset.evidenceCount

/-- No authority row is ahead of its asset. -/
def KeepsUp (store : AssetStore) : Prop :=
  ∀ key row, store.authority.get? key = some row → ∃ asset time, store.assets.get? key = some asset ∧
    asset.observedAt = some time ∧ row.observedAt ≤ time ∧ row.observedAt ≤ asset.lastSeenAt

/-- What one observation does to the assets. -/
structure ObservationLaw (store : AssetStore) (observation : AssetObservation) : Prop where
  losing : ∀ row, store.authority.get? observation.asset.assetKey = some row →
    standing observation < toLex (row.trustRank, row.observedAt) →
    (persistAsset store observation).1.assets = store.assets
  winning : (∀ row, store.authority.get? observation.asset.assetKey = some row → row.trustRank < observation.envelope.rank) →
    ∃ row, (persistAsset store observation).1.assets.get? observation.asset.assetKey = some row ∧
      DescribedBy row observation.asset
  keepsUp : KeepsUp (persistAsset store observation).1

section

variable {store : AssetStore} {observation : AssetObservation} {key : String}

theorem losing_unchanged {row : AuthorityRow} (current : store.authority.get? observation.asset.assetKey = some row)
    (weaker : standing observation < toLex (row.trustRank, row.observedAt)) : (persistAsset store observation).1 = store := by
  have kept := mt replaces_iff.mp (not_le.mpr weaker)
  simp only [persistAsset, current, kept, Bool.false_eq_true, if_false]

theorem upserted_row (assets : AssetTable) (asset : NormalizedAsset) : ∃ row time,
    (upsertControlTowerAsset assets asset).get? asset.assetKey = some row ∧ row.observedAt = some time ∧
      asset.observedAt ≤ time ∧ asset.lastSeenAt ≤ row.lastSeenAt := by
  rw [upsertControlTowerAsset, Dict.get?_update_self]
  cases stored : assets.get? asset.assetKey with
  | none => exact ⟨_, _, rfl, rfl, le_rfl, le_rfl⟩
  | some row =>
    refine ⟨_, _, rfl, rfl, ?_, le_max_right ..⟩
    cases row.observedAt with
    | none => exact le_rfl
    | some time => exact le_max_right ..

theorem overridden_row (assets : AssetTable) (asset : NormalizedAsset) : ∃ row,
    (overrideAsset (upsertControlTowerAsset assets asset) asset).get? asset.assetKey = some row ∧
      DescribedBy row asset ∧ row.lastSeenAt = asset.lastSeenAt := by
  obtain ⟨stored, -, upserted, -⟩ := upserted_row assets asset
  rw [overrideAsset, upserted]
  exact ⟨_, Dict.get?_update_self .., ⟨rfl, rfl, rfl, rfl, rfl, rfl, rfl, rfl⟩, rfl⟩

theorem upserted_ne {assets : AssetTable} {asset : NormalizedAsset} (apart : key ≠ asset.assetKey) :
    (upsertControlTowerAsset assets asset).get? key = assets.get? key := Dict.get?_update_ne _ apart _

theorem overridden_ne {assets : AssetTable} {asset : NormalizedAsset} (apart : key ≠ asset.assetKey) :
    (overrideAsset assets asset).get? key = assets.get? key := by
  rw [overrideAsset]
  split
  · rfl
  · exact Dict.get?_update_ne _ apart _

theorem persistAsset_assets_ne (apart : key ≠ observation.asset.assetKey) :
    (persistAsset store observation).1.assets.get? key = store.assets.get? key := by
  simp only [persistAsset]
  split
  · simp only
    split
    · rw [overridden_ne apart, upserted_ne apart]
    · exact upserted_ne apart
  · rfl

theorem recorded_time (stored : Option AuthorityRow) :
    (recordedAuthority stored observation).observedAt = observation.envelope.observedAt := by
  cases stored <;> rfl

theorem replaced_keepsUp (sound : IsObservation observation)
    (replaced : shouldReplaceAssetAuthority (store.authority.get? observation.asset.assetKey) observation.envelope.rank
      observation.envelope.observedAt = true) : ∃ asset time,
    (persistAsset store observation).1.assets.get? observation.asset.assetKey = some asset ∧
      asset.observedAt = some time ∧ observation.envelope.observedAt ≤ time ∧
        observation.envelope.observedAt ≤ asset.lastSeenAt := by
  simp only [persistAsset, replaced, if_true]
  split
  · obtain ⟨row, stored, described, seen⟩ := overridden_row store.assets observation.asset
    refine ⟨row, _, stored, described.observedAt, ?_, ?_⟩
    · rw [sound.observed]
    · rw [seen, sound.seen]
  · obtain ⟨row, time, stored, observed, later, seen⟩ := upserted_row store.assets observation.asset
    rw [sound.observed] at later
    rw [sound.seen] at seen
    exact ⟨row, time, stored, observed, later, seen⟩

theorem persistAsset_keepsUp (keepsUp : KeepsUp store) (sound : IsObservation observation) :
    KeepsUp (persistAsset store observation).1 := by
  intro key row current
  by_cases here : key = observation.asset.assetKey
  · subst here
    rw [persistAsset_authority] at current
    split at current
    · rename_i replaced
      have time : row.observedAt = observation.envelope.observedAt := by
        rw [← Option.some.inj current]
        exact recorded_time _
      rw [time]
      exact replaced_keepsUp sound replaced
    · rename_i kept
      have same : (persistAsset store observation).1 = store := by
        simp only [persistAsset, kept, Bool.false_eq_true, if_false]
      rw [same]
      exact keepsUp _ _ current
  · rw [persistAsset_authority_ne here] at current
    rw [persistAsset_assets_ne here]
    exact keepsUp key row current

theorem winning_described (stronger : ∀ row, store.authority.get? observation.asset.assetKey = some row →
      row.trustRank < observation.envelope.rank) : ∃ row,
    (persistAsset store observation).1.assets.get? observation.asset.assetKey = some row ∧
      DescribedBy row observation.asset := by
  have all : (store.authority.get? observation.asset.assetKey).all (·.trustRank < observation.envelope.rank) = true := by
    cases current : store.authority.get? observation.asset.assetKey with
    | none => rfl
    | some row => exact decide_eq_true (stronger row current)
  have replaced : shouldReplaceAssetAuthority (store.authority.get? observation.asset.assetKey) observation.envelope.rank
      observation.envelope.observedAt = true := by
    cases current : store.authority.get? observation.asset.assetKey with
    | none => rfl
    | some row =>
      rw [shouldReplaceAssetAuthority, decide_eq_true (stronger row current)]
      rfl
  obtain ⟨row, stored, described, -⟩ := overridden_row store.assets observation.asset
  refine ⟨row, ?_, described⟩
  simp only [persistAsset, replaced, all, if_true]
  exact stored

theorem persistAsset_law (keepsUp : KeepsUp store) (sound : IsObservation observation) :
    ObservationLaw store observation where
  losing _ current weaker := by rw [losing_unchanged current weaker]
  winning := winning_described
  keepsUp := persistAsset_keepsUp keepsUp sound

end

section

variable (printed : Json → String)

theorem acceptAssets_eq (store : AssetStore) (envelope : CanonicalInventoryEnvelope) :
    acceptAssets printed store envelope =
      (envelope.observations printed).foldl (fun store observation => (persistAsset store observation).1) store := by
  rw [acceptAssets, persistAssets]
  generalize envelope.observations printed = observations
  obtain ⟨state, start⟩ : ∃ state : AssetStore × List String, (store, []) = state := ⟨_, rfl⟩
  rw [start, show store = state.1 from congrArg Prod.fst start]
  clear start
  induction observations generalizing state with
  | nil => rfl
  | cons observation rest ih => exact ih _

theorem accepted_eq (store : AssetStore) (envelopes : List CanonicalInventoryEnvelope) :
    envelopes.foldl (acceptAssets printed) store = (envelopes.flatMap (·.observations printed)).foldl
      (fun store observation => (persistAsset store observation).1) store := by
  induction envelopes generalizing store with
  | nil => rfl
  | cons envelope rest ih => rw [List.foldl_cons, ih, List.flatMap_cons, List.foldl_append, acceptAssets_eq]

theorem mem_observations {observation : AssetObservation} {envelopes : List CanonicalInventoryEnvelope}
    (member : observation ∈ envelopes.flatMap (·.observations printed)) : IsObservation observation := by
  obtain ⟨envelope, -, listed⟩ := List.mem_flatMap.mp member
  exact normalized_observation listed

/-- Whatever assets there are before the first envelope, the authority of every asset is its last observation of the
greatest trust and time, and the assets follow it. -/
theorem asset_authority (legacy : AssetTable) (envelopes : List CanonicalInventoryEnvelope) :
    (∀ key, IsAuthority ((envelopes.flatMap (·.observations printed)).filter (·.asset.assetKey = key))
      ((envelopes.foldl (acceptAssets printed) { assets := legacy }).authority.get? key)) ∧
    Along (fun store observation => (persistAsset store observation).1) ObservationLaw { assets := legacy }
      (envelopes.flatMap (·.observations printed)) := by
  constructor
  · intro key
    rw [accepted_eq]
    exact authority_isAuthority _ _ (fun observation member => mem_observations printed member) rfl
  · have sound : Along (fun store observation => (persistAsset store observation).1) (fun _ => IsObservation)
        { assets := legacy } (envelopes.flatMap (·.observations printed)) :=
      along_of_forall fun observation member => mem_observations printed member
    have fresh : KeepsUp { assets := legacy } := by
      intro key row current
      cases current
    refine along_of_admitted KeepsUp (fun store observation keepsUp sound => ?_) fresh sound
    exact ⟨persistAsset_law keepsUp sound, persistAsset_keepsUp keepsUp sound⟩

end

end OpenAssetWatch.Ingestion
