import OpenAssetWatch.Ingestion.EndpointEnvelope

namespace OpenAssetWatch.Ingestion

open Library Text
open Text Component

mutual

/-- A value without its authority fields, at any depth. -/
def withoutAuthority : Json → Json
  | .object entries => .object (entriesWithoutAuthority entries)
  | .array items => .array (itemsWithoutAuthority items)
  | value => value

def entriesWithoutAuthority : List (String × Json) → List (String × Json)
  | [] => []
  | (key, value) :: rest =>
    if isAuthorityField key then entriesWithoutAuthority rest
    else (key, withoutAuthority value) :: entriesWithoutAuthority rest

def itemsWithoutAuthority : List Json → List Json
  | [] => []
  | item :: rest => withoutAuthority item :: itemsWithoutAuthority rest

end

mutual

/-- No object in the value has a field that names an authority. -/
def noAuthority : Json → Bool
  | .object entries => entriesNoAuthority entries
  | .array items => itemsNoAuthority items
  | _ => true

def entriesNoAuthority : List (String × Json) → Bool
  | [] => true
  | (key, value) :: rest => !isAuthorityField key && noAuthority value && entriesNoAuthority rest

def itemsNoAuthority : List Json → Bool
  | [] => true
  | item :: rest => noAuthority item && itemsNoAuthority rest

end

mutual

def nodeCount : Json → Nat
  | .object entries => 1 + entryCount entries
  | .array items => 1 + itemNodeCount items
  | _ => 1

def entryCount : List (String × Json) → Nat
  | [] => 0
  | (_, value) :: rest => nodeCount value + entryCount rest

def itemNodeCount : List Json → Nat
  | [] => 0
  | item :: rest => nodeCount item + itemNodeCount rest

end

mutual

/-- The limits of `_bounded_json` on the parts of a value that it looks at, other than that on their number. -/
def fits (depth : Nat) : Json → Bool
  | .string text => depth ≤ 10 && text.length ≤ 2048
  | .object entries => depth ≤ 10 && entries.length ≤ 256 && entriesFit (depth + 1) entries
  | .array items => depth ≤ 10 && items.length ≤ 8000 && itemsFit (depth + 1) items
  | _ => depth ≤ 10

def entriesFit (depth : Nat) : List (String × Json) → Bool
  | [] => true
  | (key, value) :: rest => isLong 1 128 key && (isAuthorityField key || fits depth value) && entriesFit depth rest

def itemsFit (depth : Nat) : List Json → Bool
  | [] => true
  | item :: rest => fits depth item && itemsFit depth rest

end

section

theorem enterNode_eq_ok {depth nodes count : Nat} :
    enterNode depth nodes = .ok count ↔ depth ≤ 10 ∧ count = nodes + 1 ∧ nodes + 1 ≤ 50000 := by
  unfold enterNode
  rw [require_bind_eq_ok, Bool.and_eq_true, decide_eq_true_eq, decide_eq_true_eq]
  constructor
  · rintro ⟨⟨few, shallow⟩, same⟩
    exact ⟨shallow, (Except.ok.inj same).symm, few⟩
  · rintro ⟨shallow, rfl, few⟩
    exact ⟨⟨few, shallow⟩, rfl⟩

theorem visit_leaf {depth nodes : Nat} {value : Json} {result : Json × Nat} :
    (do let nodes ← enterNode depth nodes; return (value, nodes)) = Except.ok result ↔
      decide (depth ≤ 10) = true ∧ nodes + 1 ≤ 50000 ∧ result = (value, nodes + 1) := by
  rw [bind_eq_ok, decide_eq_true_eq]
  constructor
  · rintro ⟨count, entered, same⟩
    obtain ⟨shallow, rfl, few⟩ := enterNode_eq_ok.mp entered
    exact ⟨shallow, few, (Except.ok.inj same).symm⟩
  · rintro ⟨shallow, few, rfl⟩
    exact ⟨_, enterNode_eq_ok.mpr ⟨shallow, rfl, few⟩, rfl⟩

mutual

theorem visit_eq_ok {depth nodes : Nat} {result : Json × Nat} : (value : Json) → (
    visit depth nodes value = .ok result ↔
      fits depth value = true ∧ nodes + nodeCount (withoutAuthority value) ≤ 50000 ∧
        result = (withoutAuthority value, nodes + nodeCount (withoutAuthority value)))
  | .null => visit_leaf
  | .bool _ => visit_leaf
  | .number _ => visit_leaf
  | .time _ => visit_leaf
  | .string text => by
    unfold visit fits withoutAuthority nodeCount
    rw [bind_eq_ok, Bool.and_eq_true, decide_eq_true_eq]
    constructor
    · rintro ⟨count, entered, rest⟩
      obtain ⟨shallow, rfl, few⟩ := enterNode_eq_ok.mp entered
      obtain ⟨short, same⟩ := require_bind_eq_ok.mp rest
      exact ⟨⟨shallow, short⟩, few, (Except.ok.inj same).symm⟩
    · rintro ⟨⟨shallow, short⟩, few, rfl⟩
      exact ⟨_, enterNode_eq_ok.mpr ⟨shallow, rfl, few⟩, require_bind_eq_ok.mpr ⟨short, rfl⟩⟩
  | .object entries => by
    unfold visit fits withoutAuthority nodeCount
    rw [bind_eq_ok, Bool.and_eq_true, Bool.and_eq_true, decide_eq_true_eq]
    constructor
    · rintro ⟨count, entered, rest⟩
      obtain ⟨shallow, rfl, few⟩ := enterNode_eq_ok.mp entered
      obtain ⟨short, rest⟩ := require_bind_eq_ok.mp rest
      obtain ⟨visited, below, same⟩ := bind_eq_ok.mp rest
      obtain ⟨fit, within, rfl⟩ := (visitEntries_eq_ok few entries).mp below
      refine ⟨⟨⟨shallow, short⟩, fit⟩, by omega, ?_⟩
      rw [← Except.ok.inj same, Nat.add_assoc]
    · rintro ⟨⟨⟨shallow, short⟩, fit⟩, within, rfl⟩
      have few : nodes + 1 ≤ 50000 := by omega
      refine ⟨_, enterNode_eq_ok.mpr ⟨shallow, rfl, few⟩, require_bind_eq_ok.mpr ⟨short, bind_eq_ok.mpr ⟨_,
        (visitEntries_eq_ok few entries).mpr ⟨fit, by omega, rfl⟩, ?_⟩⟩⟩
      rw [← Nat.add_assoc]
      rfl
  | .array items => by
    unfold visit fits withoutAuthority nodeCount
    rw [bind_eq_ok, Bool.and_eq_true, Bool.and_eq_true, decide_eq_true_eq]
    constructor
    · rintro ⟨count, entered, rest⟩
      obtain ⟨shallow, rfl, few⟩ := enterNode_eq_ok.mp entered
      obtain ⟨short, rest⟩ := require_bind_eq_ok.mp rest
      obtain ⟨visited, below, same⟩ := bind_eq_ok.mp rest
      obtain ⟨fit, within, rfl⟩ := (visitItems_eq_ok few items).mp below
      refine ⟨⟨⟨shallow, short⟩, fit⟩, by omega, ?_⟩
      rw [← Except.ok.inj same, Nat.add_assoc]
    · rintro ⟨⟨⟨shallow, short⟩, fit⟩, within, rfl⟩
      have few : nodes + 1 ≤ 50000 := by omega
      refine ⟨_, enterNode_eq_ok.mpr ⟨shallow, rfl, few⟩, require_bind_eq_ok.mpr ⟨short, bind_eq_ok.mpr ⟨_,
        (visitItems_eq_ok few items).mpr ⟨fit, by omega, rfl⟩, ?_⟩⟩⟩
      rw [← Nat.add_assoc]
      rfl

theorem visitEntries_eq_ok {depth nodes : Nat} (few : nodes ≤ 50000) {result : List (String × Json) × Nat} :
    (entries : List (String × Json)) → (visitEntries depth nodes entries = .ok result ↔
      entriesFit depth entries = true ∧ nodes + entryCount (entriesWithoutAuthority entries) ≤ 50000 ∧
        result = (entriesWithoutAuthority entries, nodes + entryCount (entriesWithoutAuthority entries)))
  | [] => by
    unfold visitEntries entriesFit entriesWithoutAuthority entryCount
    constructor
    · rintro ⟨⟩
      exact ⟨rfl, few, rfl⟩
    · rintro ⟨-, -, rfl⟩
      rfl
  | (key, value) :: rest => by
    unfold visitEntries entriesFit entriesWithoutAuthority
    rw [require_bind_eq_ok, Bool.and_eq_true, Bool.and_eq_true]
    by_cases named : isAuthorityField key = true
    · rw [if_pos named, if_pos named, visitEntries_eq_ok few rest, named]
      simp only [Bool.true_or, and_true, and_assoc]
    · rw [if_neg named, if_neg named, Bool.eq_false_iff.mpr named, Bool.false_or, bind_eq_ok]
      unfold entryCount
      constructor
      · rintro ⟨valid, visited, here, others⟩
        obtain ⟨fit, within, rfl⟩ := (visit_eq_ok value).mp here
        obtain ⟨remaining, below, same⟩ := bind_eq_ok.mp others
        obtain ⟨fits, all, rfl⟩ := (visitEntries_eq_ok within rest).mp below
        refine ⟨⟨⟨valid, fit⟩, fits⟩, by omega, ?_⟩
        rw [← Except.ok.inj same, Nat.add_assoc]
      · rintro ⟨⟨⟨valid, fit⟩, fits⟩, all, rfl⟩
        have within : nodes + nodeCount (withoutAuthority value) ≤ 50000 := by omega
        refine ⟨valid, _, (visit_eq_ok value).mpr ⟨fit, within, rfl⟩, bind_eq_ok.mpr ⟨_,
          (visitEntries_eq_ok within rest).mpr ⟨fits, by omega, rfl⟩, ?_⟩⟩
        rw [← Nat.add_assoc]
        rfl

theorem visitItems_eq_ok {depth nodes : Nat} (few : nodes ≤ 50000) {result : List Json × Nat} :
    (items : List Json) → (visitItems depth nodes items = .ok result ↔
      itemsFit depth items = true ∧ nodes + itemNodeCount (itemsWithoutAuthority items) ≤ 50000 ∧
        result = (itemsWithoutAuthority items, nodes + itemNodeCount (itemsWithoutAuthority items)))
  | [] => by
    unfold visitItems itemsFit itemsWithoutAuthority itemNodeCount
    constructor
    · rintro ⟨⟩
      exact ⟨rfl, few, rfl⟩
    · rintro ⟨-, -, rfl⟩
      rfl
  | item :: rest => by
    unfold visitItems itemsFit itemsWithoutAuthority itemNodeCount
    rw [bind_eq_ok, Bool.and_eq_true]
    constructor
    · rintro ⟨visited, here, others⟩
      obtain ⟨fit, within, rfl⟩ := (visit_eq_ok item).mp here
      obtain ⟨remaining, below, same⟩ := bind_eq_ok.mp others
      obtain ⟨fits, all, rfl⟩ := (visitItems_eq_ok within rest).mp below
      refine ⟨⟨fit, fits⟩, by omega, ?_⟩
      rw [← Except.ok.inj same, Nat.add_assoc]
    · rintro ⟨⟨fit, fits⟩, all, rfl⟩
      have within : nodes + nodeCount (withoutAuthority item) ≤ 50000 := by omega
      refine ⟨_, (visit_eq_ok item).mpr ⟨fit, within, rfl⟩, bind_eq_ok.mpr ⟨_,
        (visitItems_eq_ok within rest).mpr ⟨fits, by omega, rfl⟩, ?_⟩⟩
      rw [← Nat.add_assoc]
      rfl

end

theorem boundedJson_eq_ok {value result : Json} :
    boundedJson value = .ok result ↔
      fits 0 value = true ∧ nodeCount (withoutAuthority value) ≤ 50000 ∧ result = withoutAuthority value := by
  have visited := @visit_eq_ok 0 0 (result, nodeCount (withoutAuthority value)) value
  rw [Nat.zero_add, Prod.mk.injEq, and_iff_left rfl] at visited
  rw [← visited, boundedJson]
  cases walked : visit 0 0 value with
  | error error => exact ⟨nofun, nofun⟩
  | ok pair =>
    obtain ⟨-, -, rfl⟩ := (visit_eq_ok value).mp walked
    rw [Nat.zero_add]
    constructor
    · rintro same
      cases same
      rfl
    · rintro same
      cases same
      rfl

mutual

theorem noAuthority_withoutAuthority : (value : Json) → noAuthority (withoutAuthority value) = true
  | .null => rfl
  | .bool _ => rfl
  | .number _ => rfl
  | .time _ => rfl
  | .string _ => rfl
  | .object entries => by
    unfold withoutAuthority noAuthority
    exact entriesNoAuthority_without entries
  | .array items => by
    unfold withoutAuthority noAuthority
    exact itemsNoAuthority_without items

theorem entriesNoAuthority_without : (entries : List (String × Json)) →
    entriesNoAuthority (entriesWithoutAuthority entries) = true
  | [] => by
    unfold entriesWithoutAuthority entriesNoAuthority
    rfl
  | (key, value) :: rest => by
    unfold entriesWithoutAuthority
    split
    · exact entriesNoAuthority_without rest
    · rename_i other
      unfold entriesNoAuthority
      rw [noAuthority_withoutAuthority value, entriesNoAuthority_without rest, Bool.eq_false_iff.mpr other]
      rfl

theorem itemsNoAuthority_without : (items : List Json) → itemsNoAuthority (itemsWithoutAuthority items) = true
  | [] => by
    unfold itemsWithoutAuthority itemsNoAuthority
    rfl
  | item :: rest => by
    unfold itemsWithoutAuthority itemsNoAuthority
    rw [noAuthority_withoutAuthority item, itemsNoAuthority_without rest]
    rfl

end

mutual

theorem withoutAuthority_of_none : (value : Json) → noAuthority value = true → withoutAuthority value = value
  | .null, _ => rfl
  | .bool _, _ => rfl
  | .number _, _ => rfl
  | .time _, _ => rfl
  | .string _, _ => rfl
  | .object entries, clean => by
    unfold noAuthority at clean
    unfold withoutAuthority
    rw [entriesWithoutAuthority_of_none entries clean]
  | .array items, clean => by
    unfold noAuthority at clean
    unfold withoutAuthority
    rw [itemsWithoutAuthority_of_none items clean]

theorem entriesWithoutAuthority_of_none : (entries : List (String × Json)) → entriesNoAuthority entries = true →
    entriesWithoutAuthority entries = entries
  | [], _ => by
    unfold entriesWithoutAuthority
    rfl
  | (key, value) :: rest, clean => by
    unfold entriesNoAuthority at clean
    simp only [Bool.and_eq_true, Bool.not_eq_true'] at clean
    obtain ⟨⟨other, here⟩, others⟩ := clean
    unfold entriesWithoutAuthority
    rw [if_neg (Bool.eq_false_iff.mp other), withoutAuthority_of_none value here,
      entriesWithoutAuthority_of_none rest others]

theorem itemsWithoutAuthority_of_none : (items : List Json) → itemsNoAuthority items = true →
    itemsWithoutAuthority items = items
  | [], _ => by
    unfold itemsWithoutAuthority
    rfl
  | item :: rest, clean => by
    unfold itemsNoAuthority at clean
    rw [Bool.and_eq_true] at clean
    unfold itemsWithoutAuthority
    rw [withoutAuthority_of_none item clean.1, itemsWithoutAuthority_of_none rest clean.2]

end

theorem withoutAuthority_withoutAuthority (value : Json) :
    withoutAuthority (withoutAuthority value) = withoutAuthority value :=
  withoutAuthority_of_none _ (noAuthority_withoutAuthority value)

theorem itemsWithoutAuthority_eq_map (items : List Json) : itemsWithoutAuthority items = items.map withoutAuthority := by
  induction items with
  | nil =>
    unfold itemsWithoutAuthority
    rfl
  | cons item rest ih =>
    unfold itemsWithoutAuthority
    rw [ih, List.map_cons]

theorem length_entriesWithoutAuthority (entries : List (String × Json)) :
    (entriesWithoutAuthority entries).length ≤ entries.length := by
  induction entries with
  | nil =>
    unfold entriesWithoutAuthority
    exact le_rfl
  | cons entry rest ih =>
    unfold entriesWithoutAuthority
    split
    · exact ih.trans (Nat.le_succ _)
    · exact Nat.succ_le_succ ih

mutual

theorem fits_withoutAuthority {depth : Nat} : (value : Json) → fits depth value = true →
    fits depth (withoutAuthority value) = true
  | .null, within => within
  | .bool _, within => within
  | .number _, within => within
  | .time _, within => within
  | .string _, within => within
  | .object entries, within => by
    unfold fits at within
    simp only [Bool.and_eq_true, decide_eq_true_eq] at within
    unfold withoutAuthority fits
    simp only [Bool.and_eq_true, decide_eq_true_eq]
    have fewer := length_entriesWithoutAuthority entries
    exact ⟨⟨within.1.1, fewer.trans within.1.2⟩, entriesFit_without entries within.2⟩
  | .array items, within => by
    unfold fits at within
    simp only [Bool.and_eq_true, decide_eq_true_eq] at within
    unfold withoutAuthority fits
    simp only [Bool.and_eq_true, decide_eq_true_eq]
    refine ⟨⟨within.1.1, ?_⟩, itemsFit_without items within.2⟩
    rw [itemsWithoutAuthority_eq_map, List.length_map]
    exact within.1.2

theorem entriesFit_without {depth : Nat} : (entries : List (String × Json)) → entriesFit depth entries = true →
    entriesFit depth (entriesWithoutAuthority entries) = true
  | [], _ => by
    unfold entriesWithoutAuthority entriesFit
    rfl
  | (key, value) :: rest, within => by
    unfold entriesFit at within
    simp only [Bool.and_eq_true, Bool.or_eq_true] at within
    obtain ⟨⟨valid, here⟩, others⟩ := within
    unfold entriesWithoutAuthority
    split
    · exact entriesFit_without rest others
    · rename_i other
      have kept := fits_withoutAuthority value (here.resolve_left other)
      unfold entriesFit
      rw [valid, kept, entriesFit_without rest others, Bool.or_true]
      rfl

theorem itemsFit_without {depth : Nat} : (items : List Json) → itemsFit depth items = true →
    itemsFit depth (itemsWithoutAuthority items) = true
  | [], _ => by
    unfold itemsWithoutAuthority itemsFit
    rfl
  | item :: rest, within => by
    unfold itemsFit at within
    rw [Bool.and_eq_true] at within
    unfold itemsWithoutAuthority itemsFit
    rw [fits_withoutAuthority item within.1, itemsFit_without rest within.2]
    rfl

end

theorem boundedJson_boundedJson {value result : Json} (bounded : boundedJson value = .ok result) :
    boundedJson result = .ok result := by
  obtain ⟨within, few, rfl⟩ := boundedJson_eq_ok.mp bounded
  rw [boundedJson_eq_ok, withoutAuthority_withoutAuthority]
  exact ⟨fits_withoutAuthority value within, few, rfl⟩

end

/-- A way into a value. -/
inductive PathStep where
  | key (name : String)
  | index (i : Nat)
deriving DecidableEq, Repr

/-- The part of a value that a path leads to. -/
def locate : Json → List PathStep → Option Json
  | value, [] => some value
  | .object entries, .key name :: path => (entries.lookup name).bind fun value => locate value path
  | .array items, .index i :: path => items[i]?.bind fun value => locate value path
  | _, _ :: _ => none

/-- No step of the path is a field that names an authority. -/
def OutsideAuthority (path : List PathStep) : Prop := ∀ name, .key name ∈ path → isAuthorityField name = false

theorem lookup_entriesWithoutAuthority {name : String} (other : isAuthorityField name = false)
    (entries : List (String × Json)) : (entriesWithoutAuthority entries).lookup name = (entries.lookup name).map withoutAuthority := by
  induction entries with
  | nil =>
    unfold entriesWithoutAuthority
    rfl
  | cons entry rest ih =>
    obtain ⟨key, value⟩ := entry
    unfold entriesWithoutAuthority
    rw [DictEntries.lookup_cons name key value rest]
    by_cases named : isAuthorityField key = true
    · have apart : name ≠ key := by
        rintro rfl
        rw [other] at named
        cases named
      rw [if_pos named, ih, if_neg apart]
    · rw [if_neg named, DictEntries.lookup_cons, ih]
      split <;> rfl

theorem locate_withoutAuthority {path : List PathStep} (outside : OutsideAuthority path) (value : Json) :
    locate (withoutAuthority value) path = (locate value path).map withoutAuthority := by
  induction path generalizing value with
  | nil =>
    unfold locate
    rfl
  | cons step path ih =>
    have below := ih fun name member => outside name (List.mem_cons_of_mem _ member)
    cases value with
    | object entries =>
      unfold withoutAuthority
      cases step with
      | key name =>
        unfold locate
        rw [lookup_entriesWithoutAuthority (outside name List.mem_cons_self)]
        cases entries.lookup name with
        | none => rfl
        | some found => exact below found
      | index i => rfl
    | array items =>
      unfold withoutAuthority
      cases step with
      | key name => rfl
      | index i =>
        unfold locate
        rw [itemsWithoutAuthority_eq_map, List.getElem?_map]
        cases items[i]? with
        | none => rfl
        | some found => exact below found
    | null => cases step <;> rfl
    | bool value => cases step <;> rfl
    | number value => cases step <;> rfl
    | string text => cases step <;> rfl
    | time value => cases step <;> rfl

structure ObservationEvidence where
  protocol : String
  kind : String
  value : String
  confidence : ℚ

structure ObservationAsset where
  assetId : String
  hostname : Option String := none
  primaryIp : Option String := none
  mac : Option String := none
  os : Option String := none
  platform : Option String := none
  category : Option String := none
  evidence : List ObservationEvidence := []
  components : List ComponentObservation := []
  componentInventoryComplete : Bool := false

inductive SensorType where
  | passiveNetworkSensor
  | endpointCollector
  | connector
deriving DecidableEq, Repr

inductive ObservationSource where
  | passiveNetwork
  | endpointInventory
  | connector
deriving DecidableEq, Repr

inductive DeliveryState where
  | live
  | cachedRetry
deriving DecidableEq, Repr

def SensorType.text : SensorType → String
  | .passiveNetworkSensor => "passive-network-sensor"
  | .endpointCollector => "endpoint-collector"
  | .connector => "connector"

def ObservationSource.text : ObservationSource → String
  | .passiveNetwork => "passive-network"
  | .endpointInventory => "endpoint-inventory"
  | .connector => "connector"

def DeliveryState.text : DeliveryState → String
  | .live => "live"
  | .cachedRetry => "cached-retry"

/-- An aware `datetime`: its instant and the seconds that its zone is east of UTC. -/
structure AwareTime where
  instant : Time
  offset : Int
deriving DecidableEq, Repr

structure ObservationBatchRequest where
  observationBatchId : String
  siteId : String
  sensorId : String
  sensorName : String
  sensorType : SensorType
  sensorVersion : Option String := none
  observedAt : AwareTime
  observationSource : ObservationSource
  deliveryState : DeliveryState := .live
  confidence : ℚ := 4 / 5
  componentInventoryComplete : Bool := false
  assets : List ObservationAsset := []

def ObservationEvidence.dump (evidence : ObservationEvidence) : Json :=
  .object
    [("protocol", .string evidence.protocol),
      ("kind", .string evidence.kind),
      ("value", .string evidence.value),
      ("confidence", .number evidence.confidence)]

/-- `model_dump`. -/
def ObservationAsset.dump (asset : ObservationAsset) : Json :=
  .object
    [("asset_id", .string asset.assetId),
      ("hostname", .ofText asset.hostname),
      ("primary_ip", .ofText asset.primaryIp),
      ("mac", .ofText asset.mac),
      ("os", .ofText asset.os),
      ("platform", .ofText asset.platform),
      ("category", .ofText asset.category),
      ("evidence", .array (asset.evidence.map (·.dump))),
      ("components", .array (asset.components.map (·.dump))),
      ("component_inventory_complete", .bool asset.componentInventoryComplete)]

end OpenAssetWatch.Ingestion
