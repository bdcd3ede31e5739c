import OpenAssetWatch.Ingestion.NativeRecords
import OpenAssetWatch.Library.Best

namespace OpenAssetWatch.Ingestion

open Library Text Component

section

variable (digest : List String → HexDigest) (asset : Json) (payload : PersistencePayload) (receivedAt : Time)
  (sourceAuthenticated : Bool)

/-- The components of entries, in their order. -/
def listedComponents (entries : List Json) : List NormalizedComponent :=
  match entryContext asset payload receivedAt sourceAuthenticated with
  | none => []
  | some context => entries.filterMap (normalizedComponent digest context)

/-- The loop of `normalize_components_for_asset` over entries. -/
def normalizeEntries (entries : List Json) : List NormalizedComponent :=
  (bestByKey (·.componentId) outranks (listedComponents digest asset payload receivedAt sourceAuthenticated entries)).values

theorem normalizeComponentsForAsset_eq : normalizeComponentsForAsset digest asset payload receivedAt sourceAuthenticated =
    normalizeEntries digest asset payload receivedAt sourceAuthenticated (componentEntries asset) := by
  unfold normalizeComponentsForAsset normalizeEntries listedComponents
  cases entryContext asset payload receivedAt sourceAuthenticated <;> rfl

/-- What matching and the store go by. -/
structure ComponentFact where
  componentId : ComponentId
  version : Option String
  observedAt : Time
  confidence : ℚ

def factOf (component : NormalizedComponent) : ComponentFact :=
  ⟨component.componentId, component.version, component.observedAt, component.confidence⟩

/-- Survivors of components: one for each identifier, and none with less than another component of its identifier. -/
structure KeepsBest (components survivors : List NormalizedComponent) : Prop where
  once : (survivors.map (·.componentId)).Nodup
  listed : ∀ survivor ∈ survivors, survivor ∈ components
  represented : ∀ component ∈ components, ∃ survivor ∈ survivors, survivor.componentId = component.componentId
  greatest : ∀ survivor ∈ survivors, ∀ component ∈ components, component.componentId = survivor.componentId →
    (compareObservations (observationKey component) (observationKey survivor)).isLE = true

/-- Two components of one identifier and the greatest key have one version. -/
def VersionsSettled (components : List NormalizedComponent) : Prop :=
  ∀ a ∈ components, ∀ b ∈ components, a.componentId = b.componentId →
    Unbeaten (·.componentId) outranks components a → Unbeaten (·.componentId) outranks components b → a.version = b.version

variable {digest asset payload receivedAt sourceAuthenticated} {components survivors : List NormalizedComponent}

theorem listedComponents_perm {entries order : List Json} (perm : order.Perm entries) :
    (listedComponents digest asset payload receivedAt sourceAuthenticated order).Perm
      (listedComponents digest asset payload receivedAt sourceAuthenticated entries) := by
  unfold listedComponents
  cases entryContext asset payload receivedAt sourceAuthenticated with
  | none => exact List.Perm.refl _
  | some context => exact perm.filterMap _

theorem exists_listed_order {α β : Type} (f : α → Option β) (entries : List α) {order : List β}
    (perm : order.Perm (entries.filterMap f)) : ∃ entries' : List α, entries'.Perm entries ∧ entries'.filterMap f = order := by
  induction order generalizing entries with
  | nil => exact ⟨entries, List.Perm.refl _, perm.nil_eq.symm⟩
  | cons item rest ih =>
    obtain ⟨entry, member, found⟩ := List.mem_filterMap.mp (perm.mem_iff.mp List.mem_cons_self)
    obtain ⟨before, after, rfl⟩ := List.append_of_mem member
    have moved : (before ++ entry :: after).Perm (entry :: (before ++ after)) := List.perm_middle
    have perm_rest : rest.Perm ((before ++ after).filterMap f) := by
      have both := perm.trans (moved.filterMap f)
      rw [List.filterMap_cons_some found] at both
      exact both.cons_inv
    obtain ⟨entries', order, listed⟩ := ih (before ++ after) perm_rest
    refine ⟨entry :: entries', (order.cons entry).trans moved.symm, ?_⟩
    rw [List.filterMap_cons_some found, listed]

theorem keepsBest : KeepsBest components (bestByKey (·.componentId) outranks components).values := by
  constructor
  · exact nodup_bestByKey components
  · exact fun survivor kept => (unbeaten_of_kept outranks_asymm outranks_split kept).1
  · intro component member
    obtain ⟨survivor, kept, same, -⟩ : ∃ survivor ∈ (bestByKey (·.componentId) outranks components).values,
        survivor.componentId = component.componentId ∧ outranks component survivor = false :=
      exists_kept outranks_asymm outranks_split member
    exact ⟨survivor, kept, same⟩
  · intro survivor kept component member same
    have below := (unbeaten_of_kept outranks_asymm outranks_split kept).2 component member same
    rw [Ordering.isLE_iff_ne_gt]
    exact beq_eq_false_iff_ne.mp below

theorem factOf_eq_of_tie {a b : NormalizedComponent} (same : a.componentId = b.componentId) (below : outranks a b = false)
    (above : outranks b a = false) : factOf a = factOf b ↔ a.version = b.version := by
  have tied : compareObservations (observationKey a) (observationKey b) = .eq := by
    have swapped : compareObservations (observationKey b) (observationKey a) =
        (compareObservations (observationKey a) (observationKey b)).swap := Std.OrientedCmp.eq_swap
    have less : compareObservations (observationKey a) (observationKey b) ≠ .gt := beq_eq_false_iff_ne.mp below
    have greater : compareObservations (observationKey b) (observationKey a) ≠ .gt := beq_eq_false_iff_ne.mp above
    cases order : compareObservations (observationKey a) (observationKey b) with
    | eq => rfl
    | gt => exact absurd order less
    | lt =>
      rw [swapped, order] at greater
      exact absurd rfl greater
  unfold compareObservations compareLex compareOn at tied
  rw [Ordering.then_eq_eq, Ordering.then_eq_eq] at tied
  have observed : a.observedAt = b.observedAt := compare_eq_iff_eq.mp tied.1
  have confidence : a.confidence = b.confidence := compare_eq_iff_eq.mp tied.2.1
  constructor
  · exact fun equal => congrArg ComponentFact.version equal
  · intro version
    unfold factOf
    rw [same, version, observed, confidence]

theorem facts_independent_iff : (∀ order : List NormalizedComponent, order.Perm components → ∀ fact,
      fact ∈ (bestByKey (·.componentId) outranks order).values.map factOf ↔
        fact ∈ (bestByKey (·.componentId) outranks components).values.map factOf) ↔ VersionsSettled components := by
  have keyed : ∀ a b : NormalizedComponent, factOf a = factOf b → a.componentId = b.componentId :=
    fun a b same => congrArg ComponentFact.componentId same
  rw [facts_order_iff outranks_asymm outranks_split factOf keyed]
  unfold VersionsSettled
  constructor
  · intro agree a here b there same above above'
    exact congrArg ComponentFact.version (agree a here b there same above above')
  · intro settled a here b there same above above'
    rw [factOf_eq_of_tie same (above' a here same) (above b there same.symm)]
    exact settled a here b there same above above'

end

/-- The best observation of each component is kept; and what matching goes by does not depend on the order of the entries exactly
    where the best observations of a component name one version. -/
theorem normalized_order_independent_iff (digest : List String → HexDigest) (asset : Json) (payload : PersistencePayload)
    (receivedAt : Time) (sourceAuthenticated : Bool) :
    let components := listedComponents digest asset payload receivedAt sourceAuthenticated (componentEntries asset)
    let survivors := normalizeComponentsForAsset digest asset payload receivedAt sourceAuthenticated
    KeepsBest components survivors ∧
      ((∀ order : List Json, order.Perm (componentEntries asset) → ∀ fact,
          fact ∈ (normalizeEntries digest asset payload receivedAt sourceAuthenticated order).map factOf ↔
            fact ∈ survivors.map factOf) ↔
        VersionsSettled components) := by
  intro components survivors
  have whole : survivors = (bestByKey (·.componentId) outranks components).values := normalizeComponentsForAsset_eq ..
  rw [whole]
  refine ⟨keepsBest, ?_⟩
  rw [← facts_independent_iff]
  constructor
  · intro independent order perm
    have entries : ∃ entries' : List Json, entries'.Perm (componentEntries asset) ∧
        listedComponents digest asset payload receivedAt sourceAuthenticated entries' = order := by
      unfold components listedComponents at perm
      unfold listedComponents
      cases context : entryContext asset payload receivedAt sourceAuthenticated with
      | none =>
        rw [context] at perm
        exact ⟨componentEntries asset, List.Perm.refl _, perm.eq_nil.symm⟩
      | some context_ =>
        rw [context] at perm
        exact exists_listed_order _ _ perm
    obtain ⟨entries', perm', rfl⟩ := entries
    exact independent entries' perm'
  · intro independent order perm
    exact independent _ (listedComponents_perm perm)

section Sample

def sampleProduct (version : String) : Json :=
  .object [("name", .string "Tool"), ("vendor", .string "Acme"), ("version", .string version)]

def sampleListing : Json :=
  .object [("site_id", .string "site-1"), ("asset_id", .string "host-1"), ("components", .array [sampleProduct "1.0", sampleProduct "2.0"])]

def sampleListingPayload : PersistencePayload where
  agentId := "agent-1"
  sensorId := "agent-1"
  sensorType := "endpoint-agent"
  observationSource := "endpoint-inventory"
  observationBatchId := none
  componentInventoryComplete := true
  softwareSources := []
  observedAt := 0
  canonicalCollectionId := ""
  confidence := 1
  assets := []

def sampleNormalize (entries : List Json) : List NormalizedComponent :=
  normalizeEntries (fun _ => ⟨"00000000000000000000000000000000", isHexText_zeros⟩) sampleListing sampleListingPayload 0 true entries

/-- Of two versions of one product the one that is listed first is kept. -/
theorem first_version_kept : ¬ ∀ order : List Json, order.Perm (componentEntries sampleListing) → ∀ fact,
    fact ∈ (sampleNormalize order).map factOf ↔ fact ∈ (sampleNormalize (componentEntries sampleListing)).map factOf := by
  intro independent
  have swapped : (componentEntries sampleListing).reverse.Perm (componentEntries sampleListing) := List.reverse_perm _
  have first : (sampleNormalize (componentEntries sampleListing)).map (·.version) = [some "1.0"] := by decide
  have second : (sampleNormalize (componentEntries sampleListing).reverse).map (·.version) = [some "2.0"] := by decide
  have listed : some "1.0" ∈ (sampleNormalize (componentEntries sampleListing)).map (·.version) := by
    rw [first]
    exact List.mem_singleton_self _
  obtain ⟨component, kept, version⟩ := List.mem_map.mp listed
  obtain ⟨other, kept', same⟩ := List.mem_map.mp ((independent _ swapped (factOf component)).mpr (List.mem_map_of_mem kept))
  have listed' : other.version ∈ (sampleNormalize (componentEntries sampleListing).reverse).map (·.version) := List.mem_map_of_mem kept'
  have versions : other.version = component.version := congrArg ComponentFact.version same
  rw [second, List.mem_singleton, versions, version] at listed'
  exact absurd listed' (by decide)

end Sample

end OpenAssetWatch.Ingestion
