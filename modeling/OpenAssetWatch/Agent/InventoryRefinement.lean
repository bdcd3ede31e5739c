import OpenAssetWatch.Agent.FinalizeRun
import OpenAssetWatch.Ingestion.EndpointEnvelope

namespace OpenAssetWatch.Agent

open Library Sensor Ingestion Component Text
open Sensor.GoString (ofText received)

def componentTypes : List ComponentType :=
  [.application, .operatingSystemPackage, .library, .runtime, .driver, .firmware, .operatingSystem, .securityTool, .unknown]

/-- A text that is left out of the document where it is empty. -/
def receivedOptional (value : GoString) : Option String := if value = [] then none else some (received value)

/-- What the hub reads of a component's document. -/
def receiveComponent (component : SoftwareComponent) : Except ContractError ComponentObservation :=
  match componentTypes.find? (·.text == received component.componentType) with
  | none => .error .fieldConstraint
  | some componentType =>
    .ok {
      componentType
      ecosystem := received component.ecosystem
      name := received component.name
      version := receivedOptional component.version
      vendor := receivedOptional component.vendor
      architecture := receivedOptional component.architecture
      packageManager := receivedOptional component.packageManager
      purl := receivedOptional component.packageUrl
      installScope := received component.installScope
      observedAt := some (component.observedAt.getD firstMoment)
      confidence := component.confidence
      collectionSourceId := some (received component.collectionSource)
      sourceRecordId := some (received component.sourceRecordId)
      evidenceMethod := some (received component.evidenceMethod)
      metadata := component.metadata.map fun item => (received item.1, received item.2) }

def SourceStatus.received : SourceStatus → Option CollectionStatus
  | .complete => some .complete
  | .partially => some .partially
  | .unsupported => some .unsupported
  | .failed => some .failed
  | .other _ => none

/-- What the hub reads of a source's document. -/
def receiveSource (source : SoftwareSourceResult) : Except ContractError NativeSoftwareSourceResult :=
  match source.status.received, platformNamed (received source.platform) with
  | some status, some platform =>
    .ok {
      sourceId := received source.sourceId
      platform
      status
      observedAt := source.observedAt.getD firstMoment
      recordCount := source.recordCount
      truncated := source.truncated
      errorCode := receivedOptional source.errorCode
      limitations := source.limitations.map received }
  | _, _ => .error .fieldConstraint

/-- The text of a status. -/
def SourceStatus.text : SourceStatus → String
  | .complete => "complete"
  | .partially => "partial"
  | .unsupported => "unsupported"
  | .failed => "failed"
  | .other text => String.ofList text.runes

/-- The limitations of `buildEndpointInventoryPayload`. -/
def collectionLimitations (sources : List SoftwareSourceResult) : List String :=
  (sources.filter (·.status ≠ .complete)).map fun source =>
    "software-source-" ++ received source.sourceId ++ "-" ++ source.status.text

/-- What the hub reads of the software in the payload of `buildEndpointInventoryPayload`, beside what the payload says of the host. -/
def receiveInventory (host : EndpointInventoryRequest) (software : List SoftwareComponent × List SoftwareSourceResult) :
    Except ContractError EndpointInventoryRequest := do
  let components ← software.1.mapM receiveComponent
  let sources ← software.2.mapM receiveSource
  return {
    host with
    collectionLimitations := collectionLimitations software.2
    softwareSources := sources
    assets := host.assets.map fun asset => { asset with components } }

/-- A payload of a host without software that the hub takes. -/
structure HostInventory (now observedAt : Time) where
  request : EndpointInventoryRequest
  asset : EndpointAsset
  single : request.assets = [asset]
  bare : asset.components = [] ∧ request.softwareSources = [] ∧ request.collectionLimitations = []
  platform : request.platform = some "linux"
  observed : request.observedAt = observedAt
  taken : request.validate now = .ok ()

/-- Whether the hub takes an inventory. -/
def IsTaken (now : Time) (received : Except ContractError EndpointInventoryRequest) : Prop :=
  ∃ request, received = .ok request ∧ request.validate now = .ok ()

section Contract

variable {now : Time} {request : EndpointInventoryRequest} {sources : List NativeSoftwareSourceResult}
  {components : List ComponentObservation}

/-- The record that a component of a source reports. -/
def recordOf (component : ComponentObservation) : String × String :=
  (component.collectionSourceId.getD "", component.sourceRecordId.getD "")

/-- A component of a source that its contract admits, but for its record. -/
structure IsNative (sources : List NativeSoftwareSourceResult) (component : ComponentObservation) : Prop where
  contract : ∃ sourceId, component.collectionSourceId = some sourceId ∧ (nativeContract sourceId).any (followsContract component) = true ∧
    ((sources.find? (·.sourceId == sourceId)).all fun source => component.observedAt.all (· ≤ source.observedAt)) = true
  machineScoped : (component.installScope == "system") = true

theorem validateNativeRecords_iff {seen : List (String × String)} (native : ∀ component ∈ components, IsNative sources component) :
    validateNativeRecords sources seen components = .ok () ↔
      (components.map recordOf).Nodup ∧ ∀ component ∈ components, recordOf component ∉ seen := by
  induction components generalizing seen with
  | nil =>
    constructor
    · exact fun _ => ⟨List.nodup_nil, fun _ absent => by cases absent⟩
    · exact fun _ => rfl
  | cons component rest ih =>
    obtain ⟨⟨sourceId, named, contract, inTime⟩, scope_⟩ := native component List.mem_cons_self
    have record : recordOf component = (sourceId, component.sourceRecordId.getD "") := by
      unfold recordOf
      rw [named]
      rfl
    have later : validateNativeRecords sources (recordOf component :: seen) rest = .ok () ↔ (rest.map recordOf).Nodup ∧
        ∀ other ∈ rest, recordOf other ∉ recordOf component :: seen :=
      ih fun other member => native other (List.mem_cons_of_mem _ member)
    unfold validateNativeRecords
    rw [named]
    dsimp only
    rw [require_bind_eq_ok, require_bind_eq_ok, require_bind_eq_ok, require_bind_eq_ok, ← record, later, List.map_cons,
      List.nodup_cons, List.forall_mem_cons]
    simp only [contract, scope_, inTime, true_and, Bool.not_eq_true', List.contains_eq_mem, decide_eq_false_iff_not, List.mem_cons,
      not_or]
    constructor
    · rintro ⟨fresh, distinct, apart⟩
      refine ⟨⟨?_, distinct⟩, fresh, fun other member => (apart other member).2⟩
      intro listed
      obtain ⟨other, member, same⟩ := List.mem_map.mp listed
      exact (apart other member).1 same
    · rintro ⟨⟨unlisted, distinct⟩, fresh, unseen⟩
      refine ⟨fresh, distinct, fun other member => ⟨?_, unseen other member⟩⟩
      intro same
      exact unlisted (List.mem_map.mpr ⟨other, member, same⟩)

end Contract

section Texts

variable {value : GoString} {maximum : Nat}

theorem received_eq (whole : stripChars isGoSpace value.runes = value.runes) : (received value).toList = value.runes := by
  rw [GoString.received_of_trimmed whole, String.toList_ofList]

theorem received_ofText {text : String} (allowed : text.toList.all isTokenRune = true) : received (ofText text) = text := by
  have token : IsToken text.toList.length (ofText text) := by
    constructor
    · intro rune member
      obtain ⟨c, listed, same⟩ := List.mem_map.mp member
      rw [← same]
      exact List.all_eq_true.mp allowed c listed
    · exact (List.length_map _).le
  apply String.toList_inj.mp
  rw [received_eq token.bare]
  exact GoString.runes_ofChars _

theorem length_received_le (whole : stripChars isGoSpace value.runes = value.runes) : (received value).length = value.length := by
  rw [← String.length_toList, received_eq whole, GoString.length_runes]

theorem received_isLong (bounded : IsBounded maximum value) (nonempty : value ≠ []) : isLong 1 maximum (received value) = true := by
  unfold isLong
  rw [length_received_le bounded.trimmed, Bool.and_eq_true, decide_eq_true_eq, decide_eq_true_eq]
  exact ⟨List.length_pos_iff.mpr nonempty, (length_le_byteLength value).trans bounded.short⟩

theorem receivedOptional_all {p : String → Bool} (holds : value ≠ [] → p (received value) = true) :
    (receivedOptional value).all p = true := by
  unfold receivedOptional
  split
  · rfl
  · next nonempty => exact holds nonempty

theorem receivedOptional_isLong (short : value ≠ [] → (received value).length ≤ maximum) :
    (receivedOptional value).all (isLong 0 maximum) = true := by
  apply receivedOptional_all
  intro nonempty
  unfold isLong
  rw [Bool.and_eq_true, decide_eq_true_eq, decide_eq_true_eq]
  exact ⟨Nat.zero_le _, short nonempty⟩

end Texts

section Received

variable {now observedAt : Time} {manager : PackageManager} {component : SoftwareComponent} {source : SoftwareSourceResult}

/-- What the hub reads of a package. -/
def observationOf (component : SoftwareComponent) : ComponentObservation where
  componentType := .operatingSystemPackage
  ecosystem := received component.ecosystem
  name := received component.name
  version := receivedOptional component.version
  vendor := receivedOptional component.vendor
  architecture := receivedOptional component.architecture
  packageManager := receivedOptional component.packageManager
  purl := receivedOptional component.packageUrl
  installScope := received component.installScope
  observedAt := some (component.observedAt.getD firstMoment)
  confidence := component.confidence
  collectionSourceId := some (received component.collectionSource)
  sourceRecordId := some (received component.sourceRecordId)
  evidenceMethod := some (received component.evidenceMethod)
  metadata := component.metadata.map fun item => (received item.1, received item.2)

theorem receiveComponent_eq (package : IsPackage manager observedAt component) :
    receiveComponent component = .ok (observationOf component) := by
  have found : componentTypes.find? (·.text == received component.componentType) = some .operatingSystemPackage := by
    rw [package.componentType, received_ofText (by decide)]
    decide
  unfold receiveComponent
  rw [found]
  rfl

theorem validateComponent_observationOf (known : manager = dpkg ∨ manager = rpm) (package : IsPackage manager observedAt component)
    (named : component.name ≠ []) (recorded : component.sourceRecordId ≠ []) (inTime : observedAt ≤ now + maxFutureSkew) :
    validateComponent now (observationOf component) = .ok () := by
  have ecosystem : received component.ecosystem = manager.ecosystem := by
    rw [package.ecosystem]
    rcases known with rfl | rfl
    · exact received_ofText (by decide)
    · exact received_ofText (by decide)
  have scope_ : received component.installScope = "system" := by
    rw [package.installScope]
    exact received_ofText (by decide)
  have source : isSourceName (received component.collectionSource) = true := by
    rw [package.collectionSource]
    rcases known with rfl | rfl
    · rw [received_ofText (by decide)]
      decide
    · rw [received_ofText (by decide)]
      decide
  have method : isSourceName (received component.evidenceMethod) = true := by
    rw [package.evidenceMethod]
    rcases known with rfl | rfl
    · rw [received_ofText (by decide)]
      decide
    · rw [received_ofText (by decide)]
      decide
  have fields : componentFieldsValid (observationOf component) = true := by
    unfold componentFieldsValid observationOf
    simp only [Bool.and_eq_true]
    and_intros
    · rw [ecosystem]
      rcases known with rfl | rfl <;> decide
    · exact received_isLong package.name named
    · apply receivedOptional_isLong
      intro _
      rw [length_received_le package.version.trimmed]
      exact (length_le_byteLength _).trans package.version.short
    · rfl
    · rw [package.vendor]
      rfl
    · apply receivedOptional_isLong
      intro _
      rw [length_received_le package.architecture.bare]
      exact package.architecture.short
    · rw [package.packageManager]
      rcases known with rfl | rfl <;> decide
    · rw [package.packageUrl]
      rfl
    · rw [scope_]
      decide
    · rw [package.confidence]
      norm_num
    · rw [package.confidence]
      norm_num
    · rfl
    · exact source
    · exact received_isLong package.sourceRecordId recorded
    · exact method
    · rw [package.metadata]
      rfl
  unfold validateComponent
  rw [require_bind_eq_ok, require_bind_eq_ok, require_bind_eq_ok, require_eq_ok]
  refine ⟨fields, ?_, ?_, rfl⟩
  · unfold observationOf
    rw [package.metadata]
    rfl
  · unfold observationOf
    rw [package.observedAt]
    exact decide_eq_true inTime

theorem nativeContract_of (known : manager = dpkg ∨ manager = rpm) :
    nativeContract manager.sourceId = some ⟨manager.ecosystem, manager.manager, manager.manager ++ "-native-query", true⟩ := by
  rcases known with rfl | rfl
  · unfold nativeContract
    rw [if_neg (by decide), if_pos (by decide)]
    rfl
  · unfold nativeContract
    rw [if_neg (by decide), if_neg (by decide), if_pos (by decide)]
    rfl

theorem received_sourceId (known : manager = dpkg ∨ manager = rpm) : received (ofText manager.sourceId) = manager.sourceId := by
  rcases known with rfl | rfl
  · exact received_ofText (by decide)
  · exact received_ofText (by decide)

theorem followsContract_observationOf (known : manager = dpkg ∨ manager = rpm) (package : IsPackage manager observedAt component) :
    followsContract (observationOf component) ⟨manager.ecosystem, manager.manager, manager.manager ++ "-native-query", true⟩ = true := by
  unfold followsContract observationOf
  dsimp only
  rw [package.ecosystem, package.packageManager, package.evidenceMethod, Bool.true_or, Bool.and_true]
  rcases known with rfl | rfl <;> decide

theorem isNative_observationOf {sources : List NativeSoftwareSourceResult} (known : manager = dpkg ∨ manager = rpm)
    (package : IsPackage manager observedAt component) (moment : ∀ source ∈ sources, source.observedAt = observedAt) :
    IsNative sources (observationOf component) := by
  constructor
  · refine ⟨manager.sourceId, ?_, ?_, ?_⟩
    · show some (received component.collectionSource) = _
      rw [package.collectionSource, received_sourceId known]
    · rw [nativeContract_of known, Option.any_some]
      exact followsContract_observationOf known package
    · cases found : sources.find? (·.sourceId == manager.sourceId) with
      | none => rfl
      | some source =>
        show decide (component.observedAt.getD firstMoment ≤ source.observedAt) = true
        rw [package.observedAt, moment source (List.mem_of_find?_eq_some found)]
        exact decide_eq_true le_rfl
  · show (received component.installScope == "system") = true
    rw [package.installScope, received_ofText (by decide)]
    rfl

/-- What the hub reads of a source. -/
def sourceOf (source : SoftwareSourceResult) : NativeSoftwareSourceResult where
  sourceId := received source.sourceId
  platform := .linux
  status := source.status.received.getD .failed
  observedAt := source.observedAt.getD firstMoment
  recordCount := source.recordCount
  truncated := source.truncated
  errorCode := receivedOptional source.errorCode
  limitations := source.limitations.map received

theorem receiveSource_eq (report : IsReport observedAt source) : receiveSource source = .ok (sourceOf source) := by
  have platform : platformNamed (received source.platform) = some .linux := by
    rw [report.platform, received_ofText (by decide)]
    decide
  unfold receiveSource sourceOf
  rw [platform]
  cases status : source.status with
  | other text => exact absurd status (report.named text)
  | _ => rfl

theorem validate_sourceOf (report : IsReport observedAt source)
    (named : source.sourceId = ofText dpkg.sourceId ∨ source.sourceId = ofText rpm.sourceId)
    (few : source.recordCount ≤ maxComponentsPerAsset) (quiet : source.status.isUnsuccessful = true → source.recordCount = 0) :
    (sourceOf source).validate = .ok () := by
  have sourceId : received source.sourceId ∈ ["linux-dpkg", "linux-rpm"] := by
    rcases named with same | same
    · rw [same, received_ofText (by decide)]
      exact List.mem_cons_self
    · rw [same, received_ofText (by decide)]
      exact List.mem_cons_of_mem _ List.mem_cons_self
  have code : (receivedOptional source.errorCode).all isErrorCode = true := by
    have codes := report.errorCode
    simp only [List.mem_cons, List.not_mem_nil, or_false] at codes
    rcases codes with same | same | same | same | same <;> rw [same] <;> decide
  have coded : (receivedOptional source.errorCode).isSome = decide (source.errorCode ≠ []) := by
    unfold receivedOptional
    by_cases empty : source.errorCode = []
    · rw [if_pos empty, decide_eq_false (not_not.mpr empty)]
      rfl
    · rw [if_neg empty, decide_eq_true empty]
      rfl
  have limits : (source.limitations.map received).all (isLong 1 120) = true := by
    rw [List.all_map, List.all_eq_true]
    intro limitation member
    obtain ⟨token, nonempty⟩ := report.limitations limitation member
    show isLong 1 120 (received limitation) = true
    unfold isLong
    rw [length_received_le token.bare, Bool.and_eq_true, decide_eq_true_eq, decide_eq_true_eq]
    exact ⟨List.length_pos_iff.mpr nonempty, token.short⟩
  unfold NativeSoftwareSourceResult.validate
  rw [require_bind_eq_ok, require_bind_eq_ok, require_bind_eq_ok, require_bind_eq_ok, require_bind_eq_ok, require_bind_eq_ok,
    require_eq_ok]
  unfold sourceOf
  dsimp only
  rw [coded]
  have name : isSourceName (received source.sourceId) = true := by
    simp only [List.mem_cons, List.not_mem_nil, or_false] at sourceId
    rcases sourceId with same | same <;> rw [same] <;> decide
  refine ⟨?_, limits, ?_, ?_⟩
  · rw [Bool.and_eq_true, Bool.and_eq_true, Bool.and_eq_true, List.length_map]
    exact ⟨⟨⟨name, decide_eq_true few⟩, code⟩, decide_eq_true report.few⟩
  · rw [List.contains_eq_mem]
    exact decide_eq_true sourceId
  · cases status : source.status with
    | other text => exact absurd status (report.named text)
    | complete =>
      obtain ⟨whole, clean⟩ := report.complete status
      rw [whole, decide_eq_false (not_not.mpr clean)]
      exact ⟨rfl, rfl, rfl, rfl⟩
    | partially =>
      refine ⟨rfl, rfl, rfl, ?_⟩
      show (!!(source.truncated || decide (source.errorCode ≠ []) || !(source.limitations.map received).isEmpty)) = true
      rw [Bool.not_not, Bool.or_eq_true, Bool.or_eq_true]
      rcases report.partially_ status with cut | coded | limited
      · exact .inl (.inl cut)
      · exact .inl (.inr (decide_eq_true coded))
      · right
        rw [Bool.not_eq_true', List.isEmpty_eq_false_iff, ne_eq, List.map_eq_nil_iff]
        exact limited
    | unsupported =>
      rw [quiet (by rw [status]; rfl), ← Option.not_isSome, coded, decide_eq_true (report.unsuccessful (by rw [status]; rfl))]
      exact ⟨rfl, rfl, rfl, rfl⟩
    | failed =>
      rw [quiet (by rw [status]; rfl), ← Option.not_isSome, coded, decide_eq_true (report.unsuccessful (by rw [status]; rfl))]
      exact ⟨rfl, rfl, rfl, rfl⟩

end Received

section Request

variable {now observedAt : Time} {request : EndpointInventoryRequest}

theorem validate_iff : request.validate now = .ok () ↔
    (isLong 8 160 request.inventoryBatchId && request.inventoryBatchId.toList.all isAssetChar &&
      request.supportedCapabilities.length ≤ 64 && request.collectionLimitations.length ≤ 64 &&
      request.softwareSources.length ≤ 8 && 1 ≤ request.assets.length && request.assets.length ≤ 16) = true ∧
    (request.observedAt ≤ now + maxFutureSkew && now - maxInventoryAge ≤ request.observedAt) = true ∧
    (request.supportedCapabilities ++ request.collectionLimitations).all (isLong 1 240) = true ∧
    (∀ source ∈ request.softwareSources, source.validate = .ok ()) ∧ (∀ asset ∈ request.assets, asset.validate now = .ok ()) ∧
    decide (request.components.length ≤ 8000) = true ∧ decide ((request.assets.map (·.evidence.length)).sum ≤ 1024) = true ∧
    ((request.assets.flatMap (·.interfaces)).length ≤ 256 &&
      ((request.assets.flatMap (·.interfaces)).map (·.ipAddresses.length)).sum ≤ 1024) = true ∧
    decide (request.softwareSources.map (·.sourceId)).Nodup = true ∧
    (request.softwareSources.isEmpty || request.assets.length == 1) = true ∧
    (request.components.all fun component =>
      component.collectionSourceId.all (request.softwareSources.map (·.sourceId)).contains) = true ∧
    (request.softwareSources.all fun source =>
      source.recordCount == request.components.countP (hasSource source.sourceId)) = true ∧
    validateNativeRecords request.softwareSources [] request.components = .ok () ∧
    (request.softwareSources.all fun source => source.observedAt ≤ request.observedAt + maxFutureSkew) = true ∧
    ((request.platform.bind platformNamed).all fun platform => request.softwareSources.all (·.platform == platform)) = true := by
  unfold EndpointInventoryRequest.validate
  simp only [then_eq_ok, require_eq_ok, forM_eq_ok]

theorem asset_validate {asset : EndpointAsset} (valid : asset.validate now = .ok ())
    {components : List ComponentObservation} (few : components.length ≤ maxComponentsPerAsset)
    (each : ∀ component ∈ components, validateComponent now component = .ok ())
    (issued : ∀ component ∈ components, component.evidenceIds = []) :
    EndpointAsset.validate now { asset with components } = .ok () := by
  unfold EndpointAsset.validate at valid ⊢
  simp only [then_eq_ok, require_eq_ok, forM_eq_ok] at valid ⊢
  obtain ⟨fields, -, capabilities, -⟩ := valid
  refine ⟨?_, each, capabilities, ?_⟩
  · unfold EndpointAsset.fieldsValid at fields ⊢
    simp only [Bool.and_eq_true, decide_eq_true_eq] at fields ⊢
    obtain ⟨⟨rest, -⟩, few_capabilities⟩ := fields
    exact ⟨⟨rest, few⟩, few_capabilities⟩
  · rw [List.all_eq_true]
    intro component member
    rw [issued component member]
    rfl

end Request

section Inventory

variable (sorting : SliceSort) (beyond : Char → Char) (observedAt : Time) (dpkgOutcome rpmOutcome : Option CommandOutcome)

/-- The record of a package, as the hub reads it. -/
def packageRecord (component : SoftwareComponent) : String × String :=
  (received component.collectionSource, received component.sourceRecordId)

/-- What holds of the software that the agent reports. -/
structure Reported (observedAt : Time) (components : List SoftwareComponent) (sources : List SoftwareSourceResult) : Prop where
  sourceIds : (sources.map (·.sourceId)).Perm [ofText dpkg.sourceId, ofText rpm.sourceId]
  report : ∀ source ∈ sources, IsReport observedAt source
  quiet : ∀ source ∈ sources, source.status.isUnsuccessful = true → source.recordCount = 0
  counted : ∀ source ∈ sources, source.recordCount = components.countP (·.collectionSource = source.sourceId)
  few : components.length ≤ maxPackages
  package : ∀ component ∈ components, IsPackage dpkg observedAt component ∨ IsPackage rpm observedAt component
  named : ∀ component ∈ components, component.name ≠ []
  recorded : ∀ component ∈ components, component.sourceRecordId ≠ []

theorem reported_finalize : ∃ components sources,
    finalize sorting beyond (collectPlatform observedAt dpkgOutcome rpmOutcome) observedAt = (components, sources) ∧
      Reported observedAt components sources ∧
      components.Perm ((distinctPackages sorting beyond observedAt (collectPlatform observedAt dpkgOutcome rpmOutcome)).take maxPackages) := by
  have taken := taken_finalizing sorting beyond observedAt dpkgOutcome rpmOutcome
  have kept := components_finalizing sorting beyond observedAt dpkgOutcome rpmOutcome
  refine ⟨_, _, rfl, ?_, ?_⟩
  · generalize finalizing sorting beyond (collectPlatform observedAt dpkgOutcome rpmOutcome) observedAt = state at taken
    have components := sorting.perm (componentLess beyond) state.components
    have sources := sorting.perm (fun a b : SoftwareSourceResult => goLess a.sourceId b.sourceId) state.sources
    constructor
    · rw [← taken.sourceIds]
      exact sources.map _
    · exact fun source member => taken.report source (sources.mem_iff.mp member)
    · intro source member unsuccessful
      have listed := sources.mem_iff.mp member
      rw [taken.counted source listed, List.countP_eq_zero]
      intro component present own
      have opened := (taken.kept component present).fromOpen
      rw [taken.status source listed, ← of_decide_eq_true own, opened] at unsuccessful
      cases unsuccessful
    · intro source member
      rw [taken.counted source (sources.mem_iff.mp member), components.countP_eq]
    · rw [components.length_eq]
      exact taken.few
    · exact fun component member => (taken.kept component (components.mem_iff.mp member)).package
    · exact fun component member => (taken.kept component (components.mem_iff.mp member)).named
    · exact fun component member => (taken.kept component (components.mem_iff.mp member)).recorded
  · rw [← kept]
    exact sorting.perm _ _

end Inventory

section Taken

variable {now observedAt : Time} {components : List SoftwareComponent} {sources : List SoftwareSourceResult}

theorem Reported.manager (reported : Reported observedAt components sources) {component : SoftwareComponent}
    (member : component ∈ components) :
    ∃ manager, (manager = dpkg ∨ manager = rpm) ∧ IsPackage manager observedAt component :=
  (reported.package component member).elim (fun first => ⟨dpkg, .inl rfl, first⟩) fun second => ⟨rpm, .inr rfl, second⟩

theorem Reported.sourceId (reported : Reported observedAt components sources) {source : SoftwareSourceResult} (member : source ∈ sources) :
    source.sourceId = ofText dpkg.sourceId ∨ source.sourceId = ofText rpm.sourceId := by
  have listed := reported.sourceIds.mem_iff.mp (List.mem_map_of_mem member)
  simpa only [List.mem_cons, List.not_mem_nil, or_false] using listed

theorem Reported.receivedIds (reported : Reported observedAt components sources) :
    ((sources.map sourceOf).map (·.sourceId)).Perm [dpkg.sourceId, rpm.sourceId] := by
  have perm := reported.sourceIds.map received
  rw [List.map_map, List.map_cons, List.map_singleton, received_sourceId (.inl rfl), received_sourceId (.inr rfl)] at perm
  rw [List.map_map]
  exact perm

theorem received_sourceId_inj {a b : GoString} (first : a = ofText dpkg.sourceId ∨ a = ofText rpm.sourceId)
    (second : b = ofText dpkg.sourceId ∨ b = ofText rpm.sourceId) : received a = received b ↔ a = b := by
  constructor
  · intro same
    rcases first with rfl | rfl <;> rcases second with rfl | rfl
    · rfl
    · rw [received_sourceId (.inl rfl), received_sourceId (.inr rfl)] at same
      exact absurd same (by decide)
    · rw [received_sourceId (.inl rfl), received_sourceId (.inr rfl)] at same
      exact absurd same (by decide)
    · rfl
  · rintro rfl
    rfl

theorem Reported.receive (reported : Reported observedAt components sources) (host : EndpointInventoryRequest) :
    receiveInventory host (components, sources) = .ok { host with
      collectionLimitations := collectionLimitations sources
      softwareSources := sources.map sourceOf
      assets := host.assets.map fun asset => { asset with components := components.map observationOf } } := by
  have read : components.mapM receiveComponent = .ok (components.map observationOf) := by
    rw [mapM_eq_ok, List.forall₂_map_right_iff]
    apply List.forall₂_same.mpr
    intro component member
    obtain ⟨manager, -, package⟩ := reported.manager member
    exact receiveComponent_eq package
  have read' : sources.mapM receiveSource = .ok (sources.map sourceOf) := by
    rw [mapM_eq_ok, List.forall₂_map_right_iff]
    apply List.forall₂_same.mpr
    exact fun source member => receiveSource_eq (reported.report source member)
  unfold receiveInventory
  rw [bind_eq_ok]
  exact ⟨_, read, bind_eq_ok.mpr ⟨_, read', rfl⟩⟩

theorem collectionLimitations_all (reported : Reported observedAt components sources) :
    (collectionLimitations sources).length ≤ 2 ∧ (collectionLimitations sources).all (isLong 1 240) = true := by
  constructor
  · have two := reported.sourceIds.length_eq
    rw [List.length_map] at two
    unfold collectionLimitations
    rw [List.length_map]
    exact (List.length_filter_le _ _).trans two.le
  · rw [List.all_eq_true]
    intro text member
    obtain ⟨source, listed, rfl⟩ := List.mem_map.mp member
    have present := List.mem_of_mem_filter listed
    have named := reported.sourceId present
    cases status : source.status with
    | other text => exact absurd status ((reported.report source present).named text)
    | _ =>
      rcases named with same | same
      · rw [same, received_sourceId (.inl rfl)]
        decide
      · rw [same, received_sourceId (.inr rfl)]
        decide

theorem Reported.native_sources (reported : Reported observedAt components sources) :
    ∀ source ∈ sources.map sourceOf, source.validate = .ok () ∧ source.observedAt = observedAt ∧ source.platform = .linux := by
  intro source member
  obtain ⟨raw, listed, rfl⟩ := List.mem_map.mp member
  have few : raw.recordCount ≤ maxComponentsPerAsset := by
    rw [reported.counted raw listed]
    exact List.countP_le_length.trans reported.few
  refine ⟨validate_sourceOf (reported.report raw listed) (reported.sourceId listed) few (reported.quiet raw listed), ?_, rfl⟩
  show raw.observedAt.getD firstMoment = observedAt
  rw [(reported.report raw listed).observedAt]
  rfl

theorem Reported.native_components (reported : Reported observedAt components sources) :
    ∀ component ∈ components.map observationOf, IsNative (sources.map sourceOf) component := by
  intro component member
  obtain ⟨raw, listed, rfl⟩ := List.mem_map.mp member
  obtain ⟨manager, known, package⟩ := reported.manager listed
  exact isNative_observationOf known package fun source here => (reported.native_sources source here).2.1

theorem Reported.valid_components (reported : Reported observedAt components sources) (inTime : observedAt ≤ now + maxFutureSkew) :
    ∀ component ∈ components.map observationOf, validateComponent now component = .ok () := by
  intro component member
  obtain ⟨raw, listed, rfl⟩ := List.mem_map.mp member
  obtain ⟨manager, known, package⟩ := reported.manager listed
  exact validateComponent_observationOf known package (reported.named raw listed) (reported.recorded raw listed) inTime

theorem Reported.component_source (reported : Reported observedAt components sources) {component : SoftwareComponent}
    (member : component ∈ components) :
    component.collectionSource = ofText dpkg.sourceId ∨ component.collectionSource = ofText rpm.sourceId :=
  (reported.package component member).imp (·.collectionSource) (·.collectionSource)

theorem Reported.native_counts (reported : Reported observedAt components sources) : ∀ source ∈ sources.map sourceOf,
    source.recordCount = (components.map observationOf).countP (hasSource source.sourceId) := by
  intro source member
  obtain ⟨raw, listed, rfl⟩ := List.mem_map.mp member
  show raw.recordCount = _
  rw [reported.counted raw listed, List.countP_map]
  apply List.countP_congr
  intro component present
  show decide (component.collectionSource = raw.sourceId) = true ↔
    (some (received component.collectionSource) == some (received raw.sourceId)) = true
  rw [decide_eq_true_eq, beq_iff_eq, Option.some.injEq,
    received_sourceId_inj (reported.component_source present) (reported.sourceId listed)]

theorem Reported.native_reported (reported : Reported observedAt components sources) :
    ∀ component ∈ components.map observationOf,
      component.collectionSourceId.all ((sources.map sourceOf).map (·.sourceId)).contains = true := by
  intro component member
  obtain ⟨raw, listed, rfl⟩ := List.mem_map.mp member
  show ((sources.map sourceOf).map (·.sourceId)).contains (received raw.collectionSource) = true
  rw [List.contains_eq_mem, decide_eq_true_eq, reported.receivedIds.mem_iff]
  rcases reported.component_source listed with same | same
  · rw [same, received_sourceId (.inl rfl)]
    exact List.mem_cons_self
  · rw [same, received_sourceId (.inr rfl)]
    exact List.mem_cons_of_mem _ List.mem_cons_self

theorem Reported.taken_iff (reported : Reported observedAt components sources) (host : HostInventory now observedAt) :
    IsTaken now (receiveInventory host.request (components, sources)) ↔ (components.map packageRecord).Nodup := by
  obtain ⟨fields, window, strings, -, assets, -, evidence, network, -, -, -, -, -, -, -⟩ := validate_iff.mp host.taken
  obtain ⟨few_limitations, limitations⟩ := collectionLimitations_all reported
  have two : sources.length = 2 := by
    have length := reported.sourceIds.length_eq
    rwa [List.length_map] at length
  have inTime : observedAt ≤ now + maxFutureSkew := by
    rw [Bool.and_eq_true, decide_eq_true_eq, host.observed] at window
    exact window.1
  rw [host.single] at assets evidence network
  have asset_valid : EndpointAsset.validate now { host.asset with components := components.map observationOf } = .ok () := by
    apply asset_validate (assets host.asset (List.mem_singleton_self _))
    · rw [List.length_map]
      exact reported.few
    · exact reported.valid_components inTime
    · intro component member
      obtain ⟨raw, -, rfl⟩ := List.mem_map.mp member
      rfl
  have records : (components.map observationOf).map recordOf = components.map packageRecord := by
    rw [List.map_map]
    rfl
  have only : IsTaken now (receiveInventory host.request (components, sources)) ↔
      EndpointInventoryRequest.validate now { host.request with
        collectionLimitations := collectionLimitations sources
        softwareSources := sources.map sourceOf
        assets := [{ host.asset with components := components.map observationOf }] } = .ok () := by
    unfold IsTaken
    rw [reported.receive host.request, host.single]
    constructor
    · rintro ⟨request, same, valid⟩
      cases same
      exact valid
    · exact fun valid => ⟨_, rfl, valid⟩
  have listed : EndpointInventoryRequest.components { host.request with
        collectionLimitations := collectionLimitations sources
        softwareSources := sources.map sourceOf
        assets := [{ host.asset with components := components.map observationOf }] } = components.map observationOf :=
    List.append_nil _
  rw [only, validate_iff, listed]
  constructor
  · rintro ⟨-, -, -, -, -, -, -, -, -, -, -, -, native, -, -⟩
    have distinct := ((validateNativeRecords_iff reported.native_components).mp native).1
    rwa [records] at distinct
  · intro distinct
    refine ⟨?_, window, ?_, ?_, ?_, ?_, evidence, network, ?_, ?_, ?_, ?_, ?_, ?_, ?_⟩
    · simp only [Bool.and_eq_true, decide_eq_true_eq] at fields ⊢
      obtain ⟨⟨⟨⟨named, -⟩, -⟩, -⟩, -⟩ := fields
      rw [List.length_map, two, List.length_singleton]
      exact ⟨⟨⟨⟨named, few_limitations.trans (by decide)⟩, by decide⟩, by decide⟩, by decide⟩
    · rw [List.all_append, Bool.and_eq_true] at strings ⊢
      exact ⟨strings.1, limitations⟩
    · exact fun source member => (reported.native_sources source member).1
    · intro asset member
      rw [List.mem_singleton.mp member]
      exact asset_valid
    · rw [decide_eq_true_eq, List.length_map]
      exact reported.few.trans (by decide)
    · rw [decide_eq_true_eq, reported.receivedIds.nodup_iff]
      decide
    · exact Bool.or_true _
    · exact List.all_eq_true.mpr reported.native_reported
    · rw [List.all_eq_true]
      intro source member
      rw [beq_iff_eq]
      exact reported.native_counts source member
    · rw [validateNativeRecords_iff reported.native_components, records]
      exact ⟨distinct, fun _ _ => List.not_mem_nil⟩
    · rw [List.all_eq_true]
      intro source member
      rw [decide_eq_true_eq, (reported.native_sources source member).2.1, host.observed]
      exact le_add_of_nonneg_right (by decide)
    · rw [host.platform]
      show ((platformNamed "linux").all _) = true
      rw [show platformNamed "linux" = some .linux from by decide, Option.all_some, List.all_eq_true]
      intro source member
      rw [(reported.native_sources source member).2.2]
      rfl

end Taken

section Samples

/-- The hub takes an inventory exactly where no two of the packages in it are one record of one source. -/
theorem inventory_taken_iff_records_distinct (sorting : SliceSort) (beyond : Char → Char) (now observedAt : Time)
    (dpkgOutcome rpmOutcome : Option CommandOutcome) (host : HostInventory now observedAt) :
    IsTaken now (receiveInventory host.request
        (finalize sorting beyond (collectPlatform observedAt dpkgOutcome rpmOutcome) observedAt)) ↔
      (((distinctPackages sorting beyond observedAt (collectPlatform observedAt dpkgOutcome rpmOutcome)).take maxPackages).map
        packageRecord).Nodup := by
  obtain ⟨components, sources, final, reported, perm⟩ := reported_finalize sorting beyond observedAt dpkgOutcome rpmOutcome
  rw [final, reported.taken_iff host]
  exact (perm.map packageRecord).nodup_iff

/-- A sort that keeps equal items in their order. -/
def stableSort : SliceSort where
  sort less items := items.insertionSort fun a b => less b a = false
  perm _ items := List.perm_insertionSort _ items
  sorted less items asymm negTrans := by
    have : Std.Total fun a b => less b a = false := by
      constructor
      intro a b
      cases after : less b a
      · exact .inl rfl
      · exact .inr (asymm b a after)
    have : IsTrans _ fun a b => less b a = false := ⟨fun a b c first second => negTrans c b a second first⟩
    exact List.pairwise_insertionSort _ items

def sampleMoment : Time := 1782864000000000

def sampleHost : HostInventory sampleMoment sampleMoment where
  request := { inventoryBatchId := "batch-01", observedAt := sampleMoment, isComplete := true, platform := some "linux", assets := [{}] }
  asset := {}
  single := rfl
  bare := ⟨rfl, rfl, rfl⟩
  platform := rfl
  observed := rfl
  taken := by decide

/-- A host keeps its former kernel when it installs another. -/
def twoKernels : CommandOutcome where
  output := ofText "kernel\t1-1\tx86_64\nkernel\t2-1\tx86_64\n"

theorem two_kernels_refused : ¬ IsTaken sampleMoment (receiveInventory sampleHost.request
    (finalize stableSort id (collectPlatform sampleMoment none (some twoKernels)) sampleMoment)) := by
  obtain ⟨components, sources, final, reported, perm⟩ := reported_finalize stableSort id sampleMoment none (some twoKernels)
  rw [final, reported.taken_iff sampleHost, (perm.map packageRecord).nodup_iff]
  decide

end Samples

end OpenAssetWatch.Agent
