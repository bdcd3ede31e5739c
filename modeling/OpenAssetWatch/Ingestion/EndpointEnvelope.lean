import OpenAssetWatch.Ingestion.Endpoint

namespace OpenAssetWatch.Ingestion

open Library Text Component

inductive EnvelopeError where
  | structureLimit
  | stringLimit
  | objectLimit
  | keyInvalid
  | listLimit
  | notObject
  | siteInvalid
  | futureSkew
  | localObject
  | localSite
  | localAssets
  | networkAssets
  | overflow
  | contract (error : ContractError)
deriving DecidableEq, Repr

def EnvelopeError.message : EnvelopeError → String
  | .structureLimit => "compatibility payload structure limit exceeded"
  | .stringLimit => "compatibility payload string limit exceeded"
  | .objectLimit => "compatibility payload object limit exceeded"
  | .keyInvalid => "compatibility payload key is invalid"
  | .listLimit => "compatibility payload list limit exceeded"
  | .notObject => "asset must be an object"
  | .siteInvalid => ""
  | .futureSkew => "observation time exceeds the allowed future skew"
  | .localObject => "local inventory payload must be an object"
  | .localSite => "local inventory site_id is invalid"
  | .localAssets => "local inventory asset limit exceeded"
  | .networkAssets => "legacy collector network asset limit exceeded"
  | .overflow => "date value out of range"
  | .contract error => error.message

def authorityFieldNames : List String :=
  ["agent_authority", "authoritative", "credential_id", "management_state", "risk", "risk_score", "severity_override",
    "site_authority", "source_authenticated", "source_authority", "tenant_authority", "trust_rank"]

def isAuthorityField (key : String) : Bool := authorityFieldNames.contains (String.ofList (casefold key.toList))

def enterNode (depth nodes : Nat) : Except EnvelopeError Nat := do
  require (nodes + 1 ≤ 50000 && depth ≤ 10) .structureLimit
  return nodes + 1

mutual

/-- `visit` of `_bounded_json`, with the number of nodes so far. -/
def visit (depth nodes : Nat) : Json → Except EnvelopeError (Json × Nat)
  | .string text => do
    let nodes ← enterNode depth nodes
    require (text.length ≤ 2048) .stringLimit
    return (.string text, nodes)
  | .object entries => do
    let nodes ← enterNode depth nodes
    require (entries.length ≤ 256) .objectLimit
    let (entries, nodes) ← visitEntries (depth + 1) nodes entries
    return (.object entries, nodes)
  | .array items => do
    let nodes ← enterNode depth nodes
    require (items.length ≤ 8000) .listLimit
    let (items, nodes) ← visitItems (depth + 1) nodes items
    return (.array items, nodes)
  | value => do
    let nodes ← enterNode depth nodes
    return (value, nodes)

def visitEntries (depth nodes : Nat) : List (String × Json) → Except EnvelopeError (List (String × Json) × Nat)
  | [] => .ok ([], nodes)
  | (key, value) :: rest => do
    require (isLong 1 128 key) .keyInvalid
    if isAuthorityField key then visitEntries depth nodes rest
    else do
      let (value, nodes) ← visit depth nodes value
      let (rest, nodes) ← visitEntries depth nodes rest
      return ((key, value) :: rest, nodes)

def visitItems (depth nodes : Nat) : List Json → Except EnvelopeError (List Json × Nat)
  | [] => .ok ([], nodes)
  | item :: rest => do
    let (item, nodes) ← visit depth nodes item
    let (rest, nodes) ← visitItems depth nodes rest
    return (item :: rest, nodes)

end

def boundedJson (value : Json) : Except EnvelopeError Json := (visit 0 0 value).map Prod.fst

/-- `exclude_none=True`. -/
def present (entries : List (String × Json)) : List (String × Json) := entries.filter (!·.2.isNull)

def clientComponent (component : ComponentObservation) : Json :=
  match component.dump with
  | .object entries => .object (present entries)
  | other => other

def EndpointIPAddress.client (address : EndpointIPAddress) : Json :=
  .object (present [("address", .string address.address), ("family", .ofText address.family)])

def EndpointInterface.client (interface : EndpointInterface) : Json :=
  .object (present
    [("name", .string interface.name),
      ("mac_address", .ofText interface.macAddress),
      ("ip_addresses", .array (interface.ipAddresses.map (·.client)))])

def EndpointEvidence.client (evidence : EndpointEvidence) : Json :=
  .object
    [("kind", .string evidence.kind),
      ("value", .string evidence.value),
      ("method", .string evidence.method),
      ("confidence", .number evidence.confidence)]

/-- The dump of an asset, with its interfaces spread out as `endpoint_envelope` does. -/
def EndpointAsset.client (asset : EndpointAsset) (inventoryComplete : Bool) : Json :=
  .object (present
    [("asset_id", .ofText asset.assetId),
      ("hostname", .ofText asset.hostname),
      ("fqdn", .ofText asset.fqdn),
      ("os", .ofText asset.os),
      ("platform", .ofText asset.platform),
      ("architecture", .ofText asset.architecture),
      ("category", .ofText asset.category),
      ("evidence", .array (asset.evidence.map (·.client))),
      ("components", .array (asset.components.map clientComponent)),
      ("management_capabilities", .array (asset.managementCapabilities.map .string)),
      ("primary_interfaces", .array (asset.interfaces.map (·.client))),
      ("ip_addresses", .array (asset.interfaces.flatMap fun interface => interface.ipAddresses.map (·.client))),
      ("mac_addresses", .array (asset.interfaces.filterMap fun interface =>
        interface.macAddress.map fun address => .object [("address", .string address)])),
      ("component_inventory_complete", .bool inventoryComplete)])

section

variable (printed : Json → String)

/-- `_text`. -/
def shortText (limit : Nat) (value : Json) : Option String :=
  (cleanText printed value).map fun text => String.ofList (text.toList.take limit)

/-- The white space that the contracts strip; the separators of ASCII are not among it. -/
def isWhiteSpace (c : Char) : Bool := isSpace c && !(28 ≤ c.toNat && c.toNat ≤ 31)

/-- `_text` of a field of a contract, which strips it once more. -/
def fieldText (limit : Nat) (value : Json) : Option String :=
  (shortText printed limit value).map fun text => String.ofList (stripChars isWhiteSpace text.toList)

def componentTypeNamed (text : String) : Option ComponentType :=
  [.application, .operatingSystemPackage, .library, .runtime, .driver, .firmware, .operatingSystem, .securityTool,
    .unknown].find? fun componentType : ComponentType => componentType.text == text

def reportedConfidence (value : Json) : ℚ :=
  match value with
  | .number value => value
  | .bool value => if value then 1 else 0
  | _ => 7 / 10

/-- The strings of a contract without the white space around them. -/
def contractText (text : String) : String := String.ofList (stripChars isWhiteSpace text.toList)

/-- A dict of strings, of which the contract strips the keys as well. -/
def reportedMetadata (value : Json) : Except EnvelopeError (List (String × String)) :=
  match value with
  | .object entries => do
    let pairs ← entries.mapM fun (key, value) =>
      match value with
      | .string text => Except.ok (contractText key, contractText text)
      | _ => .error (.contract .fieldConstraint)
    return pairs.foldl (fun metadata (key, text) => DictEntries.update key (fun _ => text) metadata) []
  | _ => .ok []

def reportedFirmwareEvidence (value : Json) : Except EnvelopeError FirmwareEvidenceType :=
  match firmwareEvidenceTypes.lookup ((fieldText printed 32 value).getD "unknown") with
  | some evidenceType => .ok evidenceType
  | none => .error (.contract .fieldConstraint)

/-- `_component`; it passes no observation time and no evidence on. -/
def componentFrom (defaultType : ComponentType) (entry : Json) : Except EnvelopeError (Option ComponentObservation) :=
  match shortText printed 240 (firstOf entry ["name", "package", "product"]) with
  | none => .ok none
  | some name => do
    let metadata ← reportedMetadata (entry.get "metadata")
    let firmwareEvidenceType ← reportedFirmwareEvidence printed (entry.get "firmware_evidence_type")
    let component : ComponentObservation :=
      { componentType := ((shortText printed 40 (entry.get "component_type")).bind componentTypeNamed).getD defaultType
        ecosystem := (fieldText printed 40 (firstOf entry ["ecosystem", "package_manager"])).getD "generic"
        name := String.ofList (stripChars isWhiteSpace name.toList)
        version := fieldText printed 160 (entry.get "version")
        packageNamespace := fieldText printed 160 (entry.get "namespace")
        vendor := fieldText printed 160 (firstOf entry ["vendor", "publisher"])
        architecture := fieldText printed 40 (entry.get "architecture")
        packageManager := fieldText printed 48 (entry.get "package_manager")
        purl := fieldText printed 600 (entry.get "purl")
        installScope := (fieldText printed 40 (entry.get "install_scope")).getD "system"
        firmwareEvidenceType
        confidence := reportedConfidence (entry.get "confidence")
        collectionSourceId := fieldText printed 64 (entry.get "collection_source_id")
        sourceRecordId := fieldText printed 240 (entry.get "source_record_id")
        evidenceMethod := fieldText printed 64 (entry.get "evidence_method")
        metadata }
    (validateComponent 0 component).mapError .contract
    return some component

def reportedItems (value : Json) : List Json :=
  match value with
  | .array items => items
  | _ => []

def objectOrEmpty (value : Json) : Json := if value.isObject then value else .object []

def evidenceFrom (item : Json) : Option CanonicalEvidence :=
  if item.isObject then do
    let kind ← shortText printed 80 (item.get "kind")
    let value ← shortText printed 512 (item.get "value")
    return {
      protocol := (shortText printed 64 (firstOf item ["protocol", "method"])).getD "inventory"
      kind
      value
      confidence := reportedConfidence (item.get "confidence") }
  else none

/-- The address of an interface takes the place of one that the asset does not name. -/
def interfaceAddresses (named : Option String × Option String) (interface : Json) : Option String × Option String :=
  if interface.isObject then
    (named.1.orElse fun _ => shortText printed 64 (interface.get "mac_address"),
      (reportedItems (interface.get "ip_addresses")).foldl
        (fun primaryIp address =>
          primaryIp.orElse fun _ => if address.isObject then shortText printed 64 (address.get "address") else none)
        named.2)
  else named

def componentsUnder (safe : Json) (field : String × ComponentType) : Except EnvelopeError (List ComponentObservation) := do
  let entries := (reportedItems (safe.get field.1)).take 2000
  let found ← entries.mapM fun entry =>
    match entry with
    | .string name => componentFrom printed field.2 (.object [("name", .string name)])
    | .object entries => componentFrom printed field.2 (.object entries)
    | _ => .ok none
  return found.filterMap id

/-- `_asset_from_mapping`. -/
def assetFromMapping (value : Json) (index : Nat) : Except EnvelopeError CanonicalAsset := do
  let safe ← boundedJson value
  require safe.isObject .notObject
  let host := objectOrEmpty (safe.get "host")
  let platformInfo := objectOrEmpty (safe.get "platform_info")
  let hostname := shortText printed 255 ((safe.get "hostname").orElse (host.get "hostname"))
  let (mac, primaryIp) := (reportedItems (safe.get "primary_interfaces")).foldl (interfaceAddresses printed)
    (shortText printed 64 (firstOf safe ["mac", "mac_address"]), shortText printed 64 (safe.get "primary_ip"))
  let named := ((safe.get "asset_id").orElse (.ofText hostname)).orElse ((Json.ofText mac).orElse (.ofText primaryIp))
  let components ← [("components", ComponentType.application), ("software", .application),
    ("packages", .operatingSystemPackage)].mapM (componentsUnder printed safe)
  return {
    assetId := (shortText printed 160 named).getD ("observed-" ++ toString (index + 1))
    hostname
    primaryIp
    mac
    os := shortText printed 160 ((safe.get "os").orElse (platformInfo.get "os"))
    platform := shortText printed 160 ((safe.get "platform").orElse (platformInfo.get "platform"))
    category := shortText printed 80 (safe.get "category")
    evidence := ((reportedItems (safe.get "evidence")).take 64).filterMap (evidenceFrom printed)
    components := components.flatten
    componentInventoryComplete := (safe.get "component_inventory_complete").isTruthy
    metadata := match safe with
      | .object entries => entries
      | _ => [] }

/-- What the credential of an endpoint agent binds it to. -/
structure AgentContext where
  siteId : String
  agentId : String
  credentialId : String

variable (digest : List String → HexDigest) (payloadDigest : EndpointInventoryRequest → String)

def canonicalSource (source : NativeSoftwareSourceResult) : CanonicalSoftwareSource where
  sourceId := source.sourceId
  platform := source.platform
  status := source.status
  observedAt := source.observedAt
  recordCount := source.recordCount
  truncated := source.truncated
  errorCode := source.errorCode
  limitations := source.limitations

def endpointEnvelope (inventory : AdmittedInventory) (context : AgentContext) :
    Except EnvelopeError CanonicalInventoryEnvelope := do
  let inventoryComplete := inventory.isComplete && inventory.softwareSources.isEmpty
  let assets ← (inventory.assets.zipIdx).mapM fun (asset, index) =>
    assetFromMapping printed (asset.client inventoryComplete) index
  let sourceId := "src_" ++ (digest [context.siteId, "endpoint-agent", "bound-credential", context.agentId]).text
  if site : context.siteId.toList.all isSiteChar = true then
    if notAhead : inventory.observedAt ≤ inventory.receivedAt + maxFutureSkew then
      return {
        routeName := "/api/v1/agents/inventory"
        siteId := context.siteId
        sourceId
        sourceIdentity := context.agentId
        sourceType := .endpointAgent
        adapterType := .endpointAgent
        authenticationClass := .boundCredential
        sourceAuthority := .authenticatedEndpoint
        rank := 90
        compatibilityStatus := .canonical
        observedAt := inventory.observedAt
        ingestedAt := inventory.receivedAt
        inventoryMode := if inventory.isComplete then .complete else .partially
        idempotencyKey := inventory.inventoryBatchId
        canonicalCollectionId := "col_" ++ (digest [sourceId, "endpoint-agent", inventory.inventoryBatchId]).text
        payloadSha256 := payloadDigest inventory.toEndpointInventoryRequest
        originalIdentifier := some inventory.inventoryBatchId
        assets
        softwareSources := inventory.softwareSources.map canonicalSource
        credentialId := some context.credentialId
        boundIdentityId := some context.agentId
        site
        sourceTypeMatches := rfl
        rankMatches := rfl
        compatibilityMatches := rfl
        adapterMatches := fun adapter member => by cases member; rfl
        authenticated := fun _ => rfl
        notAhead }
    else .error .futureSkew
  else .error .siteInvalid

end

end OpenAssetWatch.Ingestion
