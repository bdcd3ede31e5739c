import OpenAssetWatch.Classification.Evidence

namespace OpenAssetWatch.Classification

open Library OpenAssetWatch.Text
open Temporal (float)

inductive SignalAttribute where
  | category
  | subtype
  | manufacturer
  | productHint
  | osFamily
  | osVersionHint
deriving DecidableEq, Repr

structure Signal where
  attr : SignalAttribute
  value : List Char
  weight : ℚ
  evidenceId : String
  sourceKey : List Char
  direct : Bool
  freshness : EvidenceFreshness
  reasonCode : ReasonCode
deriving DecidableEq, Repr

/-- `_os_family`. -/
def osFamily (value : List Char) : Option String :=
  let normalized := normalizedText 160 value
  if occursIn "windows" normalized then some "Windows"
  else if ["macos", "mac os", "darwin"].any (occursIn · normalized) then some "macOS"
  else if ["ios", "iphone", "ipad"].any (occursIn · normalized) then some "iOS"
  else if occursIn "android" normalized then some "Android"
  else if ["linux", "ubuntu", "debian", "rhel", "fedora", "centos"].any (occursIn · normalized) then some "Linux"
  else if ["freebsd", "openbsd", "netbsd"].any (occursIn · normalized) then some "BSD"
  else none

/-- The weight of a signal after the confidence in its source and its age. -/
def adjustedWeight (evidence : ClassificationEvidence) (weight : ℚ) (freshness : EvidenceFreshness) : ℚ :=
  max 0 (min (float (float (weight * finiteConfidence evidence.sourceConfidence) *
    freshnessFactor freshness evidence.sourceRevoked)) (float (99 / 100)))

/-- `_category_signal`. -/
def categorySignal (evidence : ClassificationEvidence) (freshness : EvidenceFreshness) (category : AssetCategory) (weight : ℚ)
    (reasonCode : ReasonCode) : Signal where
  attr := .category
  value := category.text.toList
  weight := adjustedWeight evidence weight freshness
  evidenceId := evidence.evidenceId
  sourceKey := evidence.sourceKey
  direct := evidence.direct
  freshness := freshness
  reasonCode := reasonCode

/-- `_attribute_signal`. -/
def attributeSignal (evidence : ClassificationEvidence) (freshness : EvidenceFreshness) (attr : SignalAttribute)
    (value : List Char) (weight : ℚ) (reasonCode : ReasonCode) : Signal where
  attr := attr
  value := boundedText 160 value
  weight := adjustedWeight evidence weight freshness
  evidenceId := evidence.evidenceId
  sourceKey := evidence.sourceKey
  direct := evidence.direct
  freshness := freshness
  reasonCode := reasonCode

def isLabelChar (c : Char) : Bool := ('a' ≤ c && c ≤ 'z') || ('0' ≤ c && c ≤ '9')

/-- The words that say what a host is. -/
def hostnameLabels : List (List String × AssetCategory) :=
  [(["printer", "print", "laserjet"], .printer), (["camera", "cam", "nvr"], .camera), (["nas", "storage"], .storage),
    (["router", "switch", "firewall", "gateway", "ap"], .networkDevice), (["tv", "media", "cast"], .mediaDevice)]

/-- `_hostname_category`. -/
def hostnameCategory (value : List Char) : Option AssetCategory :=
  let labels := (normalizedText 255 value).splitOnP (!isLabelChar ·)
  (hostnameLabels.find? fun entry => entry.1.any fun label => labels.contains label.toList).map Prod.snd

abbrev Mappings := List (List String × AssetCategory)

def dhcpMappings : Mappings :=
  [(["printer", "jetdirect"], .printer), (["camera", "ipc"], .camera), (["android", "iphone", "ipad"], .mobile),
    (["router", "switch", "gateway", "firewall", "accesspoint"], .networkDevice), (["nas", "storage"], .storage)]

def mdnsMappings : Mappings :=
  [(["_ipp", "_printer", "printer"], .printer), (["_airplay", "_googlecast", "_raop", "mediarenderer"], .mediaDevice),
    (["_smb", "_afpovertcp", "_nfs"], .storage), (["_axis-video", "_camera", "_rtsp"], .camera)]

def ssdpMappings : Mappings :=
  [(["internetgatewaydevice", "wanconnectiondevice", "router"], .networkDevice),
    (["mediarenderer", "mediaserver", "dial", "roku"], .mediaDevice), (["printer", "printbasic"], .printer),
    (["camera", "digital_security_camera", "networkvideo"], .camera), (["storage", "nas"], .storage)]

/-- The category of the first mapping of which a needle occurs in the value. -/
def mapped (mappings : Mappings) (normalized : List Char) : Option AssetCategory :=
  (mappings.find? fun entry => entry.1.any (occursIn · normalized)).map Prod.snd

/-- The parts of an item that its signals are read from. -/
structure Reading where
  kind : List Char
  method : List Char
  value : List Char
  normalized : List Char
  freshness : EvidenceFreshness

def ClassificationEvidence.reading (evidence : ClassificationEvidence) (now : Time) : Reading where
  kind := replaceChar '_' '-' (normalizedText 80 evidence.kind.toList)
  method := normalizedText 64 evidence.collectionMethod.toList
  value := boundedText 512 evidence.value.toList
  normalized := casefold (boundedText 512 evidence.value.toList)
  freshness := evidence.freshness now

def Reading.isKind (reading : Reading) (kinds : List String) : Bool := kinds.any fun kind => kind.toList = reading.kind

section

variable (evidence : ClassificationEvidence) (reading : Reading)

/-- A signal of a category that an item names itself. -/
def namedCategory (weight : ℚ) (reasonCode : ReasonCode) : List Signal :=
  match categoryName reading.value with
  | some .unknown => []
  | some category => [categorySignal evidence reading.freshness category weight reasonCode]
  | none => []

def directCategorySignals : List Signal :=
  if evidence.direct && reading.isKind ["category", "asset-category", "device-category", "device-type"] then
    namedCategory evidence reading (float (98 / 100)) .directCategory
  else []

def roleSignals : List Signal :=
  if evidence.direct && reading.isKind ["role", "device-role", "subtype"] then
    namedCategory evidence reading (float (94 / 100)) .directDeviceRole ++
      [attributeSignal evidence reading.freshness .subtype reading.value (float (9 / 10)) .directDeviceRole]
  else []

/-- The category that the family of a directly seen operating system stands for. -/
def familyCategory (family : String) : List Signal :=
  if family = "Windows" || family = "macOS" then
    if occursIn "server" reading.normalized then
      [categorySignal evidence reading.freshness .server (float (96 / 100)) .directEndpointOs]
    else [categorySignal evidence reading.freshness .workstation (float (91 / 100)) .directEndpointOs]
  else if family = "Android" || family = "iOS" then
    [categorySignal evidence reading.freshness .mobile (float (96 / 100)) .directEndpointOs]
  else []

def osSignals : List Signal :=
  if reading.isKind ["os", "os-family", "platform", "platform-os"] then
    match osFamily reading.value with
    | none => []
    | some family =>
      attributeSignal evidence reading.freshness .osFamily family.toList
          (if evidence.direct then float (98 / 100) else float (55 / 100))
          (if evidence.direct then .directEndpointOs else .insufficientCategoryEvidence) ::
        if evidence.direct then familyCategory evidence reading family else []
  else []

def osVersionSignals : List Signal :=
  if reading.isKind ["os-version", "version", "platform-version"] && evidence.direct then
    [attributeSignal evidence reading.freshness .osVersionHint reading.value (float (9 / 10)) .directEndpointOs]
  else []

def manufacturerSignals : List Signal :=
  (if reading.isKind ["manufacturer", "vendor", "hardware-vendor"] then
    [attributeSignal evidence reading.freshness .manufacturer reading.value
      (if evidence.direct then float (95 / 100) else float (62 / 100)) .manufacturerOnlyEvidence]
  else []) ++
  if reading.isKind ["oui-manufacturer", "mac-vendor"] then
    [attributeSignal evidence reading.freshness .manufacturer reading.value (float (72 / 100)) .vendorCatalogMatch]
  else []

def productSignals : List Signal :=
  if reading.isKind ["product", "model", "product-model"] then
    [attributeSignal evidence reading.freshness .productHint reading.value
      (if evidence.direct then float (92 / 100) else float (55 / 100))
      (if evidence.direct then .directDeviceRole else .insufficientCategoryEvidence)]
  else []

/-- A signal of a category that a needle in what was seen on the network stands for. -/
def mappedSignals (method : String) (kinds : List String) (mappings : Mappings) (weight : ℚ) (reasonCode : ReasonCode) :
    List Signal :=
  if method.toList = reading.method || reading.isKind kinds then
    match mapped mappings reading.normalized with
    | none => []
    | some category => [categorySignal evidence reading.freshness category weight reasonCode]
  else []

def nameSignals (applies : Bool) (weight : ℚ) (reasonCode : ReasonCode) : List Signal :=
  if applies then
    match hostnameCategory reading.value with
    | none => []
    | some category => [categorySignal evidence reading.freshness category weight reasonCode]
  else []

/-- `_signals_for_evidence`. -/
def signalsForEvidence (now : Time) : List Signal :=
  let reading := evidence.reading now
  directCategorySignals evidence reading ++ roleSignals evidence reading ++ osSignals evidence reading ++
    osVersionSignals evidence reading ++ manufacturerSignals evidence reading ++ productSignals evidence reading ++
    mappedSignals evidence reading "dhcp" ["dhcp-vendor-class", "vendor-class"] dhcpMappings (float (73 / 100))
      .passiveDhcpVendorClass ++
    mappedSignals evidence reading "mdns" ["mdns-service", "service", "service-name"] mdnsMappings (float (78 / 100))
      .passiveMdnsService ++
    mappedSignals evidence reading "ssdp" ["ssdp-device-type", "device-urn", "ssdp-server"] ssdpMappings (float (76 / 100))
      .passiveSsdpDeviceType ++
    nameSignals evidence reading ("nbns".toList = reading.method || reading.isKind ["nbns-name", "netbios-name"])
      (float (43 / 100)) .passiveNbnsName ++
    nameSignals evidence reading (reading.isKind ["hostname", "host-name", "dns-name", "nbns-name"]) (float (34 / 100))
      .weakHostnamePattern

end

/-- What a signal for a category weighs before the discounts. -/
structure CategoryWeight (weight : ℚ) (reasonCode : ReasonCode) : Prop where
  nonneg : 0 ≤ weight
  below : weight ≤ float (98 / 100)
  hostname : reasonCode = .weakHostnamePattern → weight = float (34 / 100)

/-- Whether an item gives a signal: for a category, or for one of the other attributes. -/
inductive IsSignal (evidence : ClassificationEvidence) (freshness : EvidenceFreshness) : Signal → Prop where
  | category (category : AssetCategory) (weight : ℚ) (reasonCode : ReasonCode) (light : CategoryWeight weight reasonCode) :
    IsSignal evidence freshness (categorySignal evidence freshness category weight reasonCode)
  | attr (attr : SignalAttribute) (value : List Char) (weight : ℚ) (reasonCode : ReasonCode) (other : attr ≠ .category) :
    IsSignal evidence freshness (attributeSignal evidence freshness attr value weight reasonCode)

section

variable {evidence : ClassificationEvidence} {reading : Reading} {signal : Signal} {now : Time}

theorem categoryWeight {weight : ℚ} {reasonCode : ReasonCode} (nonneg : 0 ≤ weight) (below : weight ≤ float (98 / 100))
    (other : reasonCode ≠ .weakHostnamePattern) : CategoryWeight weight reasonCode :=
  ⟨nonneg, below, fun same => absurd same other⟩

theorem mem_namedCategory {weight : ℚ} {reasonCode : ReasonCode} (light : CategoryWeight weight reasonCode)
    (member : signal ∈ namedCategory evidence reading weight reasonCode) : IsSignal evidence reading.freshness signal := by
  unfold namedCategory at member
  split at member
  · cases member
  · rw [List.mem_singleton.mp member]
    exact .category _ weight reasonCode light
  · cases member

theorem mem_directCategorySignals (member : signal ∈ directCategorySignals evidence reading) :
    IsSignal evidence reading.freshness signal := by
  unfold directCategorySignals at member
  split at member
  · apply mem_namedCategory _ member
    exact categoryWeight (by decide +kernel) (by decide +kernel) (by decide)
  · cases member

theorem mem_roleSignals (member : signal ∈ roleSignals evidence reading) : IsSignal evidence reading.freshness signal := by
  unfold roleSignals at member
  split at member
  · rcases List.mem_append.mp member with named | role
    · apply mem_namedCategory _ named
      exact categoryWeight (by decide +kernel) (by decide +kernel) (by decide)
    · rw [List.mem_singleton.mp role]
      exact .attr .subtype _ _ _ (by decide)
  · cases member

theorem mem_familyCategory {family : String} (member : signal ∈ familyCategory evidence reading family) :
    IsSignal evidence reading.freshness signal := by
  unfold familyCategory at member
  split at member
  · split at member
    · rw [List.mem_singleton.mp member]
      exact .category _ _ _ (categoryWeight (by decide +kernel) (by decide +kernel) (by decide))
    · rw [List.mem_singleton.mp member]
      exact .category _ _ _ (categoryWeight (by decide +kernel) (by decide +kernel) (by decide))
  · split at member
    · rw [List.mem_singleton.mp member]
      exact .category _ _ _ (categoryWeight (by decide +kernel) (by decide +kernel) (by decide))
    · cases member

theorem mem_osSignals (member : signal ∈ osSignals evidence reading) : IsSignal evidence reading.freshness signal := by
  unfold osSignals at member
  split at member
  · split at member
    · cases member
    · rcases List.mem_cons.mp member with rfl | category
      · exact .attr .osFamily _ _ _ (by decide)
      · split at category
        · exact mem_familyCategory category
        · cases category
  · cases member

theorem mem_osVersionSignals (member : signal ∈ osVersionSignals evidence reading) : IsSignal evidence reading.freshness signal := by
  unfold osVersionSignals at member
  split at member
  · rw [List.mem_singleton.mp member]
    exact .attr .osVersionHint _ _ _ (by decide)
  · cases member

theorem mem_manufacturerSignals (member : signal ∈ manufacturerSignals evidence reading) :
    IsSignal evidence reading.freshness signal := by
  unfold manufacturerSignals at member
  rcases List.mem_append.mp member with reported | catalogued
  · split at reported
    · rw [List.mem_singleton.mp reported]
      exact .attr .manufacturer _ _ _ (by decide)
    · cases reported
  · split at catalogued
    · rw [List.mem_singleton.mp catalogued]
      exact .attr .manufacturer _ _ _ (by decide)
    · cases catalogued

theorem mem_productSignals (member : signal ∈ productSignals evidence reading) : IsSignal evidence reading.freshness signal := by
  unfold productSignals at member
  split at member
  · rw [List.mem_singleton.mp member]
    exact .attr .productHint _ _ _ (by decide)
  · cases member

theorem mem_mappedSignals {method : String} {kinds : List String} {mappings : Mappings} {weight : ℚ} {reasonCode : ReasonCode}
    (light : CategoryWeight weight reasonCode)
    (member : signal ∈ mappedSignals evidence reading method kinds mappings weight reasonCode) :
    IsSignal evidence reading.freshness signal := by
  unfold mappedSignals at member
  split at member
  · split at member
    · cases member
    · rw [List.mem_singleton.mp member]
      exact .category _ weight reasonCode light
  · cases member

theorem mem_nameSignals {applies : Bool} {weight : ℚ} {reasonCode : ReasonCode} (light : CategoryWeight weight reasonCode)
    (member : signal ∈ nameSignals evidence reading applies weight reasonCode) : IsSignal evidence reading.freshness signal := by
  unfold nameSignals at member
  split at member
  · split at member
    · cases member
    · rw [List.mem_singleton.mp member]
      exact .category _ weight reasonCode light
  · cases member

theorem mem_signalsForEvidence (member : signal ∈ signalsForEvidence evidence now) :
    IsSignal evidence (evidence.freshness now) signal := by
  unfold signalsForEvidence at member
  simp only [List.mem_append] at member
  rcases member with (((((((((direct | role) | os) | version) | manufacturer) | product) | dhcp) | mdns) | ssdp) | nbns) | hostname
  · exact mem_directCategorySignals direct
  · exact mem_roleSignals role
  · exact mem_osSignals os
  · exact mem_osVersionSignals version
  · exact mem_manufacturerSignals manufacturer
  · exact mem_productSignals product
  · exact mem_mappedSignals (categoryWeight (by decide +kernel) (by decide +kernel) (by decide)) dhcp
  · exact mem_mappedSignals (categoryWeight (by decide +kernel) (by decide +kernel) (by decide)) mdns
  · exact mem_mappedSignals (categoryWeight (by decide +kernel) (by decide +kernel) (by decide)) ssdp
  · exact mem_nameSignals (categoryWeight (by decide +kernel) (by decide +kernel) (by decide)) nbns
  · exact mem_nameSignals ⟨by decide +kernel, by decide +kernel, fun _ => rfl⟩ hostname

variable {freshness : EvidenceFreshness}

theorem IsSignal.evidenceId (given : IsSignal evidence freshness signal) : signal.evidenceId = evidence.evidenceId := by
  cases given <;> rfl

theorem IsSignal.sourceKey (given : IsSignal evidence freshness signal) : signal.sourceKey = evidence.sourceKey := by
  cases given <;> rfl

theorem IsSignal.category_value (given : IsSignal evidence freshness signal) (category : signal.attr = .category) :
    ∃ named : AssetCategory, signal.value = named.text.toList := by
  cases given with
  | category named => exact ⟨named, rfl⟩
  | attr _ _ _ _ other => exact absurd category other

end

end OpenAssetWatch.Classification
