import OpenAssetWatch.Decode.Dns
import OpenAssetWatch.Library.Dict

namespace OpenAssetWatch.Aggregate

open Library Sensor

def defaultMaxDevices : Int := 2048
def defaultMaxEvidencePerDevice : Int := 32
def defaultMaxIPsPerDevice : Int := 8
def minute : Int := 60 * second
def defaultTTL : Int := 30 * minute
def maxDevicesAbsolute : Int := 100000
def maxIPsPerDeviceAbsolute : Int := 64
def maxTTLAbsolute : Int := 24 * 60 * minute
def maxHostnameLength : Nat := 255
def maxServiceNameLength : Nat := 128
def maxSSDPMetadataLength : Nat := 256
def maxVLANID : Int := 4094
def maxProtocolLength : Nat := 32
def maxEvidenceKindLength : Nat := 64
def maxEvidenceValueLength : Nat := 512

/-- A configuration as it is written. -/
structure ConfigValues where
  siteId : GoString
  maxDevices : Int := 0
  maxEvidencePerDevice : Int := 0
  maxIPsPerDevice : Int := 0
  ttl : Int := 0

/-- A configuration that `New` accepts. -/
structure Config where
  siteId : GoString
  maxDevices : Int
  maxEvidencePerDevice : Int
  maxIPsPerDevice : Int
  ttl : Int
  siteValid : isIdentifier 1 128 isSiteIdentifierChar siteId = true
  devicesBounded : 0 < maxDevices ∧ maxDevices ≤ maxDevicesAbsolute
  evidenceBounded : 0 < maxEvidencePerDevice ∧ maxEvidencePerDevice ≤ maxEvidence
  ipsBounded : 0 < maxIPsPerDevice ∧ maxIPsPerDevice ≤ maxIPsPerDeviceAbsolute
  ttlBounded : 0 < ttl ∧ ttl ≤ maxTTLAbsolute

/-- The default in place of a number that is not positive. -/
def orPositive (value default : Int) : Int := if value ≤ 0 then default else value

theorem orPositive_pos {value default : Int} (positive : 0 < default) : 0 < orPositive value default := by
  unfold orPositive
  split_ifs <;> omega

def Config.new (values : ConfigValues) : Except String Config :=
  let siteId := values.siteId.trimmed
  let maxDevices := orPositive values.maxDevices defaultMaxDevices
  let maxEvidencePerDevice := orPositive values.maxEvidencePerDevice defaultMaxEvidencePerDevice
  let maxIPsPerDevice := orPositive values.maxIPsPerDevice defaultMaxIPsPerDevice
  let ttl := orPositive values.ttl defaultTTL
  if siteId = [] then .error "site ID is required for aggregation"
  else if devices : maxDevicesAbsolute < maxDevices then .error "maximum devices cannot exceed 100000"
  else if evidence : maxEvidence < maxEvidencePerDevice then .error "maximum evidence per device cannot exceed 32"
  else if ips : maxIPsPerDeviceAbsolute < maxIPsPerDevice then .error "maximum IPs per device cannot exceed 64"
  else if lives : maxTTLAbsolute < ttl then .error "aggregation TTL cannot exceed 24h0m0s"
  else if site : isIdentifier 1 128 isSiteIdentifierChar siteId then
    .ok {
      siteId, maxDevices, maxEvidencePerDevice, maxIPsPerDevice, ttl
      siteValid := site
      devicesBounded := ⟨orPositive_pos (by decide), not_lt.mp devices⟩
      evidenceBounded := ⟨orPositive_pos (by decide), not_lt.mp evidence⟩
      ipsBounded := ⟨orPositive_pos (by decide), not_lt.mp ips⟩
      ttlBounded := ⟨orPositive_pos (by decide), not_lt.mp lives⟩ }
  else .error "site_id must be 1 to 128 characters using letters, digits, dot, underscore, or hyphen"

/-- A device; the score of its hostname is the confidence it came with. -/
structure Device where
  mac : GoString
  vlanId : Option Int
  hostname : GoString := []
  hostScore : ℚ := 0
  firstSeen : Instant
  lastSeen : Instant
  ips : Dict GoString Instant := .empty
  evidence : Dict (List UInt8) Evidence := .empty

structure Aggregator where
  config : Config
  devices : Dict (List UInt8) Device := .empty
  dropped : Nat := 0

inductive AddError where
  | invalid (message : String)
  | capacity
deriving DecidableEq

/-- Bytes as sorting compares them. -/
def byteOrder (key : List UInt8) : List Nat := key.map UInt8.toNat

/-- The number that a finite `float64` is. -/
def number : Float64 → ℚ
  | .finite value => value
  | .infinite => 0
  | .notANumber => 0

def isFinite : Float64 → Bool
  | .finite _ => true
  | .infinite => false
  | .notANumber => false

def clamp (value : ℚ) : ℚ := if value < 0 then 0 else if 1 < value then 1 else value

section Evidence

def observationProtocols : List String := ["arp", "dhcpv4", "dns", "mdns", "ssdp", "nbns"]

def isText (value : GoString) (text : String) : Bool := value = GoString.ofText text

def validateEvidence (item : Decode.Evidence) : Except String Unit := do
  require (item.vlanId.all fun vlan => 0 ≤ vlan && vlan ≤ maxVLANID) "observation VLAN ID is outside 0..4094"
  require (item.protocol ≠ [] && item.protocol.byteLength ≤ maxProtocolLength) "observation protocol is missing or too long"
  require (observationProtocols.any (isText item.protocol)) "unsupported observation protocol"
  require (item.kind.byteLength ≠ 0 && item.kind.byteLength ≤ maxEvidenceKindLength) "observation kind is missing or too long"
  require (item.value.byteLength ≤ maxEvidenceValueLength) "observation value exceeds bounded evidence size"
  require (!(item.hostname ≠ [] && maxHostnameLength < item.hostname.byteLength)) "observation hostname exceeds bounded size"
  require (!(isText item.protocol "ssdp" && maxSSDPMetadataLength < item.value.byteLength)) "SSDP metadata exceeds bounded evidence size"
  require (!((isText item.kind "service-name" || isText item.kind "service-target") && maxServiceNameLength < item.value.byteLength))
    "service name exceeds bounded evidence size"
  require (isFinite item.confidence) "observation confidence must be finite"
  require (item.observedAt ≠ 0) "observation timestamp is required"

def normalizeMAC (value : GoString) : Except String GoString :=
  match Decode.parseMAC value.trimmed.runes with
  | none => .error "observation requires a valid six-byte MAC address"
  | some octets =>
    if (octets.headD 0).toNat % 2 ≠ 0 then .error "multicast MAC cannot identify a device"
    else if octets.all (· == 0) then .error "zero MAC cannot identify a device"
    else .ok (Decode.hardwareText octets)

def vlanText (vlanId : Option Int) : GoString :=
  match vlanId with
  | none => GoString.ofText "untagged"
  | some vlan => GoString.ofText (toString vlan)

def deviceKey (siteId mac : GoString) (vlanId : Option Int) : List UInt8 :=
  (GoString.joinNul [siteId, vlanText vlanId, mac]).bytes

/-- A character below the blank, or DEL. -/
def isLowControl (rune : Rune) : Bool := rune.decoded.toNat < 0x20 || rune.decoded.toNat == 0x7f

def cleanHostname (value : GoString) : GoString :=
  let value := value.trimmed
  if value = [] || maxHostnameLength < value.byteLength then []
  else if value.any isLowControl then [] else value

def cleanEvidenceValue (protocol value : GoString) : GoString :=
  let value := value.trimmed
  let limit := if isText protocol "ssdp" then maxSSDPMetadataLength else maxEvidenceValueLength
  if limit < value.byteLength then []
  else if value.any isLowControl then [] else value

def evidenceKey (protocol kind value : GoString) : List UInt8 := (GoString.joinNul [protocol, kind, value]).bytes

/-- An ordinary DNS query, which is not kept as history of a device. -/
def isQuery (item : Decode.Evidence) : Bool := isText item.protocol "dns" && isText item.kind "query-name"

end Evidence

/-- Whether a device was last seen long enough ago to be removed. -/
def Device.isExpired (device : Device) (ttl : Int) (now : Instant) : Bool := device.lastSeen < now - ttl

/-- `expireLocked`. -/
def Aggregator.expire (a : Aggregator) (now : Instant) : Aggregator :=
  { a with devices :=
      ⟨a.devices.entries.filter fun entry => !entry.2.isExpired a.config.ttl now, a.devices.nodup_filter_keys _⟩ }

section Add

-- `net.ParseIP` of the trimmed text, and the text of the address.
variable (parseIP : GoString → Option GoString)

/-- The observed address and how many are dropped for it. -/
def Device.seeIP (device : Device) (maxIPs : Int) (item : Decode.Evidence) : Device × Nat :=
  match parseIP item.ip.trimmed with
  | none => (device, 0)
  | some ip =>
    if (device.ips.get? ip).isSome || device.ips.size < maxIPs then ({ device with ips := device.ips.set ip item.observedAt }, 0)
    else (device, 1)

def Device.takesHostname (device : Device) (item : Decode.Evidence) : Bool :=
  cleanHostname item.hostname ≠ [] && (device.hostname = [] || device.hostScore < number item.confidence)

/-- What an observation changes of a device apart from its evidence. -/
def Device.observe (device : Device) (maxIPs : Int) (item : Decode.Evidence) : Device × Nat :=
  let device := if device.lastSeen < item.observedAt then { device with lastSeen := item.observedAt } else device
  let (device, dropped) := device.seeIP parseIP maxIPs item
  (if device.takesHostname item then { device with hostname := cleanHostname item.hostname, hostScore := number item.confidence }
    else device, dropped)

def Device.fresh (mac : GoString) (item : Decode.Evidence) : Device :=
  { mac, vlanId := item.vlanId, firstSeen := item.observedAt, lastSeen := item.observedAt }

/-- The evidence of an observation, which the device has no place for when it holds its most. -/
def Device.keepEvidence (device : Device) (maxEvidencePerDevice : Int) (item : Decode.Evidence) : Device × Option AddError :=
  -- ordinary DNS queries are deliberately not kept
  if isQuery item then (device, none)
  else
    let value := cleanEvidenceValue item.protocol item.value
    if value = [] then (device, none)
    else
      let entry := evidenceKey item.protocol item.kind value
      if (device.evidence.get? entry).isNone && maxEvidencePerDevice ≤ device.evidence.size then (device, some .capacity)
      else
        let kept : Evidence := { protocol := item.protocol, kind := item.kind, value, confidence := .finite (clamp (number item.confidence)) }
        ({ device with evidence := device.evidence.set entry kept }, none)

/-- The part of `Add` that has a device, new or old, under its key. -/
def Aggregator.record (a : Aggregator) (key : List UInt8) (device : Device) (item : Decode.Evidence) : Aggregator × Option AddError :=
  let (device, addresses) := device.observe parseIP a.config.maxIPsPerDevice item
  let (device, refused) := device.keepEvidence a.config.maxEvidencePerDevice item
  ({ a with
      devices := a.devices.set key device
      dropped := a.dropped + addresses + if refused.isSome then 1 else 0 }, refused)

def Aggregator.add (a : Aggregator) (item : Decode.Evidence) : Aggregator × Option AddError :=
  match validateEvidence item >>= fun _ => normalizeMAC item.mac with
  | .error message => (a, some (.invalid message))
  | .ok mac =>
    if item.observedAt = 0 then (a, some (.invalid "observation timestamp is required"))
    else
      let a := a.expire item.observedAt
      let key := deviceKey a.config.siteId mac item.vlanId
      match a.devices.get? key with
      | some device => a.record parseIP key device item
      | none =>
        if a.config.maxDevices ≤ a.devices.size then ({ a with dropped := a.dropped + 1 }, some .capacity)
        else a.record parseIP key (Device.fresh mac item) item

end Add

section Snapshot

/-- The order of sorted strings. -/
def textOrder (value : GoString) : List Nat := byteOrder value.bytes

/-- One turn of the loop over the addresses of a device. -/
def laterIP (latest : GoString × Instant) (entry : GoString × Instant) : GoString × Instant :=
  if latest.2 < entry.2 || (entry.2 = latest.2 && textOrder entry.1 < textOrder latest.1) then entry else latest

def latestIP (ips : Dict GoString Instant) : GoString := (ips.entries.foldl laterIP ([], 0)).1

def stableAssetID (mac : GoString) (vlanId : Option Int) : GoString :=
  let identifier := GoString.ofText "mac-" ++ mac.filter (· ≠ .char ':')
  match vlanId with
  | none => identifier
  | some vlan => identifier ++ GoString.ofText ("-vlan-" ++ toString vlan)

def vlanEvidence (vlan : Int) : Evidence :=
  { protocol := GoString.ofText "vlan", kind := GoString.ofText "vlan-id", value := GoString.ofText (toString vlan), confidence := .finite 1 }

/-- The evidence of a device as a batch holds it, with a place kept for the scope of its VLAN. -/
def Device.sortedEvidence (device : Device) : List Evidence :=
  let sorted := device.evidence.values.insertionSort fun left right =>
    textOrder (GoString.joinNul [left.protocol, left.kind, left.value]) ≤ textOrder (GoString.joinNul [right.protocol, right.kind, right.value])
  match device.vlanId with
  | none => sorted
  | some vlan => (if maxEvidence ≤ sorted.length then sorted.take (maxEvidence - 1) else sorted) ++ [vlanEvidence vlan]

def Device.asset (device : Device) : Asset :=
  let protocols := (device.evidence.values.map (·.protocol) ++ (device.vlanId.map fun _ => GoString.ofText "vlan").toList).dedup
  { assetId := stableAssetID device.mac device.vlanId
    hostname := device.hostname
    primaryIp := latestIP device.ips
    mac := device.mac
    category := if device.evidence.values.any (isText ·.protocol "ssdp") then GoString.ofText "network-device" else []
    evidence := device.sortedEvidence
    vlanId := device.vlanId
    sourceProtocols := protocols.insertionSort fun left right => textOrder left ≤ textOrder right }

/-- The limit of a snapshot that is asked for some number of assets. -/
def snapshotLimit (limit : Int) : Nat := if limit ≤ 0 || maxAssets < limit then maxAssets else limit.toNat

/-- The keys of the devices in order, cut to the limit. -/
def Aggregator.snapshotKeys (a : Aggregator) (limit : Int) : List (List UInt8) :=
  ((a.devices.entries.map Prod.fst).insertionSort fun left right => byteOrder left ≤ byteOrder right).take (snapshotLimit limit)

def Aggregator.snapshot (a : Aggregator) (now : Instant) (limit : Int) : Aggregator × List Asset :=
  let a := a.expire now
  (a, (a.snapshotKeys limit).filterMap fun key => (a.devices.get? key).map Device.asset)

end Snapshot

end OpenAssetWatch.Aggregate
