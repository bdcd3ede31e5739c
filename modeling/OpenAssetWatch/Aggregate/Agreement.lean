import OpenAssetWatch.Aggregate.Turns
import OpenAssetWatch.Decode.Safety

namespace OpenAssetWatch.Aggregate

open Library Sensor Decode

/-- Room for another device and for more evidence of each device. -/
def FreeCapacity (a : Aggregator) : Prop :=
  a.devices.size < a.config.maxDevices ∧ ∀ device ∈ a.devices.values, device.evidence.size < a.config.maxEvidencePerDevice

/-- Whether the aggregator takes the item in wherever it has room. -/
def Accepted (parseIP : GoString → Option GoString) (item : Decode.Evidence) : Prop :=
  ∀ a : Aggregator, FreeCapacity a → (a.add parseIP item).2 = none

def isService (item : Decode.Evidence) : Bool := isText item.kind "service-name" || isText item.kind "service-target"

/-- An address of one device. -/
def isUnicast (octets : Bytes) : Bool := (octets.headD 0).toNat % 2 = 0

section Hardware

variable {octets : Bytes}

theorem digit_hex : ∀ n < 16, isHexDigit (Nat.digitChar n) = true ∧ hexValue (Nat.digitChar n) = n := by decide

theorem parseMAC_hardwareText (six : octets.length = 6) : parseMAC (hardwareText octets).runes = some octets := by
  match octets, six with
  | [a, b, c, d, e, f], _ =>
    have digits (byte : UInt8) := And.intro (digit_hex (byte.toNat / 16) (by have := byte.toNat_lt; omega)) (digit_hex (byte.toNat % 16) (by omega))
    have whole (byte : UInt8) : UInt8.ofNat (byte.toNat / 16 * 16 + byte.toNat % 16) = byte := by
      rw [Nat.div_add_mod']
      exact UInt8.ofNat_toNat
    have colon : isHexDigit ':' = false := by decide
    have text : (hardwareText [a, b, c, d, e, f]).runes =
      hexByte a ++ ':' :: hexByte b ++ ':' :: hexByte c ++ ':' :: hexByte d ++ ':' :: hexByte e ++ ':' :: hexByte f := by
      rw [hardwareText, GoString.runes_ofChars]
      rfl
    rw [parseMAC, text]
    simp only [isMAC, hexByte, List.cons_append, List.nil_append, List.getD_cons_succ, List.getD_cons_zero]
    simp [digits, colon, pairOctets, whole, List.zipIdx]

theorem trimmed_eq_self {value : GoString} (blankless : ∀ rune ∈ value, isGoSpace rune.decoded = false) : value.trimmed = value := by
  have front {part : GoString} (within : ∀ rune ∈ part, isGoSpace rune.decoded = false) :
      part.dropWhile (isGoSpace ·.decoded) = part := by
    cases part with
    | nil => rfl
    | cons rune rest => rw [List.dropWhile_cons_of_neg (by rw [within rune List.mem_cons_self]; exact Bool.false_ne_true)]
  unfold GoString.trimmed
  rw [front blankless, front fun rune member => blankless rune (List.mem_reverse.mp member), List.reverse_reverse]

theorem hexByte_space (byte : UInt8) : ∀ c ∈ hexByte byte, isGoSpace c = false := by
  have digit : ∀ n < 16, isGoSpace (Nat.digitChar n) = false := by decide
  have bound := byte.toNat_lt
  intro c member
  rcases List.mem_cons.mp member with rfl | member
  · exact digit _ (by omega)
  · rw [List.mem_singleton.mp member]
    exact digit _ (by omega)

theorem trimmed_hardwareText (six : octets.length = 6) : (hardwareText octets).trimmed = hardwareText octets := by
  match octets, six with
  | [a, b, c, d, e, f], _ =>
    apply trimmed_eq_self
    intro rune member
    obtain ⟨x, inside, rfl⟩ := List.mem_map.mp member
    have text : [':'].intercalate ([a, b, c, d, e, f].map hexByte) =
      hexByte a ++ ':' :: hexByte b ++ ':' :: hexByte c ++ ':' :: hexByte d ++ ':' :: hexByte e ++ ':' :: hexByte f := rfl
    rw [text] at inside
    simp only [List.mem_append, List.mem_cons] at inside
    rcases inside with (((((m | rfl | m) | rfl | m) | rfl | m) | rfl | m) | rfl | m)
    all_goals first
      | rfl
      | exact hexByte_space _ x m

theorem validMAC_hardwareText (six : octets.length = 6) : validMAC (hardwareText octets) = !octets.all (· == 0) := by
  rw [validMAC, parseMAC_hardwareText six]
  simp [six]

theorem normalizeMAC_hardwareText (six : octets.length = 6) (valid : validMAC (hardwareText octets) = true) :
    (∃ mac, normalizeMAC (hardwareText octets) = .ok mac) ↔ isUnicast octets = true := by
  rw [validMAC_hardwareText six, Bool.not_eq_true'] at valid
  rw [normalizeMAC, trimmed_hardwareText six, parseMAC_hardwareText six, isUnicast, decide_eq_true_eq]
  show (∃ mac, (if (octets.headD 0).toNat % 2 ≠ 0 then _ else _) = Except.ok mac) ↔ _
  split_ifs with group zero
  · exact ⟨fun ⟨_, made⟩ => (nomatch made), fun even => absurd even group⟩
  · rw [valid] at zero
    cases zero
  · exact ⟨fun _ => not_not.mp group, fun _ => ⟨_, rfl⟩⟩

end Hardware

section Items

variable {parseIP : GoString → Option GoString} {item : Decode.Evidence} {a : Aggregator}

theorem accepted_of_valid (valid : validateEvidence item = .ok ()) (hardware : ∃ mac, normalizeMAC item.mac = .ok mac)
    (free : FreeCapacity a) : (a.add parseIP item).2 = none := by
  have adding : Adding parseIP a item (a.add parseIP item) := add_cases a item
  generalize a.add parseIP item = result at adding
  cases adding with
  | invalid message wrong => exact absurd ⟨valid, hardware⟩ wrong
  | full _ _ _ full =>
    have fewer : (a.expire item.observedAt).devices.size ≤ a.devices.size := List.length_filter_le _ _
    have room := free.1
    omega
  | @recorded mac device _ _ has =>
    rw [record_error, expire_config]
    cases has with
    | new _ _ => exact fresh_not_refused _
    | old stored =>
      cases refused : (device.turn parseIP a.config item).2 with
      | none => rfl
      | some error =>
        have stopped : (device.turn parseIP a.config item).2.isSome := by
          rw [refused]
          rfl
        have full := (turn_refused stopped).2
        have room := free.2 device ((Dict.mem_values _ _).mpr ⟨_, ((get?_expire_eq_some _ _).mp stored).1⟩)
        omega

theorem accepted_iff_valid : Accepted parseIP item ↔ validateEvidence item = .ok () ∧ ∃ mac, normalizeMAC item.mac = .ok mac := by
  constructor
  · intro accepted
    by_contra wrong
    have free : FreeCapacity { config := smallConfig } := ⟨by decide, fun _ member => nomatch member⟩
    have taken := accepted { config := smallConfig } free
    have adding : Adding parseIP { config := smallConfig } item (Aggregator.add parseIP { config := smallConfig } item) :=
      add_cases { config := smallConfig } item
    generalize Aggregator.add parseIP { config := smallConfig } item = result at adding taken
    cases adding with
    | invalid message _ => cases taken
    | full valid hardware _ _ => exact wrong ⟨valid, _, hardware⟩
    | recorded valid hardware _ => exact wrong ⟨valid, _, hardware⟩
  · rintro ⟨valid, hardware⟩ a free
    exact accepted_of_valid valid hardware free

theorem validateEvidence_emission {sender : Sender} {protocol : String} (emission : Emission sender protocol item)
    (known : protocol ∈ packetProtocols) (tagged : ∀ vlan ∈ sender.vlanId, 0 ≤ vlan ∧ vlan ≤ 4095) :
    validateEvidence item = .ok () ↔
      sender.vlanId ≠ some 4095 ∧ (isService item = true → item.value.byteLength ≤ maxServiceNameLength) ∧ sender.observedAt ≠ 0 := by
  have texts : ∀ text ∈ packetProtocols, GoString.ofText text ≠ [] ∧ (GoString.ofText text).byteLength ≤ maxProtocolLength ∧
      observationProtocols.any (isText (GoString.ofText text)) = true := by decide
  have kinds : ∀ text ∈ evidenceKinds, (GoString.ofText text).byteLength ≠ 0 ∧ (GoString.ofText text).byteLength ≤ maxEvidenceKindLength := by
    decide
  have vlan : (item.vlanId.all fun vlan => decide (0 ≤ vlan) && decide (vlan ≤ maxVLANID)) = true ↔ sender.vlanId ≠ some 4095 := by
    rw [emission.vlanId]
    cases place : sender.vlanId with
    | none => exact ⟨fun _ => (nomatch ·), fun _ => rfl⟩
    | some vlan =>
      have bounds := tagged vlan place
      rw [Option.all_some, Bool.and_eq_true, decide_eq_true_eq, decide_eq_true_eq, maxVLANID, ne_eq, Option.some.injEq]
      omega
  obtain ⟨kind, among, named⟩ := emission.kind
  obtain ⟨q, finite⟩ := emission.confidence
  obtain ⟨present, short, supported⟩ := texts protocol known
  obtain ⟨kind_present, kind_short⟩ := kinds kind among
  have value : item.value.byteLength ≤ maxEvidenceValueLength := by
    have fits := emission.value
    split_ifs at fits
    · exact fits.2.trans (by decide)
    · exact fits.2
  have ssdp : (!(isText item.protocol "ssdp" && decide (maxSSDPMetadataLength < item.value.byteLength))) = true := by
    rw [Bool.not_eq_true', Bool.and_eq_false_iff, decide_eq_false_iff_not, not_lt]
    by_cases same : protocol = "ssdp"
    · have fits := emission.value
      rw [if_pos same] at fits
      exact .inr fits.2
    · refine .inl (decide_eq_false ?_)
      rw [emission.protocol]
      have apart : ∀ text ∈ packetProtocols, text ≠ "ssdp" → GoString.ofText text ≠ GoString.ofText "ssdp" := by decide
      exact apart protocol known same
  have hostname : (!(decide (item.hostname ≠ []) && decide (maxHostnameLength < item.hostname.byteLength))) = true := by
    rw [Bool.not_eq_true', Bool.and_eq_false_iff, decide_eq_false_iff_not (p := maxHostnameLength < _), not_lt]
    exact .inr emission.hostname.2
  have service : (!((isText item.kind "service-name" || isText item.kind "service-target") &&
      decide (maxServiceNameLength < item.value.byteLength))) = true ↔
        (isService item = true → item.value.byteLength ≤ maxServiceNameLength) := by
    rw [Bool.not_eq_true', Bool.and_eq_false_iff, decide_eq_false_iff_not, not_lt, isService]
    cases isText item.kind "service-name" || isText item.kind "service-target" <;> simp
  simp only [validateEvidence, require_bind_eq_ok, require_eq_ok]
  rw [vlan, ssdp, hostname, service, decide_eq_true value, emission.protocol, supported, named, finite, emission.observedAt]
  rw [decide_eq_true present, decide_eq_true short, decide_eq_true kind_present, decide_eq_true kind_short, decide_eq_true_eq]
  simp [isFinite]

end Items

/-- An item of a frame is accepted exactly when its frame has no VLAN tag of 4095, its hardware address (in ARP and DHCP that
    of the payload) is of one device, a service name or target has at most 128 bytes, and the frame has a time. -/
theorem emitted_accepted_iff (packages : Packages) (parseIP : GoString → Option GoString) (frame : Bytes) (observedAt : Instant)
    (items : List Decode.Evidence) (decoded : decodeFrame packages frame observedAt = .ok items) (item : Decode.Evidence)
    (emitted : item ∈ items) :
    ∃ parsed, parseEthernet frame = .ok parsed ∧
      (Accepted parseIP item ↔
        parsed.vlanId ≠ some 4095 ∧ isUnicast (senderOctets parsed) = true ∧
          (isService item = true → item.value.byteLength ≤ maxServiceNameLength) ∧ observedAt ≠ 0) := by
  rcases (@meets_decodeFrame packages frame observedAt).of_ok decoded with
    rfl | ⟨parsed, parse, tagged, rfl | ⟨sender, protocol, mac, six, valid, vlan, time, known, bounded⟩⟩
  · cases emitted
  · cases emitted
  · refine ⟨parsed, parse, ?_⟩
    have emission := bounded.2 item emitted
    rw [← vlan] at tagged
    rw [mac] at valid
    rw [accepted_iff_valid, validateEvidence_emission emission known tagged, emission.mac, mac, normalizeMAC_hardwareText six valid,
      vlan, time]
    tauto

/-- No URL is parsed, and every address is kept as its text is. -/
def noPackages : Packages where
  parseURL _ := none
  upperBeyond := id

/-- A tagged ARP reply of 192.0.2.10. -/
def arpFrame (vlan : UInt8) : Bytes :=
  List.replicate 6 255 ++ [2, 0, 94, 16, 0, 1] ++ [0x81, 0, 0x0f, vlan] ++ [8, 6, 0, 1, 8, 0, 6, 4, 0, 2] ++
    [2, 0, 94, 16, 0, 1] ++ [192, 0, 2, 10] ++ List.replicate 10 0

/-- The name of a PTR record in an mDNS answer, of 129 bytes as a text. -/
def longName : Bytes := 63 :: List.replicate 63 97 ++ 63 :: List.replicate 63 97 ++ [1, 97, 0]

def mdnsFrame : Bytes :=
  let dns := [0, 0, 132, 0, 0, 0, 0, 1, 0, 0, 0, 0] ++ [1, 97, 0] ++ [0, 12, 0, 1, 0, 0, 0, 0, 0, 131] ++ longName
  let udp := [20, 233, 20, 233, 0, 164, 0, 0] ++ dns
  List.replicate 6 255 ++ [2, 0, 94, 16, 0, 1] ++ [8, 0] ++
    [69, 0, 0, 184, 0, 0, 0, 0, 255, 17, 0, 0, 192, 0, 2, 10, 224, 0, 0, 251] ++ udp

/-- The VLAN number 4095 and a service name of 129 bytes are emitted and refused. -/
theorem emitted_and_refused :
    let a : Aggregator := { config := smallConfig }
    let refusals (frame : Bytes) : Checked (List (Option AddError)) :=
      (decodeFrame noPackages frame 1).map fun items => items.map fun item => (a.add some item).2
    refusals (arpFrame 255) = .ok [some (.invalid "observation VLAN ID is outside 0..4094")] ∧
      refusals mdnsFrame = .ok [some (.invalid "service name exceeds bounded evidence size")] := by
  decide +kernel

theorem emitted_accepted_iff_sample :
    ∃ item parsed, decodeFrame noPackages (arpFrame 1) 1 = .ok [item] ∧ parseEthernet (arpFrame 1) = .ok parsed ∧
      (Accepted some item ↔ parsed.vlanId ≠ some 4095 ∧ isUnicast (senderOctets parsed) = true ∧
        (isService item = true → item.value.byteLength ≤ maxServiceNameLength) ∧ (1 : Instant) ≠ 0) := by
  have decoded : decodeFrame noPackages (arpFrame 1) 1 = .ok [{ sighting "192.0.2.10" 1 with
    vlanId := some 3841, confidence := .finite (9 / 10) }] := by decide_cbv
  obtain ⟨parsed, parse, accepted⟩ := emitted_accepted_iff noPackages some (arpFrame 1) 1 _ decoded _ (List.mem_singleton.mpr rfl)
  exact ⟨_, parsed, decoded, parse, accepted⟩

end OpenAssetWatch.Aggregate
