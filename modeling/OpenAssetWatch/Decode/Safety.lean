import OpenAssetWatch.Decode.Packets

namespace OpenAssetWatch.Decode

open Library Sensor

def evidenceKinds : List String :=
  ["request", "reply", "query-name", "address-record", "canonical-name", "service-name", "service-target", "netbios-name",
    "requested-ip", "assigned-ip", "client-hostname", "vendor-class", "client", "location", "server", "search-target",
    "notification-type", "unique-service-name"]

/-- What a decoder makes of a packet from a sender: the sender, its place and time, and bounded texts. -/
structure Emission (sender : Sender) (protocol : String) (item : Evidence) : Prop where
  mac : item.mac = sender.mac
  vlanId : item.vlanId = sender.vlanId
  observedAt : item.observedAt = sender.observedAt
  ip : Fits 15 item.ip
  hostname : Fits 255 item.hostname
  kind : ∃ kind ∈ evidenceKinds, item.kind = GoString.ofText kind
  value : Fits (if protocol = "ssdp" then 256 else 512) item.value
  confidence : ∃ value, item.confidence = .finite value
  protocol : item.protocol = GoString.ofText protocol

/-- Every text of the item is valid UTF-8 within the limit of its field. -/
structure Emitted (item : Evidence) : Prop where
  mac : Fits 17 item.mac
  ip : Fits 15 item.ip
  hostname : Fits 255 item.hostname
  protocol : Fits 32 item.protocol
  kind : Fits 64 item.kind
  value : Fits 512 item.value

section Texts

theorem fits_nil (limit : Nat) : Fits limit [] := ⟨rfl, Nat.zero_le _⟩

theorem byteLength_ofChars {text : List Char} (ascii : ∀ c ∈ text, c.utf8Size = 1) : (GoString.ofChars text).byteLength = text.length := by
  induction text with
  | nil => rfl
  | cons c rest ih =>
    have tail := ih fun d member => ascii d (List.mem_cons_of_mem _ member)
    show Rune.size (.char c) + GoString.byteLength (GoString.ofChars rest) = rest.length + 1
    rw [tail, Rune.size, ascii c List.mem_cons_self, Nat.add_comm]

theorem hexByte_digits : ∀ byte : UInt8, (hexByte byte).length = 2 ∧ ∀ c ∈ hexByte byte, c.utf8Size = 1 := by
  intro byte
  have digits : ∀ n < 16, (Nat.digitChar n).utf8Size = 1 := by decide
  have bound := byte.toNat_lt
  refine ⟨rfl, fun c member => ?_⟩
  rcases List.mem_cons.mp member with rfl | member
  · exact digits _ (by omega)
  · rw [List.mem_singleton.mp member]
    exact digits _ (by omega)

theorem octet_digits (octet : UInt8) :
    (Nat.toDigits 10 octet.toNat).length ≤ 3 ∧ ∀ c ∈ Nat.toDigits 10 octet.toNat, c.utf8Size = 1 := by
  have each : ((List.range 256).all fun n =>
      decide ((Nat.toDigits 10 n).length ≤ 3) && (Nat.toDigits 10 n).all fun c => decide (c.utf8Size = 1)) = true := by decide +kernel
  have here := List.all_eq_true.mp each octet.toNat (List.mem_range.mpr octet.toNat_lt)
  rw [Bool.and_eq_true, decide_eq_true_eq, List.all_eq_true] at here
  exact ⟨here.1, fun c member => of_decide_eq_true (here.2 c member)⟩

theorem fits_hardwareText {octets : Bytes} (six : octets.length = 6) : Fits 17 (hardwareText octets) := by
  match octets, six with
  | [a, b, c, d, e, f], _ =>
    have text : [':'].intercalate ([a, b, c, d, e, f].map hexByte) =
      hexByte a ++ ':' :: hexByte b ++ ':' :: hexByte c ++ ':' :: hexByte d ++ ':' :: hexByte e ++ ':' :: hexByte f := rfl
    refine ⟨GoString.isValid_ofChars _, ?_⟩
    rw [hardwareText, text, byteLength_ofChars]
    · simp [hexByte]
    · intro x member
      simp only [List.mem_append, List.mem_cons] at member
      rcases member with (((((m | rfl | m) | rfl | m) | rfl | m) | rfl | m) | rfl | m)
      all_goals first
        | rfl
        | exact (hexByte_digits _).2 x m

theorem fits_ipText {octets : Bytes} (four : octets.length = 4) : Fits 15 (ipText octets) := by
  match octets, four with
  | [a, b, c, d], _ =>
    have digits (octet : UInt8) := octet_digits octet
    have text : ['.'].intercalate ([a, b, c, d].map fun octet => Nat.toDigits 10 octet.toNat) =
      Nat.toDigits 10 a.toNat ++ '.' :: Nat.toDigits 10 b.toNat ++ '.' :: Nat.toDigits 10 c.toNat ++ '.' :: Nat.toDigits 10 d.toNat := by
      simp [List.intercalate]
    refine ⟨GoString.isValid_ofChars _, ?_⟩
    rw [ipText, text, byteLength_ofChars]
    · have ha := (digits a).1
      have hb := (digits b).1
      have hc := (digits c).1
      have hd := (digits d).1
      simp only [List.length_append, List.length_cons]
      omega
    · intro x member
      simp only [List.mem_append, List.mem_cons] at member
      rcases member with (((m | rfl | m) | rfl | m) | rfl | m)
      all_goals first
        | rfl
        | exact (digits _).2 x m

end Texts

section Names

variable {data : Bytes} {p : Evidence → Prop}

/-- The number that two bytes of the data are. -/
def word (data : Bytes) (index : Nat) : Nat := (data.getD index 0).toNat * 256 + (data.getD (index + 1) 0).toNat

theorem meets_uint16At {index : Nat} (inside : index + 1 < data.length) :
    Checked.Meets (fun value => value = word data index) (uint16At data index) := by
  refine (Checked.meets_byteAt (Nat.lt_of_succ_lt inside)).bind fun high first => ?_
  refine (Checked.meets_byteAt inside).bind fun low second => Checked.meets_pure ?_
  rw [word, List.getD_eq_getElem?_getD, List.getD_eq_getElem?_getD, first, second]
  rfl

theorem meets_dnsNameLoop (data : Bytes) (steps cursor : Nat) (next : Option Nat) (visited : List Nat) (labels : List GoString) :
    Checked.Meets (fun result => Fits 255 result.1) (dnsNameLoop data steps cursor next visited labels) := by
  induction steps generalizing cursor next visited labels with
  | zero => exact Checked.meets_fail _
  | succ steps ih =>
    rw [dnsNameLoop]
    split
    · exact Checked.meets_fail _
    rename_i inside
    refine (Checked.meets_byteAt (not_le.mp inside)).bind fun length _ => ?_
    split
    · exact (meets_clean _ 255).bind fun name fits => Checked.meets_pure fits
    split
    · -- a compression pointer
      split
      · exact Checked.meets_fail _
      rename_i whole
      refine (Checked.meets_byteAt (not_le.mp whole)).bind fun low _ => ?_
      dsimp only
      split_ifs
      · exact Checked.meets_fail _
      · exact Checked.meets_fail _
      · exact ih _ _ _ _
    split
    · exact Checked.meets_fail _
    split
    · exact Checked.meets_fail _
    · rename_i whole
      refine (Checked.meets_slice (Nat.le_add_right _ _) (not_lt.mp whole)).bind fun bytes _ => ?_
      refine (meets_clean _ 63).bind fun label _ => ?_
      split_ifs
      · exact Checked.meets_fail _
      · exact Checked.meets_fail _
      · exact ih _ _ _ _

theorem meets_readDNSName (data : Bytes) (offset : Nat) :
    Checked.Meets (fun result => Fits 255 result.1) (readDNSName data offset) := by
  unfold readDNSName
  split_ifs
  · exact Checked.meets_fail _
  · exact meets_dnsNameLoop _ _ _ _ _ _

end Names

section Evidence

variable {data : Bytes} {sender : Sender} {protocol : String} {value : GoString} {confidence : ℚ}

theorem clean_kind : ∀ kind ∈ evidenceKinds, clean (GoString.ofText kind) 64 = pure (GoString.ofText kind) := by
  intro kind member
  fin_cases member <;> rfl

theorem meets_protocolEvidence {kind : String} (known : kind ∈ evidenceKinds) (fits : Fits 15 sender.ip)
    (short : protocol = "ssdp" → value.byteLength ≤ 256) :
    Checked.Meets (fun item => Emission sender protocol item ∧ item.kind = GoString.ofText kind ∧ item.hostname = [] ∧
      item.value.byteLength ≤ value.byteLength) (protocolEvidence sender protocol kind value confidence) := by
  unfold protocolEvidence
  rw [clean_kind kind known]
  show Checked.Meets _ (clean value 512 >>= _)
  refine (meets_clean_le value 512).bind fun text cleaned => Checked.meets_pure ⟨?_, rfl, rfl, cleaned.2⟩
  exact {
    mac := rfl
    vlanId := rfl
    observedAt := rfl
    ip := fits
    hostname := fits_nil _
    protocol := rfl
    kind := ⟨kind, known, rfl⟩
    value := by
      split_ifs with ssdp
      · exact ⟨cleaned.1.1, cleaned.2.trans (short ssdp)⟩
      · exact cleaned.1
    confidence := ⟨_, rfl⟩ }

theorem meets_single {kind : String} (known : kind ∈ evidenceKinds) (fits : Fits 15 sender.ip)
    (short : protocol = "ssdp" → value.byteLength ≤ 256) :
    Checked.Meets (fun items => ∀ item ∈ items, Emission sender protocol item)
      (do let item ← protocolEvidence sender protocol kind value confidence; pure [item]) := by
  refine (meets_protocolEvidence known fits short).bind fun item emitted => Checked.meets_pure ?_
  intro other member
  rw [List.mem_singleton.mp member]
  exact emitted.1

end Evidence

section Messages

variable {data : Bytes} {sender : Sender} {protocol : String}

/-- At most so many items, each of the sender. -/
def Bounded (most : Nat) (sender : Sender) (protocol : String) (items : List Evidence) : Prop :=
  items.length ≤ most ∧ ∀ item ∈ items, Emission sender protocol item

theorem bounded_nil (most : Nat) : Bounded most sender protocol [] := ⟨Nat.zero_le _, fun _ member => nomatch member⟩

theorem Bounded.append {items more : List Evidence} {most : Nat} (bounded : Bounded most sender protocol items)
    (emitted : ∀ item ∈ more, Emission sender protocol item) (room : items.length + more.length ≤ most) :
    Bounded most sender protocol (items ++ more) := by
  refine ⟨(List.length_append).trans_le room, fun item member => ?_⟩
  rcases List.mem_append.mp member with here | there
  · exact bounded.2 item here
  · exact emitted item there

theorem meets_requireDataLimit (data : Bytes) : Checked.Meets (fun _ => True) (requireDataLimit data) := by
  unfold requireDataLimit
  split_ifs
  · exact Checked.meets_fail _
  · exact Checked.meets_pure trivial

theorem meets_dnsRecordEvidence (record : DnsRecord) (named : Fits 255 record.name) (fits : Fits 15 sender.ip) (other : protocol ≠ "ssdp") :
    Checked.Meets (fun items => ∀ item ∈ items, Emission sender protocol item) (dnsRecordEvidence data record protocol sender) := by
  unfold dnsRecordEvidence
  have short {value : GoString} : protocol = "ssdp" → value.byteLength ≤ 256 := fun same => absurd same other
  split
  · split
    · exact Checked.meets_fail _
    · rename_i four
      refine (meets_protocolEvidence (by decide) fits short).bind fun item emitted => ?_
      split_ifs
      · refine Checked.meets_pure fun other member => ?_
        rw [List.mem_singleton.mp member]
        exact { emitted.1 with
          ip := fits_ipText (not_not.mp four)
          hostname := named
          confidence := ⟨_, rfl⟩ }
      · refine Checked.meets_pure fun other member => ?_
        rw [List.mem_singleton.mp member]
        exact emitted.1
  · exact (meets_readDNSName _ _).bind fun _ _ => meets_single (by decide) fits short
  · exact (meets_readDNSName _ _).bind fun _ _ => meets_single (by decide) fits short
  · split
    · exact Checked.meets_fail _
    · rename_i long
      refine (meets_readDNSName _ _).bind fun _ _ => ?_
      refine (meets_uint16At (by omega)).bind fun _ _ => ?_
      exact meets_single (by decide) fits short
  · exact Checked.meets_pure fun _ member => nomatch member

theorem meets_dnsQuestions (fits : Fits 15 sender.ip) (other : protocol ≠ "ssdp") (left offset : Nat) (evidence : List Evidence)
    (bounded : Bounded 16 sender protocol evidence) :
    Checked.Meets (fun result => Bounded 16 sender protocol result.2) (dnsQuestions data protocol sender left offset evidence) := by
  induction left generalizing offset evidence with
  | zero => exact Checked.meets_pure bounded
  | succ left ih =>
    rw [dnsQuestions]
    refine (meets_readDNSName data offset).bind fun (name, next) _ => ?_
    dsimp only
    split_ifs with cut room
    · exact Checked.meets_fail _
    · refine (meets_protocolEvidence (by decide) fits fun same => absurd same other).bind fun item emitted => ?_
      refine ih _ _ (bounded.append (fun other member => ?_) room.2)
      rw [List.mem_singleton.mp member]
      exact emitted.1
    · exact ih _ _ bounded

theorem meets_dnsRecords (fits : Fits 15 sender.ip) (other : protocol ≠ "ssdp") (left offset : Nat) (evidence : List Evidence)
    (bounded : Bounded 32 sender protocol evidence) :
    Checked.Meets (Bounded 32 sender protocol) (dnsRecords data protocol sender left offset evidence) := by
  induction left generalizing offset evidence with
  | zero => exact Checked.meets_pure bounded
  | succ left ih =>
    rw [dnsRecords]
    refine (meets_readDNSName data offset).bind fun (name, next) named => ?_
    dsimp only
    split
    · exact Checked.meets_fail _
    rename_i whole
    refine (meets_uint16At (by omega)).bind fun type _ => ?_
    refine (meets_uint16At (by omega)).bind fun rdataLength _ => ?_
    split
    · exact Checked.meets_fail _
    rename_i inside
    refine (Checked.meets_slice (Nat.le_add_right _ _) (not_lt.mp (not_or.mp inside).2)).bind fun rdata _ => ?_
    refine (meets_dnsRecordEvidence _ named fits other).bind fun items emitted => ?_
    refine ih _ _ (bounded.append (fun item member => emitted item (List.mem_of_mem_take member)) ?_)
    have few := bounded.1
    rw [List.length_take]
    omega

theorem meets_decodeDNS (fits : Fits 15 sender.ip) (other : protocol ≠ "ssdp") :
    Checked.Meets (Bounded 32 sender protocol) (decodeDNS data protocol sender) := by
  unfold decodeDNS
  refine (meets_requireDataLimit data).bind fun _ _ => ?_
  split
  · exact Checked.meets_fail _
  rename_i whole
  refine (meets_uint16At (by omega)).bind fun questionCount _ => ?_
  refine (meets_uint16At (by omega)).bind fun answerCount _ => ?_
  refine (meets_uint16At (by omega)).bind fun authorityCount _ => ?_
  refine (meets_uint16At (by omega)).bind fun additionalCount _ => ?_
  split
  · exact Checked.meets_fail _
  refine (meets_dnsQuestions fits other _ _ _ (bounded_nil _)).bind fun (offset, evidence) bounded => ?_
  exact meets_dnsRecords fits other _ _ _ ⟨bounded.1.trans (by decide), bounded.2⟩

theorem meets_netBIOSLoop {value decoded : Bytes} {left index : Nat} (inside : (index + left) * 2 ≤ value.length) :
    Checked.Meets (fun bytes => bytes.length = decoded.length + left) (netBIOSLoop value left index decoded) := by
  induction left generalizing index decoded with
  | zero => exact Checked.meets_pure rfl
  | succ left ih =>
    rw [netBIOSLoop]
    refine (Checked.meets_byteAt (by omega)).bind fun high _ => ?_
    refine (Checked.meets_byteAt (by omega)).bind fun low _ => ?_
    split_ifs
    · exact Checked.meets_fail _
    · refine (ih (by omega)).mono fun bytes same => ?_
      rw [same, List.length_append, List.length_singleton]
      omega

theorem meets_decodeNetBIOSName (value : GoString) : Checked.Meets (Fits 15) (decodeNetBIOSName value) := by
  unfold decodeNetBIOSName
  split
  · exact Checked.meets_fail _
  rename_i whole
  refine (@meets_netBIOSLoop _ [] _ _ ?_).bind fun decoded length => ?_
  · rw [length_bytes, not_not.mp whole]
  refine (Checked.meets_slice (Nat.zero_le _) (by rw [length]; decide)).bind fun bytes _ => ?_
  refine (meets_clean _ 15).bind fun name fits => ?_
  split_ifs
  · exact Checked.meets_fail _
  · exact Checked.meets_pure fits

theorem meets_decodeNBNS (fits : Fits 15 sender.ip) : Checked.Meets (Bounded 32 sender "nbns") (decodeNBNS data sender) := by
  unfold decodeNBNS
  refine (meets_requireDataLimit data).bind fun _ _ => ?_
  split
  · exact Checked.meets_fail _
  rename_i whole
  refine (meets_uint16At (by omega)).bind fun questionCount _ => ?_
  refine (meets_uint16At (by omega)).bind fun answerCount _ => ?_
  split
  · exact Checked.meets_fail _
  refine (meets_readDNSName data 12).bind fun (name, _) _ => ?_
  refine (meets_decodeNetBIOSName _).bind fun hostname short => ?_
  have nbns : ("nbns" : String) ≠ "ssdp" := by decide
  refine (meets_protocolEvidence (by decide) fits fun same => absurd same nbns).bind fun item emitted => Checked.meets_pure ?_
  refine (bounded_nil 32).append (fun other member => ?_) (Nat.le_add_left 1 31)
  rw [List.mem_singleton.mp member]
  exact { emitted.1 with hostname := short.mono (by decide) }

theorem meets_dhcpOptionsLoop (data : Bytes) (remaining offset : Nat) (options : DhcpOptions) :
    Checked.Meets (fun _ => True) (dhcpOptionsLoop data remaining offset options) := by
  induction remaining generalizing offset options with
  | zero => exact Checked.meets_pure trivial
  | succ remaining ih =>
    rw [dhcpOptionsLoop]
    split
    · rename_i inside
      refine (Checked.meets_byteAt inside).bind fun code _ => ?_
      split
      · exact ih _ _
      split
      · exact Checked.meets_pure trivial
      split
      · exact Checked.meets_fail _
      rename_i more
      refine (Checked.meets_byteAt (not_le.mp more)).bind fun length _ => ?_
      split
      · exact Checked.meets_fail _
      rename_i whole
      exact (Checked.meets_slice (Nat.le_add_right _ _) (not_lt.mp (not_or.mp whole).2)).bind fun value _ => ih _ _
    · exact Checked.meets_pure trivial

theorem meets_parseDHCPOptions (data : Bytes) : Checked.Meets (fun _ => True) (parseDHCPOptions data) := by
  unfold parseDHCPOptions
  refine (meets_dhcpOptionsLoop data 128 0 .empty).bind fun ended _ => ?_
  split
  · exact Checked.meets_pure trivial
  · split_ifs
    · exact Checked.meets_fail _
    · exact Checked.meets_pure trivial

theorem dhcpAddress_fits {requested yiaddr : Bytes} (four : yiaddr.length = 4) :
    Fits 15 (dhcpAddress requested yiaddr).1 ∧ ((dhcpAddress requested yiaddr).1 ≠ [] → (dhcpAddress requested yiaddr).2.1 ∈ evidenceKinds) := by
  unfold dhcpAddress
  split_ifs with long assigned
  · exact ⟨fits_ipText long, fun _ => show "requested-ip" ∈ evidenceKinds by decide⟩
  · exact ⟨fits_ipText four, fun _ => show "assigned-ip" ∈ evidenceKinds by decide⟩
  · exact ⟨fits_nil _, fun absent => absurd rfl absent⟩

theorem meets_textEvidence {kind : String} {value hostname : GoString} {confidence : ℚ} (known : value ≠ [] → kind ∈ evidenceKinds)
    (fits : Fits 15 sender.ip) (named : Fits 255 hostname) (other : protocol ≠ "ssdp") :
    Checked.Meets (Bounded 1 sender protocol) (textEvidence sender protocol kind value confidence hostname) := by
  unfold textEvidence
  split_ifs with absent
  · exact Checked.meets_pure (bounded_nil 1)
  · refine (meets_protocolEvidence (known absent) fits fun same => absurd same other).bind fun item emitted => Checked.meets_pure ?_
    refine (bounded_nil 1).append (fun other member => ?_) le_rfl
    rw [List.mem_singleton.mp member]
    exact { emitted.1 with hostname := named }

def packetProtocols : List String := ["arp", "dhcpv4", "dns", "mdns", "ssdp", "nbns"]

/-- What a decoder gives: evidence of one sender, with the hardware address that identifies it. -/
def Observed (octets : Bytes) (vlanId : Option Int) (observedAt : Instant) (items : List Evidence) : Prop :=
  items = [] ∨ ∃ sender protocol, sender.mac = hardwareText octets ∧ octets.length = 6 ∧ validMAC sender.mac = true ∧
    sender.vlanId = vlanId ∧ sender.observedAt = observedAt ∧ protocol ∈ packetProtocols ∧ Bounded 32 sender protocol items

theorem valid_hardware {octets : Bytes} (valid : ¬(!validMAC (hardwareText octets)) = true) : validMAC (hardwareText octets) = true := by
  rwa [Bool.not_eq_true', Bool.not_eq_false] at valid

theorem meets_decodeDHCP (data : Bytes) (vlanId : Option Int) (observedAt : Instant) :
    Checked.Meets (Observed ((data.drop 28).take 6) vlanId observedAt) (decodeDHCP data vlanId observedAt) := by
  have dhcp : ("dhcpv4" : String) ≠ "ssdp" := by decide
  unfold decodeDHCP
  split
  · exact Checked.meets_fail _
  rename_i whole
  refine (Checked.meets_slice (by omega) (by omega)).bind fun cookie _ => ?_
  split
  · exact Checked.meets_fail _
  refine (Checked.meets_byteAt (by omega)).bind fun hardwareLength _ => ?_
  split
  · exact Checked.meets_fail _
  refine (Checked.meets_slice_eq (by omega) (by omega)).bind fun octets same => ?_
  dsimp only
  split
  · exact Checked.meets_fail _
  rename_i valid
  refine (Checked.meets_slice (by omega) le_rfl).bind fun rest _ => ?_
  refine (meets_parseDHCPOptions rest).bind fun options _ => ?_
  refine (Checked.meets_slice (by omega) (by omega)).bind fun yiaddr four => ?_
  obtain ⟨fits, known⟩ := @dhcpAddress_fits (optionValue options 50) _ four
  let sender : Sender := { mac := hardwareText octets, ip := (dhcpAddress (optionValue options 50) yiaddr).1, vlanId, observedAt }
  have client {items : List Evidence} (bounded : Bounded 32 sender "dhcpv4" items) :
      Observed ((data.drop 28).take 6) vlanId observedAt items := by
    refine .inr ⟨sender, "dhcpv4", congrArg hardwareText same, ?_, valid_hardware valid, rfl, rfl, by decide, bounded⟩
    rw [List.length_take, List.length_drop]
    omega
  refine (meets_textEvidence known fits (fits_nil _) dhcp).bind fun addressed first => ?_
  refine (meets_clean _ 255).bind fun hostname short => ?_
  refine (meets_textEvidence (fun _ => by decide) fits short dhcp).bind fun named second => ?_
  refine (meets_clean _ 160).bind fun vendor _ => ?_
  refine (meets_textEvidence (fun _ => by decide) fits (fits_nil _) dhcp).bind fun classed third => ?_
  split
  · refine (meets_protocolEvidence (by decide) fits fun same => absurd same dhcp).bind fun item emitted => Checked.meets_pure ?_
    refine client ((bounded_nil 32).append (fun other member => ?_) (Nat.le_add_left 1 31))
    rw [List.mem_singleton.mp member]
    exact emitted.1
  · have few := first.1
    have few2 := second.1
    have few3 := third.1
    refine Checked.meets_pure (client (Bounded.append (Bounded.append ?_ second.2 ?_) third.2 ?_))
    · exact ⟨by omega, first.2⟩
    · omega
    · rw [List.length_append]
      omega

end Messages

section Ssdp

variable {packages : Packages} {sender : Sender}

theorem allowedHeader_kind {name : GoString} {kind : String} (allowed : allowedHeader packages name = some kind) :
    kind ∈ evidenceKinds := by
  unfold allowedHeader at allowed
  obtain ⟨entry, found, rfl⟩ := Option.map_eq_some_iff.mp allowed
  have kinds : ∀ entry ∈ allowedHeaders, entry.2 ∈ evidenceKinds := by decide
  exact kinds entry (List.mem_of_find?_eq_some found)

/-- A header line is evidence of a known kind, and its text is short. -/
def HeaderFits (header : Option (String × GoString)) : Prop :=
  ∀ entry ∈ header, entry.1 ∈ evidenceKinds ∧ entry.2.byteLength ≤ 256

theorem headerFits_none : HeaderFits none := fun _ member => nomatch member

theorem meets_normalizeSSDPLocation (value : GoString) :
    Checked.Meets (fun location => ∀ text ∈ location, GoString.byteLength text ≤ 256) (normalizeSSDPLocation packages value) := by
  have none : ∀ text ∈ (none : Option GoString), GoString.byteLength text ≤ 256 := fun _ member => nomatch member
  unfold normalizeSSDPLocation
  split
  · exact Checked.meets_pure none
  split
  · exact Checked.meets_pure none
  split
  · exact Checked.meets_pure none
  split
  · exact Checked.meets_pure none
  split
  · exact Checked.meets_pure none
  refine (meets_clean _ maxSSDPMetadataBytes).bind fun result fits => Checked.meets_pure ?_
  split_ifs
  · exact none
  · rintro text ⟨⟩
    exact fits.2

theorem meets_ssdpHeader (line : GoString) : Checked.Meets HeaderFits (ssdpHeader packages line) := by
  unfold ssdpHeader
  split
  · exact Checked.meets_pure headerFits_none
  dsimp only
  split
  · exact Checked.meets_pure headerFits_none
  split
  · exact Checked.meets_pure headerFits_none
  rename_i kind allowed
  refine (meets_clean _ maxSSDPMetadataBytes).bind fun value fits => ?_
  split
  · exact Checked.meets_pure headerFits_none
  split
  · refine (meets_normalizeSSDPLocation value).bind fun location short => Checked.meets_pure ?_
    rintro entry member
    obtain ⟨text, here, rfl⟩ := Option.map_eq_some_iff.mp member
    exact ⟨allowedHeader_kind allowed, short text here⟩
  · refine Checked.meets_pure ?_
    rintro entry ⟨⟩
    exact ⟨allowedHeader_kind allowed, fits.2⟩

theorem meets_ssdpLines (fits : Fits 15 sender.ip) (lines : List GoString) (evidence : List Evidence)
    (bounded : Bounded 7 sender "ssdp" evidence) : Checked.Meets (Bounded 8 sender "ssdp") (ssdpLines packages sender lines evidence) := by
  induction lines generalizing evidence with
  | nil => exact Checked.meets_pure ⟨bounded.1.trans (by decide), bounded.2⟩
  | cons line rest ih =>
    rw [ssdpLines]
    split
    · exact Checked.meets_fail _
    refine (meets_ssdpHeader line).bind fun header known => ?_
    split
    · exact ih _ bounded
    · rename_i kind value
      obtain ⟨kind_known, short⟩ := known _ rfl
      refine (meets_protocolEvidence kind_known fits fun _ => short).bind fun item emitted => ?_
      have one : ∀ other ∈ [item], Emission sender "ssdp" other := by
        intro other member
        rw [List.mem_singleton.mp member]
        exact emitted.1
      have few := bounded.1
      split
      · exact Checked.meets_pure (Bounded.append ⟨few.trans (by decide), bounded.2⟩ one (by rw [List.length_singleton]; omega))
      · exact ih _ (bounded.append one (by rw [List.length_singleton]; omega))

theorem meets_decodeSSDP (data : Bytes) (fits : Fits 15 sender.ip) :
    Checked.Meets (Bounded 32 sender "ssdp") (decodeSSDP packages data sender) := by
  unfold decodeSSDP
  refine (meets_requireDataLimit data).bind fun _ _ => ?_
  split
  · exact Checked.meets_fail _
  split
  · exact Checked.meets_fail _
  split
  · exact Checked.meets_fail _
  refine (meets_clean _ 128).bind fun cleaned _ => ?_
  split
  · exact (meets_ssdpLines fits _ [] (bounded_nil _)).mono fun items bounded => ⟨bounded.1.trans (by decide), bounded.2⟩
  · exact Checked.meets_fail _

end Ssdp

section Frames

variable {packages : Packages}

/-- A UDP datagram of DHCP, by its ports. -/
def fromDhcp (udp : Bytes) : Bool := word udp 0 = 67 || word udp 0 = 68 || word udp 2 = 67 || word udp 2 = 68

def udpData (udp : Bytes) : Bytes := (udp.drop 8).take (word udp 4 - 8)

/-- The datagram of an IPv4 packet. -/
def datagram (payload : Bytes) : Bytes :=
  let headerLength := (payload.getD 0 0).toNat % 16 * 4
  (payload.drop headerLength).take (word payload 2 - headerLength)

/-- The hardware address a datagram identifies its sender by: that of the DHCP client, or that of the frame. -/
def udpOctets (udp sourceMAC : Bytes) : Bytes := if fromDhcp udp then ((udpData udp).drop 28).take 6 else sourceMAC

def senderOctets (parsed : EthernetFrame) : Bytes :=
  if parsed.etherType = 0x0806 then (parsed.payload.drop 8).take 6
  else udpOctets (datagram parsed.payload) parsed.sourceMAC

theorem observed_nil (octets : Bytes) (vlanId : Option Int) (observedAt : Instant) : Observed octets vlanId observedAt [] := .inl rfl

theorem meets_decodeARP (frame : EthernetFrame) (observedAt : Instant) :
    Checked.Meets (Observed ((frame.payload.drop 8).take 6) frame.vlanId observedAt) (decodeARP frame observedAt) := by
  unfold decodeARP
  dsimp only
  split
  · exact Checked.meets_fail _
  rename_i whole
  refine (meets_uint16At (by omega)).bind fun hardwareType _ => ?_
  refine (meets_uint16At (by omega)).bind fun protocolType _ => ?_
  refine (Checked.meets_byteAt (by omega)).bind fun hardwareLength _ => ?_
  refine (Checked.meets_byteAt (by omega)).bind fun protocolLength _ => ?_
  split
  · exact Checked.meets_fail _
  refine (meets_uint16At (by omega)).bind fun operation _ => ?_
  split
  · exact Checked.meets_fail _
  refine (Checked.meets_slice_eq (by omega) (by omega)).bind fun hardware same => ?_
  refine (Checked.meets_slice (by omega) (by omega)).bind fun address four => ?_
  split
  · exact Checked.meets_fail _
  rename_i valid
  rw [Bool.or_eq_true, not_or] at valid
  have fits : Fits 15 (ipText address) := fits_ipText four
  let sender : Sender := { mac := hardwareText hardware, ip := ipText address, vlanId := frame.vlanId, observedAt }
  refine Checked.meets_pure (.inr ⟨sender, "arp", congrArg hardwareText same, ?_, valid_hardware valid.1, rfl, rfl, by decide, ?_⟩)
  · rw [List.length_take, List.length_drop]
    omega
  · refine (bounded_nil 32).append (fun item member => ?_) (Nat.le_add_left 1 31)
    rw [List.mem_singleton.mp member]
    exact {
      mac := rfl
      vlanId := rfl
      observedAt := rfl
      ip := fits
      hostname := fits_nil _
      kind := by
        dsimp only
        split
        · exact ⟨"reply", by decide, rfl⟩
        · exact ⟨"request", by decide, rfl⟩
      value := by
        split
        · exact fits.mono (by decide)
        · exact fits.mono (by decide)
      confidence := ⟨_, rfl⟩
      protocol := rfl }

theorem observed_of_bounded {sender : Sender} {octets : Bytes} {protocol : String} {items : List Evidence}
    (mac : sender.mac = hardwareText octets) (six : octets.length = 6) (valid : validMAC sender.mac = true)
    (known : protocol ∈ packetProtocols) (bounded : Bounded 32 sender protocol items) :
    Observed octets sender.vlanId sender.observedAt items :=
  .inr ⟨sender, protocol, mac, six, valid, rfl, rfl, known, bounded⟩

theorem meets_decodeUDP (udp octets : Bytes) (sender : Sender) (mac : sender.mac = hardwareText octets) (six : octets.length = 6)
    (fits : Fits 15 sender.ip) :
    Checked.Meets (Observed (udpOctets udp octets) sender.vlanId sender.observedAt)
      (decodeUDP packages udp sender) := by
  unfold decodeUDP
  split
  · exact Checked.meets_fail _
  rename_i whole
  refine (meets_uint16At (by omega)).bind fun udpLength length => ?_
  split
  · exact Checked.meets_fail _
  rename_i inside
  rw [not_or, not_or] at inside
  refine (meets_uint16At (by omega)).bind fun sourcePort source => ?_
  refine (meets_uint16At (by omega)).bind fun destPort dest => ?_
  refine (Checked.meets_slice_eq (by omega) (by omega)).bind fun data same => ?_
  split
  · exact Checked.meets_fail _
  rename_i valid
  rw [Bool.not_eq_true', Bool.not_eq_false] at valid
  rw [length] at same
  have ports : fromDhcp udp = true ↔ sourcePort = 67 ∨ sourcePort = 68 ∨ destPort = 67 ∨ destPort = 68 := by
    rw [fromDhcp, source, dest]
    simp only [Bool.or_eq_true, decide_eq_true_eq, or_assoc]
  split
  · rename_i dhcp
    rw [udpOctets, if_pos (ports.mpr dhcp), ← show data = udpData udp from same]
    exact meets_decodeDHCP data sender.vlanId sender.observedAt
  · rename_i other
    rw [udpOctets, if_neg fun dhcp => other (ports.mp dhcp)]
    have observed {protocol : String} (known : protocol ∈ packetProtocols) (items : List Evidence) :
        Bounded 32 sender protocol items → Observed octets sender.vlanId sender.observedAt items :=
      observed_of_bounded mac six valid known
    split
    · exact (meets_decodeDNS fits (by decide)).mono (observed (by decide))
    split
    · exact (meets_decodeDNS fits (by decide)).mono (observed (by decide))
    split
    · exact (meets_decodeSSDP data fits).mono (observed (by decide))
    split
    · exact (meets_decodeNBNS fits).mono (observed (by decide))
    · exact Checked.meets_pure (observed_nil _ _ _)

theorem meets_decodeIPv4 (frame : EthernetFrame) (observedAt : Instant) (six : frame.sourceMAC.length = 6) :
    Checked.Meets (Observed (udpOctets (datagram frame.payload) frame.sourceMAC) frame.vlanId observedAt)
      (decodeIPv4 packages frame observedAt) := by
  unfold decodeIPv4
  dsimp only
  split
  · exact Checked.meets_fail _
  rename_i whole
  refine (Checked.meets_byteAt (by omega)).bind fun versionAndLength first => ?_
  split
  · exact Checked.meets_fail _
  split
  · exact Checked.meets_fail _
  rename_i header
  refine (meets_uint16At (by omega)).bind fun totalLength total => ?_
  split
  · exact Checked.meets_fail _
  rename_i inside
  refine (Checked.meets_byteAt (by omega)).bind fun protocol _ => ?_
  split
  · exact Checked.meets_pure (observed_nil _ _ _)
  refine (Checked.meets_slice_eq (by omega) (by omega)).bind fun udp same => ?_
  refine (Checked.meets_slice (by omega) (by omega)).bind fun address four => ?_
  have here : udp = datagram frame.payload := by
    rw [same, datagram, List.getD_eq_getElem?_getD, first, total]
    rfl
  rw [← here]
  exact meets_decodeUDP udp frame.sourceMAC _ rfl six (fits_ipText four)

/-- The tags leave the source and give a VLAN of twelve bits. -/
def TagsWell (source : Bytes) (parsed : EthernetFrame) : Prop :=
  parsed.sourceMAC = source ∧ ∀ vlan ∈ parsed.vlanId, 0 ≤ vlan ∧ vlan ≤ 4095

theorem meets_vlanTags (room : Nat) (source : Bytes) (parsed : EthernetFrame) (well : TagsWell source parsed) :
    Checked.Meets (TagsWell source) (vlanTags room parsed) := by
  induction room generalizing parsed with
  | zero =>
    rw [vlanTags]
    split
    · exact Checked.meets_fail _
    · exact Checked.meets_pure well
  | succ room ih =>
    rw [vlanTags]
    split
    · split
      · exact Checked.meets_fail _
      rename_i whole
      refine (meets_uint16At (by omega)).bind fun tag _ => ?_
      refine (meets_uint16At (by omega)).bind fun etherType _ => ?_
      refine (Checked.meets_slice (by omega) le_rfl).bind fun payload _ => ?_
      refine ih _ ⟨well.1, ?_⟩
      rintro vlan ⟨⟩
      omega
    · exact Checked.meets_pure well

theorem meets_parseEthernet (frame : Bytes) (whole : ¬frame.length < 14) :
    Checked.Meets (fun parsed => parsed.sourceMAC.length = 6 ∧ ∀ vlan ∈ parsed.vlanId, 0 ≤ vlan ∧ vlan ≤ 4095) (parseEthernet frame) := by
  unfold parseEthernet
  refine (Checked.meets_slice (by omega) (by omega)).bind fun destMAC _ => ?_
  refine (Checked.meets_slice (by omega) (by omega)).bind fun sourceMAC six => ?_
  refine (meets_uint16At (by omega)).bind fun etherType _ => ?_
  refine (Checked.meets_slice (by omega) le_rfl).bind fun payload _ => ?_
  have untagged : TagsWell sourceMAC { destMAC, sourceMAC, etherType, payload, vlanId := none } := ⟨rfl, fun _ member => nomatch member⟩
  refine (meets_vlanTags 2 sourceMAC _ untagged).mono fun parsed well => ⟨?_, well.2⟩
  rw [well.1]
  exact six

theorem meets_decodeFrame (frame : Bytes) (observedAt : Instant) :
    Checked.Meets (fun items => items = [] ∨ ∃ parsed, parseEthernet frame = .ok parsed ∧
      (∀ vlan ∈ parsed.vlanId, 0 ≤ vlan ∧ vlan ≤ 4095) ∧ Observed (senderOctets parsed) parsed.vlanId observedAt items)
      (decodeFrame packages frame observedAt) := by
  unfold decodeFrame
  split
  · exact Checked.meets_fail _
  rename_i whole
  split
  · exact Checked.meets_fail _
  have ethernet := meets_parseEthernet frame whole
  cases parse : parseEthernet frame with
  | error fault =>
    rw [parse] at ethernet
    cases fault with
    | reported message => exact trivial
    | outOfRange => exact ethernet
  | ok parsed =>
    rw [parse] at ethernet
    obtain ⟨six, vlan⟩ := ethernet
    show Checked.Meets _ (if parsed.etherType = 0x0806 then _ else _)
    split
    · rename_i arp
      refine (meets_decodeARP parsed observedAt).mono fun items observed => .inr ⟨parsed, rfl, vlan, ?_⟩
      rwa [senderOctets, if_pos arp]
    · rename_i other
      split
      · refine (meets_decodeIPv4 parsed observedAt six).mono fun items observed => .inr ⟨parsed, rfl, vlan, ?_⟩
        rwa [senderOctets, if_neg other]
      · exact Checked.meets_pure (.inl rfl)

theorem Emission.emitted {sender : Sender} {protocol : String} {item : Evidence} (emission : Emission sender protocol item)
    (mac : Fits 17 sender.mac) (known : protocol ∈ packetProtocols) : Emitted item where
  mac := by
    rw [emission.mac]
    exact mac
  ip := emission.ip
  hostname := emission.hostname
  protocol := by
    have short : ∀ text ∈ packetProtocols, (GoString.ofText text).byteLength ≤ 32 := by decide
    rw [emission.protocol]
    exact ⟨isValid_ofText _, short _ known⟩
  kind := by
    have short : ∀ text ∈ evidenceKinds, (GoString.ofText text).byteLength ≤ 64 := by decide
    obtain ⟨kind, among, same⟩ := emission.kind
    rw [same]
    exact ⟨isValid_ofText _, short _ among⟩
  value := by
    have fits := emission.value
    split_ifs at fits
    · exact fits.mono (by decide)
    · exact fits

/-- The decoder accesses nothing outside its input, and gives at most 32 items of valid, bounded texts. -/
theorem frame_safe (packages : Packages) (frame : Bytes) (observedAt : Instant) :
    decodeFrame packages frame observedAt ≠ .error .outOfRange ∧
      ∀ items, decodeFrame packages frame observedAt = .ok items → items.length ≤ 32 ∧ ∀ item ∈ items, Emitted item := by
  have meets := @meets_decodeFrame packages frame observedAt
  refine ⟨meets.not_outOfRange, fun items decoded => ?_⟩
  rcases meets.of_ok decoded with rfl | ⟨parsed, -, -, rfl | ⟨sender, protocol, mac, six, -, -, -, known, bounded⟩⟩
  · exact ⟨Nat.zero_le _, fun _ member => nomatch member⟩
  · exact ⟨Nat.zero_le _, fun _ member => nomatch member⟩
  · refine ⟨bounded.1, fun item member => (bounded.2 item member).emitted ?_ known⟩
    rw [mac]
    exact fits_hardwareText six

end Frames

end OpenAssetWatch.Decode
