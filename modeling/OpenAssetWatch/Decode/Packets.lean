import OpenAssetWatch.Decode.Dns

namespace OpenAssetWatch.Decode

open Library Sensor

def maxFrameBytes : Nat := 65535
def maxUDPPayload : Nat := 16384
def maxSSDPLineBytes : Nat := 1024
def maxSSDPMetadataBytes : Nat := 256
def maxSSDPQueryBytes : Nat := 128

/-- What `url.Parse` gives as far as it is read, and the text of the URL without its query and fragment. -/
structure ParsedURL where
  scheme : GoString
  hasUser : Bool
  host : GoString
  opaquePart : GoString
  rawQuery : GoString
  withoutQuery : GoString

/-- The library functions that the decoder calls: `url.Parse`, and `unicode.ToUpper` beyond ASCII. -/
structure Packages where
  parseURL : GoString → Option ParsedURL
  upperBeyond : Char → Char

def validMAC (value : GoString) : Bool :=
  match parseMAC value.runes with
  | some octets => octets.length = 6 && !octets.all (· == 0)
  | none => false

section Dhcp

def dhcpMagicCookie : Bytes := [99, 130, 83, 99]

/-- The value of an option, empty where the packet has none. -/
def optionValue (options : DhcpOptions) (code : UInt8) : Bytes := (options.get? code).getD []

/-- The address of the client, with the kind and confidence of its evidence. -/
def dhcpAddress (requested yiaddr : Bytes) : GoString × String × ℚ :=
  if requested.length = 4 then (ipText requested, "requested-ip", 3 / 4)
  else if yiaddr ≠ [0, 0, 0, 0] then (ipText yiaddr, "assigned-ip", 9 / 10)
  else ([], "", 0)

/-- The evidence for a text, of which there is none for an empty one. -/
def textEvidence (sender : Sender) (protocol kind : String) (value : GoString) (confidence : ℚ) (hostname : GoString) :
    Checked (List Evidence) :=
  if value = [] then pure []
  else do
    let item ← protocolEvidence sender protocol kind value confidence
    pure [{ item with hostname }]

def decodeDHCP (data : Bytes) (vlanId : Option Int) (observedAt : Instant) : Checked (List Evidence) :=
  if data.length < 240 then Checked.fail "truncated or invalid DHCPv4 message"
  else do
    let cookie ← Checked.slice data 236 240
    if cookie ≠ dhcpMagicCookie then Checked.fail "truncated or invalid DHCPv4 message"
    else do
      let hardwareLength ← Checked.byteAt data 2
      if hardwareLength ≠ 6 then Checked.fail "unsupported DHCPv4 hardware address length"
      else do
        let octets ← Checked.slice data 28 34
        let mac := hardwareText octets
        if !validMAC mac then Checked.fail "invalid DHCPv4 client MAC"
        else do
          let rest ← Checked.slice data 240 data.length
          let options ← parseDHCPOptions rest
          let yiaddr ← Checked.slice data 16 20
          let address := dhcpAddress (optionValue options 50) yiaddr
          let sender : Sender := { mac, ip := address.1, vlanId, observedAt }
          let addressed ← textEvidence sender "dhcpv4" address.2.1 address.1 address.2.2 []
          let hostname ← clean (stringOf (optionValue options 12)) 255
          let named ← textEvidence sender "dhcpv4" "client-hostname" hostname (9 / 10) hostname
          let vendor ← clean (stringOf (optionValue options 60)) 160
          let classed ← textEvidence sender "dhcpv4" "vendor-class" vendor (13 / 20) []
          if addressed ++ named ++ classed = [] then do
            let item ← protocolEvidence sender "dhcpv4" "client" mac (7 / 10)
            pure [item]
          else pure (addressed ++ named ++ classed)

end Dhcp

section Ssdp

variable (packages : Packages)

def upperRune : Rune → Rune
  | .char c => .char (if c.toNat < 128 then c.toUpper else packages.upperBeyond c)
  | .invalid _ => .char (Char.ofNat 0xFFFD)

/-- `strings.ToUpper`. -/
def toUpper (value : GoString) : GoString := value.map (upperRune packages)

/-- `strings.ReplaceAll` of a line end of two characters by one. -/
def unixLines : GoString → GoString
  | .char '\r' :: .char '\n' :: rest => .char '\n' :: unixLines rest
  | rune :: rest => rune :: unixLines rest
  | [] => []

def startLines : List String := ["NOTIFY ", "M-SEARCH ", "HTTP/1.1 "]

def allowedHeaders : List (String × String) :=
  [("LOCATION", "location"), ("SERVER", "server"), ("ST", "search-target"), ("NT", "notification-type"),
    ("USN", "unique-service-name")]

def allowedHeader (name : GoString) : Option String :=
  (allowedHeaders.find? fun entry => GoString.ofText entry.1 = toUpper packages name.trimmed).map Prod.snd

def normalizeSSDPLocation (value : GoString) : Checked (Option GoString) :=
  if value.byteLength = 0 ∨ maxSSDPLineBytes < value.byteLength then pure none
  else
    match packages.parseURL value with
    | none => pure none
    | some parsed =>
      if parsed.hasUser ∨ parsed.host = [] ∨ parsed.opaquePart ≠ [] then pure none
      else if parsed.scheme ≠ GoString.ofText "http" ∧ parsed.scheme ≠ GoString.ofText "https" then pure none
      else if maxSSDPQueryBytes < parsed.rawQuery.byteLength then pure none
      else do
        let result ← clean parsed.withoutQuery maxSSDPMetadataBytes
        pure (if result = [] then none else some result)

/-- The kind and the value that a header line is evidence for. -/
def ssdpHeader (line : GoString) : Checked (Option (String × GoString)) :=
  if Rune.char ':' ∉ line then pure none
  else
    let name := line.takeWhile (· ≠ .char ':')
    let value := (line.dropWhile (· ≠ .char ':')).drop 1
    if GoString.byteLength name = 0 ∨ 64 < GoString.byteLength name then pure none
    else
      match allowedHeader packages name with
      | none => pure none
      | some kind => do
        let value ← clean value maxSSDPMetadataBytes
        if value = [] then pure none
        else if kind = "location" then do
          let location ← normalizeSSDPLocation packages value
          pure (location.map fun value => (kind, value))
        else pure (some (kind, value))

/-- The loop over the header lines. -/
def ssdpLines (sender : Sender) : List GoString → List Evidence → Checked (List Evidence)
  | [], evidence => pure evidence
  | line :: rest, evidence =>
    if maxSSDPLineBytes < line.byteLength then Checked.fail "SSDP header line exceeds limit"
    else do
      match ← ssdpHeader packages line with
      | none => ssdpLines sender rest evidence
      | some (kind, value) => do
        let item ← protocolEvidence sender "ssdp" kind value (3 / 5)
        if 8 ≤ evidence.length + 1 then pure (evidence ++ [item]) else ssdpLines sender rest (evidence ++ [item])

def decodeSSDP (data : Bytes) (sender : Sender) : Checked (List Evidence) := do
  requireDataLimit data
  match (unixLines (stringOf data)).splitOn (Rune.char '\n') with
  | [] => Checked.fail "invalid SSDP line count"
  | start :: lines =>
    if 64 < lines.length + 1 then Checked.fail "invalid SSDP line count"
    else if GoString.byteLength start = 0 ∨ 128 < GoString.byteLength start then Checked.fail "invalid SSDP start line"
    else do
      let cleaned ← clean start 128
      if startLines.any fun line => (GoString.ofText line).isPrefixOf (toUpper packages cleaned) then
        ssdpLines packages sender lines []
      else Checked.fail "unsupported SSDP start line"

end Ssdp

section Frames

structure EthernetFrame where
  destMAC : Bytes
  sourceMAC : Bytes
  etherType : Nat
  payload : Bytes
  vlanId : Option Int

/-- The loop of `parseEthernet` with room for so many more tags. -/
def vlanTags : Nat → EthernetFrame → Checked EthernetFrame
  | room, parsed =>
    if parsed.etherType = 0x8100 ∨ parsed.etherType = 0x88a8 then
      match room with
      | 0 => Checked.fail "too many nested VLAN tags"
      | room + 1 =>
        if parsed.payload.length < 4 then Checked.fail "truncated VLAN tag"
        else do
          let tag ← uint16At parsed.payload 0
          let etherType ← uint16At parsed.payload 2
          let payload ← Checked.slice parsed.payload 4 parsed.payload.length
          vlanTags room { parsed with vlanId := some (tag % 4096 : Nat), etherType, payload }
    else pure parsed

def parseEthernet (frame : Bytes) : Checked EthernetFrame := do
  let destMAC ← Checked.slice frame 0 6
  let sourceMAC ← Checked.slice frame 6 12
  let etherType ← uint16At frame 12
  let payload ← Checked.slice frame 14 frame.length
  vlanTags 2 { destMAC, sourceMAC, etherType, payload, vlanId := none }

def decodeARP (frame : EthernetFrame) (observedAt : Instant) : Checked (List Evidence) :=
  let payload := frame.payload
  if payload.length < 28 then Checked.fail "truncated ARP packet"
  else do
    let hardwareType ← uint16At payload 0
    let protocolType ← uint16At payload 2
    let hardwareLength ← Checked.byteAt payload 4
    let protocolLength ← Checked.byteAt payload 5
    if hardwareType ≠ 1 ∨ protocolType ≠ 0x0800 ∨ hardwareLength ≠ 6 ∨ protocolLength ≠ 4 then
      Checked.fail "unsupported ARP address format"
    else do
      let operation ← uint16At payload 6
      if operation ≠ 1 ∧ operation ≠ 2 then Checked.fail "unsupported ARP operation"
      else do
        let hardware ← Checked.slice payload 8 14
        let address ← Checked.slice payload 14 18
        let mac := hardwareText hardware
        let ip := ipText address
        if !validMAC mac || !isIP ip.runes then Checked.fail "invalid ARP sender identity"
        else pure [{
          mac
          ip
          protocol := GoString.ofText "arp"
          kind := GoString.ofText (if operation = 2 then "reply" else "request")
          value := ip
          vlanId := frame.vlanId
          confidence := .finite (9 / 10)
          observedAt }]

variable (packages : Packages)

def decodeUDP (udp : Bytes) (sender : Sender) : Checked (List Evidence) :=
  if udp.length < 8 then Checked.fail "truncated UDP datagram"
  else do
    let udpLength ← uint16At udp 4
    if udpLength < 8 ∨ udp.length < udpLength ∨ maxUDPPayload < udpLength - 8 then Checked.fail "invalid or oversized UDP length"
    else do
      let sourcePort ← uint16At udp 0
      let destPort ← uint16At udp 2
      let data ← Checked.slice udp 8 udpLength
      if !validMAC sender.mac then Checked.fail "invalid Ethernet source MAC"
      else if sourcePort = 67 ∨ sourcePort = 68 ∨ destPort = 67 ∨ destPort = 68 then
        decodeDHCP data sender.vlanId sender.observedAt
      else if sourcePort = 5353 ∨ destPort = 5353 then decodeDNS data "mdns" sender
      else if sourcePort = 53 ∨ destPort = 53 then decodeDNS data "dns" sender
      else if sourcePort = 1900 ∨ destPort = 1900 then decodeSSDP packages data sender
      else if sourcePort = 137 ∨ destPort = 137 then decodeNBNS data sender
      else pure []

def decodeIPv4 (frame : EthernetFrame) (observedAt : Instant) : Checked (List Evidence) :=
  let payload := frame.payload
  if payload.length < 20 then Checked.fail "truncated or invalid IPv4 packet"
  else do
    let versionAndLength ← Checked.byteAt payload 0
    if versionAndLength.toNat / 16 ≠ 4 then Checked.fail "truncated or invalid IPv4 packet"
    else
      let headerLength := versionAndLength.toNat % 16 * 4
      if headerLength < 20 ∨ payload.length < headerLength then Checked.fail "invalid IPv4 header length"
      else do
        let totalLength ← uint16At payload 2
        if totalLength < headerLength ∨ payload.length < totalLength then Checked.fail "invalid IPv4 total length"
        else do
          let protocol ← Checked.byteAt payload 9
          if protocol ≠ 17 then pure []
          else do
            let udp ← Checked.slice payload headerLength totalLength
            let address ← Checked.slice payload 12 16
            decodeUDP packages udp
              { mac := hardwareText frame.sourceMAC, ip := ipText address, vlanId := frame.vlanId, observedAt }

/-- `decode.Frame`. -/
def decodeFrame (frame : Bytes) (observedAt : Instant) : Checked (List Evidence) :=
  if frame.length < 14 then Checked.fail "truncated Ethernet frame"
  else if maxFrameBytes < frame.length then Checked.fail "Ethernet frame exceeds size limit"
  else do
    let parsed ← parseEthernet frame
    if parsed.etherType = 0x0806 then decodeARP parsed observedAt
    else if parsed.etherType = 0x0800 then decodeIPv4 packages parsed observedAt
    else pure []

end Frames

end OpenAssetWatch.Decode
