import OpenAssetWatch.Sensor.GoStrings
import OpenAssetWatch.Decode.Clean
import OpenAssetWatch.Decode.DhcpOptions

namespace OpenAssetWatch.Decode

open Sensor
open Library Sensor

/-- `decode.Evidence`; its time is in UTC. -/
structure Evidence where
  mac : GoString
  ip : GoString
  hostname : GoString := []
  protocol : GoString
  kind : GoString
  value : GoString
  vlanId : Option Int
  confidence : Float64
  observedAt : Instant
deriving DecidableEq

/-- Two digits of a byte in lower-case hexadecimal. -/
def hexByte (byte : UInt8) : List Char := [Nat.digitChar (byte.toNat / 16), Nat.digitChar (byte.toNat % 16)]

/-- The value of a hexadecimal digit. -/
def hexValue (c : Char) : Nat :=
  if c.isDigit then c.toNat - 48
  else if 'a' ≤ c then c.toNat - 87
  else c.toNat - 55

def pairOctets : List Char → List UInt8
  | high :: low :: rest => UInt8.ofNat (hexValue high * 16 + hexValue low) :: pairOctets rest
  | _ => []

/-- `net.ParseMAC` for an address of six bytes. -/
def parseMAC (text : List Char) : Option (List UInt8) := if isMAC text then some (pairOctets (text.filter isHexDigit)) else none

/-- `net.HardwareAddr.String`. -/
def hardwareText (octets : List UInt8) : GoString := GoString.ofChars ([':'].intercalate (octets.map hexByte))

def maxProtocolData : Nat := 8192
def maxDNSRecords : Nat := 64

/-- Where a packet comes from. -/
structure Sender where
  mac : GoString
  ip : GoString
  vlanId : Option Int
  observedAt : Instant

/-- `binary.BigEndian.Uint16` of two bytes of the data. -/
def uint16At (data : Bytes) (index : Nat) : Checked Nat := do
  let high ← Checked.byteAt data index
  let low ← Checked.byteAt data (index + 1)
  pure (high.toNat * 256 + low.toNat)

/-- `net.IP.String` of four bytes. -/
def ipText (octets : Bytes) : GoString := GoString.ofChars (['.'].intercalate (octets.map fun octet => Nat.toDigits 10 octet.toNat))

def requireDataLimit (data : Bytes) : Checked Unit :=
  if maxProtocolData < data.length then Checked.fail "protocol payload exceeds 8192 bytes" else pure ()

def protocolEvidence (sender : Sender) (protocol kind : String) (value : GoString) (confidence : ℚ) : Checked Evidence := do
  let kind ← clean (GoString.ofText kind) 64
  let value ← clean value 512
  pure {
    mac := sender.mac
    ip := sender.ip
    protocol := GoString.ofText protocol
    kind
    value
    vlanId := sender.vlanId
    confidence := .finite confidence
    observedAt := sender.observedAt }

section Names

def joinDots (labels : List GoString) : GoString := [Rune.char '.'].intercalate labels

/-- The loop of `readDNSName` with so many of its steps left. -/
def dnsNameLoop (data : Bytes) : Nat → Nat → Option Nat → List Nat → List GoString → Checked (GoString × Nat)
  | 0, _, _, _, _ => Checked.fail "DNS name exceeds compression or label limit"
  | steps + 1, cursor, next, visited, labels =>
    if data.length ≤ cursor then Checked.fail "truncated DNS name"
    else do
      let length ← Checked.byteAt data cursor
      if length = 0 then do
        let name ← clean (joinDots labels) 255
        pure (name, next.getD (cursor + 1))
      else if length.toNat / 64 = 3 then
        if data.length ≤ cursor + 1 then Checked.fail "truncated DNS compression pointer"
        else do
          let low ← Checked.byteAt data (cursor + 1)
          let pointer := length.toNat % 64 * 256 + low.toNat
          if data.length ≤ pointer then Checked.fail "DNS compression pointer is out of bounds"
          else if pointer ∈ visited then Checked.fail "DNS compression pointer loop"
          else dnsNameLoop data steps pointer (some (next.getD (cursor + 2))) (pointer :: visited) labels
      else if length.toNat / 64 ≠ 0 ∨ 63 < length.toNat then Checked.fail "invalid DNS label length"
      else if data.length < cursor + 1 + length.toNat then Checked.fail "truncated DNS label"
      else do
        let bytes ← Checked.slice data (cursor + 1) (cursor + 1 + length.toNat)
        let label ← clean (stringOf bytes) 63
        if label = [] then Checked.fail "empty DNS label after sanitization"
        else if 255 < (joinDots (labels ++ [label])).byteLength then Checked.fail "DNS name exceeds 255 characters"
        else dnsNameLoop data steps (cursor + 1 + length.toNat) next visited (labels ++ [label])

/-- The name at an offset, and where the data goes on after it. -/
def readDNSName (data : Bytes) (offset : Nat) : Checked (GoString × Nat) :=
  if data.length ≤ offset then Checked.fail "DNS name offset is out of bounds"
  else dnsNameLoop data 32 offset none [] []

end Names

section Messages

structure DnsRecord where
  name : GoString
  type : Nat
  data : Bytes
  offset : Nat

def portText (port : Nat) : GoString := GoString.ofText (toString port)

def dnsRecordEvidence (message : Bytes) (record : DnsRecord) (protocol : String) (sender : Sender) : Checked (List Evidence) :=
  match record.type with
  | 1 =>
    if record.data.length ≠ 4 then Checked.fail "invalid DNS A record length"
    else do
      let address := ipText record.data
      let item ← protocolEvidence sender protocol "address-record" (record.name ++ GoString.ofText "=" ++ address) (3 / 4)
      if protocol = "mdns" ∧ address = sender.ip then
        pure [{ item with ip := address, hostname := record.name, confidence := .finite (17 / 20) }]
      else pure [item]
  | 5 => do
    let (name, _) ← readDNSName message record.offset
    let item ← protocolEvidence sender protocol "canonical-name" name (13 / 20)
    pure [item]
  | 12 => do
    let (name, _) ← readDNSName message record.offset
    let item ← protocolEvidence sender protocol "service-name" name (13 / 20)
    pure [item]
  | 33 =>
    if record.data.length < 7 then Checked.fail "truncated DNS SRV record"
    else do
      let (target, _) ← readDNSName message (record.offset + 6)
      let port ← uint16At record.data 4
      let item ← protocolEvidence sender protocol "service-target" (target ++ GoString.ofText ":" ++ portText port) (13 / 20)
      pure [item]
  | _ => pure []

/-- The loop over the questions that are left: where it ends, and the evidence. -/
def dnsQuestions (data : Bytes) (protocol : String) (sender : Sender) : Nat → Nat → List Evidence → Checked (Nat × List Evidence)
  | 0, offset, evidence => pure (offset, evidence)
  | left + 1, offset, evidence => do
    let (name, next) ← readDNSName data offset
    if data.length < next + 4 then Checked.fail "truncated DNS question"
    else if name ≠ [] ∧ evidence.length < 16 then do
      let item ← protocolEvidence sender protocol "query-name" name (2 / 5)
      dnsQuestions data protocol sender left (next + 4) (evidence ++ [item])
    else dnsQuestions data protocol sender left (next + 4) evidence

/-- The loop over the resource records that are left. -/
def dnsRecords (data : Bytes) (protocol : String) (sender : Sender) : Nat → Nat → List Evidence → Checked (List Evidence)
  | 0, _, evidence => pure evidence
  | left + 1, offset, evidence => do
    let (name, next) ← readDNSName data offset
    if data.length < next + 10 then Checked.fail "truncated DNS resource record"
    else do
      let type ← uint16At data next
      let rdataLength ← uint16At data (next + 8)
      if 4096 < rdataLength ∨ data.length < next + 10 + rdataLength then
        Checked.fail "truncated or oversized DNS resource data"
      else do
        let rdata ← Checked.slice data (next + 10) (next + 10 + rdataLength)
        let items ← dnsRecordEvidence data { name, type, data := rdata, offset := next + 10 } protocol sender
        dnsRecords data protocol sender left (next + 10 + rdataLength) (evidence ++ items.take (32 - evidence.length))

def decodeDNS (data : Bytes) (protocol : String) (sender : Sender) : Checked (List Evidence) := do
  requireDataLimit data
  if data.length < 12 then Checked.fail "truncated DNS message"
  else do
    let questionCount ← uint16At data 4
    let answerCount ← uint16At data 6
    let authorityCount ← uint16At data 8
    let additionalCount ← uint16At data 10
    if maxDNSRecords < questionCount + answerCount + authorityCount + additionalCount then
      Checked.fail "DNS record count exceeds limit"
    else do
      let (offset, evidence) ← dnsQuestions data protocol sender questionCount 12 []
      dnsRecords data protocol sender (answerCount + authorityCount + additionalCount) offset evidence

end Messages

section NetBIOS

/-- The loop of `decodeNetBIOSName`: so many bytes are left to decode. -/
def netBIOSLoop (value : Bytes) : Nat → Nat → Bytes → Checked Bytes
  | 0, _, decoded => pure decoded
  | left + 1, index, decoded => do
    let high ← Checked.byteAt value (index * 2)
    let low ← Checked.byteAt value (index * 2 + 1)
    if high < 65 ∨ 80 < high ∨ low < 65 ∨ 80 < low then Checked.fail "invalid encoded NetBIOS name"
    else netBIOSLoop value left (index + 1) (decoded ++ [(high - 65) * 16 + (low - 65)])

def decodeNetBIOSName (value : GoString) : Checked GoString :=
  if value.byteLength ≠ 32 then Checked.fail "invalid encoded NetBIOS name length"
  else do
    let decoded ← netBIOSLoop value.bytes 16 0 []
    let bytes ← Checked.slice decoded 0 15
    let name ← clean (GoString.trimmed (stringOf bytes)) 15
    if name = [] then Checked.fail "empty decoded NetBIOS name" else pure name

def decodeNBNS (data : Bytes) (sender : Sender) : Checked (List Evidence) := do
  requireDataLimit data
  if data.length < 12 then Checked.fail "truncated NBNS message"
  else do
    let questionCount ← uint16At data 4
    let answerCount ← uint16At data 6
    if questionCount + answerCount = 0 ∨ maxDNSRecords < questionCount + answerCount then Checked.fail "invalid NBNS name count"
    else do
      let (name, _) ← readDNSName data 12
      let hostname ← decodeNetBIOSName (name.takeWhile (· ≠ .char '.'))
      let item ← protocolEvidence sender "nbns" "netbios-name" hostname (3 / 4)
      pure [{ item with hostname }]

end NetBIOS

end OpenAssetWatch.Decode
