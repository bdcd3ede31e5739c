import OpenAssetWatch.Ingestion.Endpoint
import OpenAssetWatch.Library.Best
import OpenAssetWatch.Library.Ranking
import OpenAssetWatch.Temporal.Contracts
import OpenAssetWatch.Text.Normalize

namespace OpenAssetWatch.Classification

open Library OpenAssetWatch.Text
open Temporal (float)

inductive AssetCategory where
  | workstation
  | server
  | mobile
  | networkDevice
  | printer
  | camera
  | mediaDevice
  | storage
  | iot
  | otIndustrial
  | virtualMachine
  | unknown
deriving DecidableEq, Repr

def AssetCategory.text : AssetCategory → String
  | .workstation => "workstation"
  | .server => "server"
  | .mobile => "mobile"
  | .networkDevice => "network-device"
  | .printer => "printer"
  | .camera => "camera"
  | .mediaDevice => "media-device"
  | .storage => "storage"
  | .iot => "iot"
  | .otIndustrial => "ot-industrial"
  | .virtualMachine => "virtual-machine"
  | .unknown => "unknown"

inductive ClassificationStatus where
  | classified
  | partiallyClassified
  | unknown
  | conflicting
  | insufficientEvidence
deriving DecidableEq, Repr

inductive Expectation where
  | expected
  | notExpected
  | unknown
deriving DecidableEq, Repr

inductive EvidenceStrength where
  | direct
  | medium
  | weak
deriving DecidableEq, Repr

inductive EvidenceFreshness where
  | fresh
  | aging
  | stale
  | unknown
deriving DecidableEq, Repr

/-- The reason codes that the classifier gives, all of which it supports. -/
inductive ReasonCode where
  | directCategory
  | directEndpointOs
  | directDeviceRole
  | passiveDhcpVendorClass
  | passiveMdnsService
  | passiveSsdpDeviceType
  | passiveNbnsName
  | weakHostnamePattern
  | vendorCatalogMatch
  | independentSourceAgreement
  | materialEvidenceConflict
  | staleEvidenceDiscounted
  | futureEvidenceRejected
  | revokedSourceDiscounted
  | manufacturerOnlyEvidence
  | insufficientCategoryEvidence
  | noCategoryEvidence
deriving DecidableEq, Repr

def classifierVersion : String := "oaw.classifier.v1"
def maxClassificationEvidence : Nat := 256
def maxClassificationEvidenceInput : Nat := 4096
def maxClassificationEvidencePerSource : Nat := 48
def maxClassificationReferences : Nat := 32
def maxReasonCodes : Nat := 12
def maxConflicts : Nat := 16

/-- `MAX_FUTURE_EVIDENCE_SKEW`, five minutes. -/
def maxFutureEvidenceSkew : Time := 300_000_000

def categoryAliases : List (String × AssetCategory) :=
  [("desktop", .workstation), ("laptop", .workstation), ("pc", .workstation), ("workstation", .workstation),
    ("server", .server), ("mobile", .mobile), ("phone", .mobile), ("smartphone", .mobile), ("tablet", .mobile),
    ("network", .networkDevice), ("network appliance", .networkDevice), ("network device", .networkDevice),
    ("network-device", .networkDevice), ("router", .networkDevice), ("switch", .networkDevice),
    ("firewall", .networkDevice), ("access point", .networkDevice), ("printer", .printer), ("camera", .camera),
    ("ip camera", .camera), ("media", .mediaDevice), ("media device", .mediaDevice), ("media-device", .mediaDevice),
    ("storage", .storage), ("nas", .storage), ("iot", .iot), ("embedded", .iot), ("ot", .otIndustrial),
    ("industrial", .otIndustrial), ("ot-industrial", .otIndustrial), ("virtual machine", .virtualMachine),
    ("virtual-machine", .virtualMachine), ("vm", .virtualMachine), ("unknown", .unknown)]

structure ManagedCapability where
  endpointCollector : Expectation
  endpointSecurity : Expectation
  softwareInventory : Expectation
  patchManagement : Expectation
deriving DecidableEq, Repr

/-- What the classifier reads of an item of evidence. Times without a zone and confidences that are not finite are `none`. -/
structure ClassificationEvidence where
  evidenceId : String
  sourceId : String
  sourceType : String
  collectionMethod : String
  kind : String
  value : String
  observedAt : Option Time
  direct : Bool
  strength : EvidenceStrength
  sourceConfidence : Option ℚ
  lastSeenAt : Option (Option Time) := none
  sourceRevoked : Bool := false
deriving DecidableEq, Repr

def ClassificationEvidence.sourceKey (item : ClassificationEvidence) : List Char :=
  item.sourceType.toList ++ Char.ofNat 0 :: item.sourceId.toList

/-- `_CONTROL_CHARACTERS`. -/
def isRemovedControl (c : Char) : Bool :=
  c.toNat ≤ 8 || c.toNat = 0x0b || c.toNat = 0x0c || (0x0e ≤ c.toNat && c.toNat ≤ 0x1f) || c.toNat = 0x7f

/-- `bounded_text`. -/
def boundedText (limit : Nat) (value : List Char) : List Char :=
  (joinWords (words (value.filter (!isRemovedControl ·)))).take limit

/-- `normalized_text`. -/
def normalizedText (limit : Nat) (value : List Char) : List Char := casefold (boundedText limit value)

def replaceChar (old new : Char) (text : List Char) : List Char := text.map fun c => if c = old then new else c

/-- `needle in text`. -/
def occursIn (needle : String) (text : List Char) : Bool := text.tails.any (needle.toList.isPrefixOf ·)

/-- `category_name`. -/
def categoryName (value : List Char) : Option AssetCategory :=
  let normalized := replaceChar '/' ' ' (replaceChar '_' ' ' (normalizedText 80 value))
  (categoryAliases.find? fun entry => entry.1.toList = joinWords (words normalized)).map Prod.snd

/-- `managed_capability_for`. -/
def managedCapabilityFor : AssetCategory → ManagedCapability
  | .workstation | .server | .virtualMachine => ⟨.expected, .expected, .expected, .expected⟩
  | .mobile => ⟨.expected, .expected, .unknown, .expected⟩
  | .networkDevice | .printer | .camera | .mediaDevice | .storage | .iot | .otIndustrial =>
    ⟨.notExpected, .notExpected, .notExpected, .unknown⟩
  | .unknown => ⟨.unknown, .unknown, .unknown, .unknown⟩

def hour : Time := 3_600_000_000

/-- `evidence_freshness`. -/
def evidenceFreshness (observedAt : Option Time) (now : Time) (sourceRevoked : Bool) : EvidenceFreshness :=
  if sourceRevoked then .stale
  else
    match observedAt with
    | none => .unknown
    | some observed =>
      if now + maxFutureEvidenceSkew < observed then .unknown
      else
        let age := max (now - observed) 0
        if age ≤ 24 * hour then .fresh else if age ≤ 72 * hour then .aging else .stale

/-- The time of an item that its freshness goes by. -/
def ClassificationEvidence.seenAt (item : ClassificationEvidence) : Option Time := item.lastSeenAt.getD item.observedAt

def ClassificationEvidence.freshness (item : ClassificationEvidence) (now : Time) : EvidenceFreshness :=
  evidenceFreshness item.seenAt now item.sourceRevoked

/-- `_freshness_factor`. -/
def freshnessFactor (freshness : EvidenceFreshness) (revoked : Bool) : ℚ :=
  if revoked then float (1 / 10)
  else
    match freshness with
    | .fresh => 1
    | .aging => float (8 / 10)
    | .stale => float (35 / 100)
    | .unknown => float (45 / 100)

/-- `_finite_confidence`. -/
def finiteConfidence (value : Option ℚ) : ℚ :=
  match value with
  | none => float (5 / 10)
  | some number => max 0 (min number 1)

/-- The first moment of a `datetime`. -/
def earliestMoment : Time := -62_135_596_800_000_000

/-- `_evidence_timestamp`. -/
def evidenceTimestamp (item : ClassificationEvidence) : Time := item.seenAt.getD earliestMoment

end OpenAssetWatch.Classification
