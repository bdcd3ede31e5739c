import OpenAssetWatch.Clock
import OpenAssetWatch.Text.Purl
import OpenAssetWatch.Version.Compare

namespace OpenAssetWatch.Vulnerability

open Text Version

def vulnerabilityEngineVersion : String := "oaw.vulnerabilities.v1"

inductive MatchStatus where
  | affected
  | notAffected
  | fixed
  | versionUnknown
  | identityUncertain
  | unsupportedComparison
  | insufficientEvidence
  | advisoryWithdrawn
deriving DecidableEq, Repr

/-- A row of `asset_components` joined with its asset; `none` is a null column. -/
structure Component where
  componentId : String
  siteId : String
  assetId : String
  componentType : String := "application"
  ecosystem : String
  vendor : Option String := none
  normalizedName : String
  normalizedVersion : Option String := none
  architecture : Option String := none
  assetPlatform : Option String := none
  canonicalIdentifier : Option String := none
  sourceType : String := "endpoint-collector"
  firmwareEvidenceType : String := "unknown"
  freshness : Option String := some "fresh"
  confidence : ℚ := 1
  active : Bool := true
  evidenceIds : List (Option String) := []
deriving DecidableEq

/-- A row of `advisory_affected_components` with its ranges. In the lists `none` is a value that is not a string. -/
structure AffectedComponent where
  affectedId : String
  advisoryId : String
  ecosystem : String
  vendor : Option String := none
  normalizedName : String
  canonicalIdentifier : Option String := none
  exactVersions : List (Option String) := []
  fixedVersions : List (Option String) := []
  architectures : List (Option String) := []
  platforms : List (Option String) := []
  ranges : List VersionRange := []
deriving DecidableEq

/-- What reconciliation reads of an advisory when it joins the `advisories` table. -/
structure AdvisoryState where
  current : Bool := true
  checksum : String := ""
deriving DecidableEq, Repr

structure AdvisoryRow extends AdvisoryState where
  withdrawnAt : Option Time := none
deriving DecidableEq

/-- An affected-component row joined with its advisory. -/
structure Affected extends AffectedComponent, AdvisoryRow
deriving DecidableEq

/-- `match_id_for` hashes the pair; the digest is only ever used as a key, so the pair stands for it. -/
structure MatchId where
  componentId : String
  advisoryId : String
deriving DecidableEq, Repr

structure VulnerabilityMatch where
  matchId : MatchId
  siteId : String
  assetId : String
  affectedId : String
  matchStatus : MatchStatus
  matchConfidence : ℚ
  matchedIdentifier : Option String
  installedVersion : Option String
  affectedRange : Option String
  fixedVersion : Option String
  evaluatedAt : Time
  evidenceIds : List String
  reasonCodes : List String
  engineVersion : String := vulnerabilityEngineVersion
deriving DecidableEq

abbrev VulnerabilityMatch.componentId (m : VulnerabilityMatch) : String := m.matchId.componentId
abbrev VulnerabilityMatch.advisoryId (m : VulnerabilityMatch) : String := m.matchId.advisoryId

def matchIdFor (componentId advisoryId : String) : MatchId := { componentId, advisoryId }

def constraintApplies (actual : Option String) (allowed : List (Option String)) : Bool :=
  if allowed.isEmpty then
    true
  else
    let value := normalizedToken 80 actual
    !value.isEmpty && (allowed.map (normalizedToken 80)).contains value

inductive IdentityState where
  | precise
  | uncertain
deriving DecidableEq, Repr

structure Identity where
  state : IdentityState
  confidence : ℚ
  matchedIdentifier : String
deriving DecidableEq

/-- An identifier that names a package, or nothing when it is missing or does not parse. -/
def packageIdentity (canonicalIdentifier : Option String) : Option String :=
  (purlIdentity canonicalIdentifier).filter (!·.isEmpty)

def nameMatch (component : Component) (affected : Affected) : Option Identity :=
  let componentName := normalizedToken maxComponentName (some component.normalizedName)
  let affectedName := normalizedToken maxComponentName (some affected.normalizedName)
  if componentName.isEmpty || componentName != affectedName then
    none
  else
    let componentVendor := normalizedToken 160 component.vendor
    let affectedVendor := normalizedToken 160 affected.vendor
    if !affectedVendor.isEmpty && componentVendor != affectedVendor then
      none
    else if component.ecosystem = "firmware" && !componentVendor.isEmpty then
      some ⟨.precise, 92 / 100, "firmware:" ++ componentVendor ++ "/" ++ componentName⟩
    else
      some ⟨.uncertain, 45 / 100, component.ecosystem ++ ":" ++ affectedVendor ++ "/" ++ componentName⟩

/-- `none` is the identity state `none`. -/
def identityMatch (component : Component) (affected : Affected) : Option Identity :=
  if component.ecosystem != affected.ecosystem then
    none
  else
    match packageIdentity component.canonicalIdentifier, packageIdentity affected.canonicalIdentifier with
    | some componentIdentifier, some affectedIdentifier =>
      if componentIdentifier = affectedIdentifier then some ⟨.precise, 1, componentIdentifier⟩ else none
    | _, _ => nameMatch component affected

def rangeDescription (range : VersionRange) : String :=
  let parts :=
    (if range.introducedUnbounded then ["from beginning"] else []) ++
    (range.introduced.toList.map ((if range.introducedInclusive then ">=" else ">") ++ ·)) ++
    (range.fixed.toList.map ((if range.fixedInclusive then "<=" else "<") ++ ·)) ++
    (range.lastAffected.toList.map ((if range.lastAffectedInclusive then "<=" else "<") ++ ·))
  String.ofList ((", ".intercalate parts).toList.take 320)

structure Outcome where
  status : RangeStatus
  reason : String
  description : String

section

variable {V : Type*} [LinearOrder V] (pep440 : List Char → Option V)

/-- The loop over the exact versions; `unsupportedReason` is the reason of the last refusal so far. -/
def exactVersionLoop (ecosystem installedVersion unsupportedReason : String) :
    List String → RangeStatus × String
  | [] =>
    if unsupportedReason.isEmpty then (.notAffected, "installed-version-not-in-exact-list")
    else (.unsupportedComparison, unsupportedReason)
  | exact :: rest =>
    let comparison := compareVersions pep440 ecosystem (some installedVersion) (some exact)
    if comparison.status = .supported ∧ comparison.order = some .eq then
      (.affected, "installed-version-is-listed-exactly")
    else
      exactVersionLoop ecosystem installedVersion
        (if comparison.status = .supported then unsupportedReason else comparison.reason) rest

def exactVersionStatus (ecosystem installedVersion : String) (exactVersions : List String) :
    RangeStatus × String :=
  exactVersionLoop pep440 ecosystem installedVersion "" exactVersions

def versionOutcomes (component : Component) (affected : Affected) (installedVersion : String) :
    List Outcome :=
  let exactVersions := affected.exactVersions.filterMap id
  let exact :=
    if exactVersions.isEmpty then []
    else
      let (status, reason) := exactVersionStatus pep440 component.ecosystem installedVersion exactVersions
      [⟨status, reason, "exact version list"⟩]
  exact ++ (affected.ranges.take 32).map fun range =>
    let (status, reason) := versionSatisfiesRange pep440 component.ecosystem (some installedVersion) range
    ⟨status, reason, rangeDescription range⟩

structure Verdict where
  status : MatchStatus
  reason : String
  affectedRange : Option String := none

def outcomesVerdict (outcomes : List Outcome) : Verdict :=
  match outcomes.find? (·.status == .affected) with
  | some item => ⟨.affected, item.reason, some item.description⟩
  | none =>
    match outcomes.find? (·.status == .unsupportedComparison) with
    | some item => ⟨.unsupportedComparison, item.reason, none⟩
    | none =>
      match outcomes.find? (·.status == .fixed) with
      | some item => ⟨.fixed, item.reason, none⟩
      | none =>
        ⟨.notAffected, (outcomes.head?.map (·.reason)).getD "no-reviewed-version-range-applies", none⟩

def installedVersionOf (component : Component) : Option String :=
  component.normalizedVersion.filter (!·.isEmpty)

def insufficientFirmware (component : Component) : Bool :=
  component.componentType = "firmware" &&
    (component.firmwareEvidenceType ∉ ["direct", "vendor-reported", "collector-reported"] ||
      component.confidence < 8 / 10)

def matchVerdict (component : Component) (affected : Affected) (state : IdentityState) : Verdict :=
  if !affected.current || affected.withdrawnAt.isSome then
    ⟨.advisoryWithdrawn, "advisory-withdrawn-or-superseded", none⟩
  else if !component.active then
    ⟨.fixed, "component-removal-confirmed-by-complete-inventory", none⟩
  else if component.sourceType ∉ ["endpoint-collector", "reviewed-connector"] then
    ⟨.insufficientEvidence, "component-source-is-not-authoritative-for-version-matching", none⟩
  else if (component.freshness.filter (!·.isEmpty)).getD "unknown" ∈ ["stale", "unknown"] then
    ⟨.insufficientEvidence, "component-evidence-not-current", none⟩
  else if state = .uncertain then
    ⟨.identityUncertain, "component-identity-lacks-reviewed-canonical-identifier", none⟩
  else if !constraintApplies component.architecture affected.architectures then
    ⟨.notAffected, "architecture-constraint-not-applicable", none⟩
  else if !constraintApplies component.assetPlatform affected.platforms then
    ⟨.notAffected, "platform-constraint-not-applicable", none⟩
  else if insufficientFirmware component then
    ⟨.insufficientEvidence, "firmware-evidence-is-not-sufficiently-precise", none⟩
  else
    match installedVersionOf component with
    | none => ⟨.versionUnknown, "installed-version-missing", none⟩
    | some installedVersion => outcomesVerdict (versionOutcomes pep440 component affected installedVersion)

def matchComponent (component : Component) (affected : Affected) (evaluatedAt : Time) :
    Option VulnerabilityMatch :=
  (identityMatch component affected).map fun identity =>
    let verdict := matchVerdict pep440 component affected identity.state
    let evidenceIds :=
      ((component.evidenceIds ++ [some component.componentId, some affected.advisoryId]).filterMap id).take 16
    let reasons :=
      verdict.reason :: (if identity.matchedIdentifier.isEmpty then [] else ["reviewed-identity-match"])
    { matchId := matchIdFor component.componentId affected.advisoryId
      siteId := component.siteId
      assetId := component.assetId
      affectedId := affected.affectedId
      matchStatus := verdict.status
      matchConfidence := identity.confidence
      matchedIdentifier := some identity.matchedIdentifier
      installedVersion := installedVersionOf component
      affectedRange := verdict.affectedRange
      fixedVersion := (affected.fixedVersions.filterMap id).head?
      evaluatedAt
      evidenceIds := evidenceIds.eraseDups
      reasonCodes := reasons.eraseDups }

end

end OpenAssetWatch.Vulnerability
