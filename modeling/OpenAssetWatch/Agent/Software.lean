import OpenAssetWatch.Sensor.GoStrings

namespace OpenAssetWatch.Agent

open Sensor
open Sensor.GoString (ofText trimmed toLower bytes joinNul)
open Sensor.GoString (ofText trimmed)

def maxPackages : Nat := 2000

/-- `boundedText`. -/
def boundedText (value : GoString) (maximum : Nat) : GoString :=
  let value := trimmed value
  if value.any (isControlRune ·.decoded) then [] else if maximum < value.byteLength then [] else value

def isTokenRune (c : Char) : Bool := c.isLower || c.isDigit || c == '.' || c == '_' || c == '-'

/-- `sort.Slice`, which puts the items in order but may put equal ones in any. -/
structure SliceSort where
  sort : {α : Type} → (α → α → Bool) → List α → List α
  perm : ∀ {α : Type} (less : α → α → Bool) (items : List α), (sort less items).Perm items
  sorted : ∀ {α : Type} (less : α → α → Bool) (items : List α), (∀ a b, less a b = true → less b a = false) →
    (∀ a b c, less a b = false → less b c = false → less a c = false) → (sort less items).Pairwise fun a b => less b a = false

def goLess (a b : GoString) : Bool := a.bytes < b.bytes

/-- `sort.Strings`. -/
def sortStrings (values : List GoString) : List GoString := values.insertionSort fun a b => goLess b a = false

section Models

inductive SourceStatus where
  | complete
  | partially
  | unsupported
  | failed
  | other (text : GoString)
deriving DecidableEq

structure SoftwareComponent where
  componentType : GoString
  ecosystem : GoString
  name : GoString
  version : GoString
  vendor : GoString := []
  architecture : GoString
  packageManager : GoString
  packageUrl : GoString := []
  installScope : GoString
  collectionSource : GoString
  sourceRecordId : GoString
  evidenceMethod : GoString
  /-- `none` is the zero time. -/
  observedAt : Option Time
  confidence : ℚ
  metadata : List (GoString × GoString) := []

structure SoftwareSourceResult where
  sourceId : GoString
  platform : GoString
  status : SourceStatus
  observedAt : Option Time
  recordCount : Nat := 0
  truncated : Bool := false
  errorCode : GoString := []
  limitations : List GoString := []

structure PlatformResult where
  components : List SoftwareComponent := []
  sources : List SoftwareSourceResult := []

def SourceStatus.isUnsuccessful (status : SourceStatus) : Bool := status = .failed || status = .unsupported

end Models

section Bounds

variable (beyond : Char → Char)

/-- `boundedToken`. -/
def boundedToken (value : GoString) (maximum : Nat) : GoString :=
  let value := toLower beyond (boundedText value maximum)
  if value.all (isTokenRune ·.decoded) then value else []

/-- `boundedMetadata`. -/
def boundedMetadata (value : List (GoString × GoString)) : List (GoString × GoString) :=
  let allowed := [ofText "edition", ofText "install_state", ofText "language", ofText "release"]
  let safe := (value.filter fun item => allowed.contains item.1).map fun item => (item.1, boundedText item.2 160)
  (safe.filter (·.2 ≠ [])).take 4

/-- `boundedLimitations`. -/
def boundedLimitations (values : List GoString) : List GoString :=
  sortStrings ((((values.map fun value => boundedToken beyond value 120).filter (· ≠ [])).eraseDups).take 8)

/-- The text, or a default for an empty one. -/
def orDefault (value default : GoString) : GoString := if value = [] then default else value

/-- `boundedComponent`. -/
def boundedComponent (value : SoftwareComponent) (observedAt : Time) : SoftwareComponent where
  componentType := orDefault (boundedToken beyond value.componentType 40) (ofText "application")
  ecosystem := orDefault (boundedToken beyond value.ecosystem 40) (ofText "generic")
  name := boundedText value.name 240
  version := boundedText value.version 160
  vendor := boundedText value.vendor 160
  architecture := boundedToken beyond value.architecture 40
  packageManager := boundedToken beyond value.packageManager 48
  packageUrl := boundedText value.packageUrl 600
  installScope := orDefault (boundedToken beyond value.installScope 40) (ofText "system")
  collectionSource := boundedToken beyond value.collectionSource 64
  sourceRecordId := boundedText value.sourceRecordId 240
  evidenceMethod := boundedToken beyond value.evidenceMethod 64
  observedAt := some (value.observedAt.getD observedAt)
  confidence := if value.confidence < 0 || 1 < value.confidence then 4 / 5 else value.confidence
  metadata := boundedMetadata value.metadata

/-- What `finalize` makes of a source at first. -/
def boundedSource (source : SoftwareSourceResult) (observedAt : Time) : SoftwareSourceResult :=
  let source := match source.status with
    | .other _ => { source with status := .failed, errorCode := ofText "invalid-source-status" }
    | _ => source
  { source with
    sourceId := boundedToken beyond source.sourceId 64
    platform := boundedToken beyond source.platform 32
    observedAt := some (source.observedAt.getD observedAt)
    errorCode := boundedToken beyond source.errorCode 80
    limitations := boundedLimitations beyond source.limitations
    recordCount := 0 }

/-- `markPartial`. -/
def markPartial (limitation : String) (source : SoftwareSourceResult) : SoftwareSourceResult :=
  if source.status.isUnsuccessful then source
  else
    { source with
      status := .partially
      limitations := boundedLimitations beyond (source.limitations ++ [ofText limitation]) }

/-- The text that sorts components. -/
def componentOrder (component : SoftwareComponent) : GoString :=
  joinNul [component.collectionSource, toLower beyond component.name, component.version, component.architecture,
    component.sourceRecordId]

/-- The text that tells components apart. -/
def componentKey (component : SoftwareComponent) : GoString :=
  joinNul [component.collectionSource, toLower beyond component.ecosystem, toLower beyond component.name, component.version,
    toLower beyond component.architecture, component.installScope]

def componentLess (a b : SoftwareComponent) : Bool := goLess (componentOrder beyond a) (componentOrder beyond b)

end Bounds

section Finalize

/-- The last source of an identifier, which is the one that `bySource` holds. -/
def sourceNamed (sourceId : GoString) : List SoftwareSourceResult → Option SoftwareSourceResult
  | [] => none
  | source :: rest => (sourceNamed sourceId rest).or (if source.sourceId = sourceId then some source else none)

def updateSource (sourceId : GoString) (change : SoftwareSourceResult → SoftwareSourceResult) :
    List SoftwareSourceResult → List SoftwareSourceResult
  | [] => []
  | source :: rest =>
    if (sourceNamed sourceId rest).isSome then source :: updateSource sourceId change rest
    else if source.sourceId = sourceId then change source :: rest
    else source :: rest

instance lawfulBEq_runes : LawfulBEq (List Rune) := inferInstance

/-- The state of the loop over the components. -/
structure Finalizing where
  sources : List SoftwareSourceResult
  components : List SoftwareComponent := []
  seen : List GoString := []

variable (sorting : SliceSort) (beyond : Char → Char)

/-- One turn of the loop over the components, of a bounded one. -/
def Finalizing.take (state : Finalizing) (component : SoftwareComponent) : Finalizing :=
  match sourceNamed component.collectionSource state.sources with
  | none => state
  | some source =>
    let change := fun change => updateSource component.collectionSource change state.sources
    let key := componentKey beyond component
    if source.status.isUnsuccessful then state
    else if component.name = [] ∨ component.sourceRecordId = [] then
      { state with sources := change (markPartial beyond "malformed-records-skipped") }
    else if key ∈ state.seen then state
    else if maxPackages ≤ state.components.length then
      { state with sources := change fun source => { markPartial beyond "package-count-limit" source with truncated := true } }
    else
      { sources := change fun source => { source with recordCount := source.recordCount + 1 }
        components := state.components ++ [component]
        seen := key :: state.seen }

/-- The components that the loop of `finalize` takes, in their order. -/
def orderedComponents (result : PlatformResult) (observedAt : Time) : List SoftwareComponent :=
  (sorting.sort (componentLess beyond) result.components).map (boundedComponent beyond · observedAt)

def finalizing (result : PlatformResult) (observedAt : Time) : Finalizing :=
  (orderedComponents sorting beyond result observedAt).foldl (Finalizing.take beyond)
    { sources := result.sources.map (boundedSource beyond · observedAt) }

/-- `finalize`. -/
def finalize (result : PlatformResult) (observedAt : Time) : List SoftwareComponent × List SoftwareSourceResult :=
  let state := finalizing sorting beyond result observedAt
  (sorting.sort (componentLess beyond) state.components, sorting.sort (fun a b => goLess a.sourceId b.sourceId) state.sources)

end Finalize

def maxSourceLines : Nat := 5000

/-- The bytes of a line with its end that the scanner's buffer has room for. -/
def maxLineBytes : Nat := 4096

section Scan

/-- What ends with the rune, or with the text. -/
def splitAfter (separator : Rune) : GoString → List GoString
  | [] => []
  | rune :: rest =>
    if rune = separator then [] :: splitAfter separator rest
    else
      match splitAfter separator rest with
      | [] => [[rune]]
      | line :: lines => (rune :: line) :: lines

/-- `strings.Split` with a tab. -/
def splitTabs (line : GoString) : List GoString := line.splitOn (.char '\t')

def dropCarriageReturn (line : GoString) : GoString :=
  if line.getLast? = some (.char '\r') then line.dropLast else line

/-- The lines of a `bufio.Scanner` before one for which it has no room, and whether there is such a line. -/
def scanLines (output : GoString) : List GoString × Bool :=
  let lines := splitAfter (.char '\n') output
  let fits := fun line : GoString => line.byteLength < maxLineBytes
  ((lines.takeWhile fits).map dropCarriageReturn, lines.any (!fits ·))

/-- `strings.TrimPrefix`. -/
def dropLeading (leading value : GoString) : GoString :=
  if leading.isPrefixOf value then value.drop leading.length else value

/-- `strings.LastIndex` of a colon, where it is not first, with what is before and after it. -/
def splitLastColon (name : GoString) : Option (GoString × GoString) :=
  let after := (name.reverse.takeWhile (· ≠ .char ':')).reverse
  let before := name.take (name.length - after.length - 1)
  if after.length = name.length ∨ before = [] then none else some (before, after)

end Scan

section Parse

structure PackageManager where
  sourceId : String
  ecosystem : String
  manager : String
  normalizesEpoch : Bool

def dpkg : PackageManager := ⟨"linux-dpkg", "deb", "dpkg", false⟩

def rpm : PackageManager := ⟨"linux-rpm", "rpm", "rpm", true⟩

variable (manager : PackageManager) (observedAt : Time)

/-- What `parseLinuxRows` reports of a package. -/
def packageComponent (name version architecture : GoString) : SoftwareComponent where
  componentType := ofText "operating-system-package"
  ecosystem := ofText manager.ecosystem
  name := name
  version := version
  architecture := architecture
  packageManager := ofText manager.manager
  installScope := ofText "system"
  collectionSource := ofText manager.sourceId
  sourceRecordId := name ++ .char ':' :: architecture
  evidenceMethod := ofText (manager.manager ++ "-native-query")
  observedAt := some observedAt
  confidence := 95 / 100

/-- One row of `parseLinuxRows`, if it is well formed. -/
def parseRow (line : GoString) : Option SoftwareComponent :=
  match splitTabs line with
  | [name, version, architecture] =>
    let name := trimmed name
    let version := trimmed version
    let architecture := trimmed architecture
    let version :=
      if manager.normalizesEpoch then dropLeading (ofText "0:") (dropLeading (ofText "(none):") version) else version
    match if manager.ecosystem = "deb" then splitLastColon name else none with
    | some (before, after) =>
      some (packageComponent manager observedAt before version (if architecture = [] then after else architecture))
    | none => some (packageComponent manager observedAt name version architecture)
  | _ => none

/-- `parseLinuxRows`, with how many rows are malformed. -/
def parseLinuxRows (output : GoString) : List SoftwareComponent × Nat :=
  let (lines, tooLong) := scanLines output
  let rows := (lines.take maxSourceLines).map (parseRow manager observedAt)
  (rows.filterMap id, rows.countP (·.isNone) + if maxSourceLines < lines.length ∨ tooLong = true then 1 else 0)

end Parse

section Collect

inductive CommandError where
  | outputLimit
  | deadlineExceeded
  | other
deriving DecidableEq

/-- What the query of a package manager leaves, with its error if it has one. -/
structure CommandOutcome where
  output : GoString
  error : Option CommandError := none

variable (observedAt : Time)

/-- One turn of the loop of `collectLinuxSources`; there is no outcome where there is no executable. -/
def collectLinuxSource (manager : PackageManager) (outcome : Option CommandOutcome) : PlatformResult :=
  let status : SoftwareSourceResult :=
    { sourceId := ofText manager.sourceId, platform := ofText "linux", status := .unsupported, observedAt := some observedAt }
  match outcome with
  | none => { sources := [{ status with errorCode := ofText "package-manager-unavailable" }] }
  | some outcome =>
    match outcome.error with
    | some .deadlineExceeded => { sources := [{ status with status := .failed, errorCode := ofText "command-timeout" }] }
    | some .other => { sources := [{ status with status := .failed, errorCode := ofText "command-failed" }] }
    | error =>
      let (components, malformed) := parseLinuxRows manager observedAt outcome.output
      let status := { status with status := .complete }
      let status :=
        if 0 < malformed then
          { status with status := .partially, limitations := status.limitations ++ [ofText "malformed-records-skipped"] }
        else status
      let status :=
        if error = some .outputLimit then
          { status with
            status := .partially
            truncated := true
            errorCode := ofText "output-limit"
            limitations := status.limitations ++ [ofText "output-truncated"] }
        else status
      { components, sources := [status] }

/-- `collectPlatform` on Linux. -/
def collectPlatform (dpkgOutcome rpmOutcome : Option CommandOutcome) : PlatformResult :=
  let first := collectLinuxSource observedAt dpkg dpkgOutcome
  let second := collectLinuxSource observedAt rpm rpmOutcome
  { components := first.components ++ second.components, sources := first.sources ++ second.sources }

end Collect

end OpenAssetWatch.Agent
