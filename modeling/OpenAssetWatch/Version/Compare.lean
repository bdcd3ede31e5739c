import OpenAssetWatch.Library.TupleOrder
import OpenAssetWatch.Text.Normalize

namespace OpenAssetWatch.Version

open Library.TupleOrder (Value compare?)

def versionEngine : String := "oaw.versions.v1"
def maxVersionParts : Nat := 64

inductive ComparisonStatus where
  | supported
  | unsupported
  | invalid
deriving DecidableEq, Repr

/-- `order` is the sign of the comparison: `-1`, `0` and `1` are `lt`, `eq` and `gt`. -/
structure VersionComparison where
  status : ComparisonStatus
  order : Option Ordering
  reason : String
  engineVersion : String := versionEngine
  answered : status = .supported ↔ order.isSome := by simp
deriving DecidableEq, Repr

inductive Raised where
  | typeError
  | valueError (message : String)
deriving DecidableEq, Repr

def isSafe (c : Char) : Bool :=
  c.isAlphanum || c == '.' || c == '!' || c == '+' || c == ':' || c == '~' || c == '_' || c == '-'

def safeVersion (value : List Char) : Bool :=
  1 ≤ value.length && value.length ≤ 160 && value.all isSafe

def isNumeric (item : List Char) : Bool := !item.isEmpty && item.all Char.isDigit

def number (digits : List Char) : Nat := digits.foldl (fun n c => 10 * n + (c.toNat - '0'.toNat)) 0

def text (item : List Char) : Value := .str (String.ofList item)

def natural (n : Nat) : Value := .int n

def compareTuple (left right : Value) : Except Raised Ordering :=
  match compare? left right with
  | some order => .ok order
  | none => .error .typeError

def prereleaseParts (value : Option (List Char)) : Except Raised Value :=
  match value with
  | none => .ok (.tuple [.tuple [.int 2, .int 0]])
  | some value =>
    let items := value.splitOn '.'
    if maxVersionParts < items.length then
      .error (.valueError "prerelease has too many identifiers")
    else
      .ok (.tuple (items.map fun item =>
        if isNumeric item then .tuple [.int 0, natural (number item)] else .tuple [.int 1, text item]))

/-- `0|[1-9]\d*` at the front of the text, and what is left. -/
def takeNumber : List Char → Option (List Char × List Char)
  | [] => none
  | c :: rest =>
    if c == '0' then some ([c], rest)
    else if c.isDigit then some (c :: rest.takeWhile Char.isDigit, rest.dropWhile Char.isDigit)
    else none

def takeDotNumber (value : List Char) : Option (List Char) × List Char :=
  match value with
  | '.' :: rest =>
    match takeNumber rest with
    | some (digits, rest) => (some digits, rest)
    | none => (none, value)
  | _ => (none, value)

def isSemverChar (c : Char) : Bool := c.isAlphanum || c == '.' || c == '-'

def takeSuffix (mark : Char) (value : List Char) : Option (List Char) × List Char :=
  match value with
  | [] => (none, value)
  | c :: rest =>
    let body := rest.takeWhile isSemverChar
    if c == mark && !body.isEmpty then (some body, rest.dropWhile isSemverChar) else (none, value)

def stripV (value : List Char) : List Char :=
  match value with
  | 'v' :: rest | 'V' :: rest => rest
  | _ => value

/-- `none` is a text that the semantic version pattern does not match. -/
def semver (value : List Char) : Except Raised (Option Value) :=
  match takeNumber (stripV value) with
  | none => .ok none
  | some (major, afterMajor) =>
    let (minor, afterMinor) := takeDotNumber afterMajor
    let (patch, afterPatch) := takeDotNumber afterMinor
    let (pre, afterPre) := takeSuffix '-' afterPatch
    let (_, rest) := takeSuffix '+' afterPre
    if rest.isEmpty then do
      let parts ← prereleaseParts pre
      return some (.tuple [natural (number major), natural (number (minor.getD ['0'])),
        natural (number (patch.getD ['0'])), parts])
    else
      .ok none

def splitEpoch (value : List Char) : Except Raised (Nat × List Char) :=
  if value.contains ':' then
    let rawEpoch := value.takeWhile (· != ':')
    let remainder := (value.dropWhile (· != ':')).tail
    if isNumeric rawEpoch then .ok (number rawEpoch, remainder) else .error (.valueError "invalid epoch")
  else
    .ok (0, value)

/-- `none` is the empty string, read at a digit or past the end. -/
def debianNonDigitOrder : Option Char → Int
  | none => 0
  | some c =>
    if c == '~' then -1
    else if c.isAlpha then c.toNat
    else c.toNat + 256

def leadingNonDigit : List Char → Option Char
  | [] => none
  | c :: _ => if c.isDigit then none else some c

def skip (c : Option Char) (value : List Char) : List Char := if c.isSome then value.tail else value

/-- The character loop; each turn consumes at least one of the first `fuel` characters. -/
def debianNonDigits : Nat → List Char → List Char → Ordering × List Char × List Char
  | 0, left, right => (.eq, left, right)
  | fuel + 1, left, right =>
    match leadingNonDigit left, leadingNonDigit right with
    | none, none => (.eq, left, right)
    | leftChar, rightChar =>
      match compare (debianNonDigitOrder leftChar) (debianNonDigitOrder rightChar) with
      | .eq => debianNonDigits fuel (skip leftChar left) (skip rightChar right)
      | decided => (decided, left, right)

def stripZeros (digits : List Char) : List Char :=
  let stripped := digits.dropWhile (· == '0')
  if stripped.isEmpty then ['0'] else stripped

def leadingNumber (value : List Char) : List Char := stripZeros (value.takeWhile Char.isDigit)

/-- The counter is the source's own: it runs out after four times `maxVersionParts` turns. -/
def debianSegments : Nat → List Char → List Char → Except Raised Ordering
  | _, [], [] => .ok .eq
  | 0, _, _ => .error (.valueError "version has too many segments")
  | turns + 1, left, right =>
    let (order, left, right) := debianNonDigits (left.length + right.length) left right
    match order with
    | .eq =>
      match compare (leadingNumber left).length (leadingNumber right).length with
      | .eq =>
        match compare (leadingNumber left) (leadingNumber right) with
        | .eq => debianSegments turns (left.dropWhile Char.isDigit) (right.dropWhile Char.isDigit)
        | decided => .ok decided
      | decided => .ok decided
    | decided => .ok decided

def debianPartCompare (left right : List Char) : Except Raised Ordering :=
  debianSegments (maxVersionParts * 4) left right

/-- Split at the last hyphen; a version without one has revision `0`. -/
def splitRevision (value : List Char) : List Char × List Char :=
  if value.contains '-' then
    let revision := (value.reverse.takeWhile (· != '-')).reverse
    (value.take (value.length - revision.length - 1), revision)
  else
    (value, ['0'])

def debianCompare (left right : List Char) : Except Raised Ordering := do
  let (leftEpoch, leftRemainder) ← splitEpoch left
  let (rightEpoch, rightRemainder) ← splitEpoch right
  match compare leftEpoch rightEpoch with
  | .eq =>
    let (leftUpstream, leftRevision) := splitRevision leftRemainder
    let (rightUpstream, rightRevision) := splitRevision rightRemainder
    match ← debianPartCompare leftUpstream rightUpstream with
    | .eq => debianPartCompare leftRevision rightRevision
    | decided => return decided
  | decided => return decided

/-- Neighbours that one `\d+` or one `[A-Za-z]+` match takes together. -/
def sameRun (a b : Char) : Bool := (a.isDigit && b.isDigit) || (a.isAlpha && b.isAlpha)

/-- The matches of `\d+|[A-Za-z]+` and of the single characters in `alone`, from left to right. -/
def findTokens (alone : Char → Bool) (value : List Char) : List (List Char) :=
  (value.splitBy sameRun).filter (·.all fun c => c.isAlphanum || alone c)

def rpmToken (token : List Char) : Value :=
  if token == ['~'] then .tuple [.int (-1), .str ""]
  else if isNumeric token then .tuple [.int 2, natural (number token)]
  else .tuple [.int 1, text (Text.casefold token)]

def rpmSegments (value : List Char) : Except Raised Value := do
  let (epoch, remainder) ← splitEpoch value
  let tokens := findTokens (· == '~') remainder
  if maxVersionParts < tokens.length + 1 then
    throw (.valueError "version has too many segments")
  return .tuple (.tuple [.int 3, natural epoch] :: tokens.map rpmToken)

def qualifiers : List (String × Int) :=
  [("alpha", -5), ("a", -5), ("beta", -4), ("b", -4), ("milestone", -3), ("m", -3), ("rc", -2), ("cr", -2),
    ("snapshot", -1), ("", 0), ("final", 0), ("ga", 0), ("release", 0), ("sp", 1)]

def trimRelease (release : List Nat) : List Nat :=
  match release with
  | [] => []
  | first :: rest => first :: (rest.reverse.dropWhile (· == 0)).reverse

def mavenQualifier (tokens : List (List Char)) : Value :=
  match tokens with
  | [] => .tuple [.int 0, .str "", .int 0, .tuple []]
  | first :: rest =>
    let name := String.ofList first
    let knownRank := qualifiers.lookup name
    let suffixNumber :=
      match rest with
      | second :: _ => if isNumeric second then number second else 0
      | [] => 0
    .tuple [.int (knownRank.getD 2), .str (if knownRank.isSome then "" else name),
      natural suffixNumber, .tuple (rest.tail.map text)]

def maven (value : List Char) : Except Raised Value :=
  if value.any (fun c => !(c.isAlphanum || c == '.' || c == '_' || c == '-')) then
    .error (.valueError "unsupported Maven punctuation")
  else
    let tokens := findTokens (fun _ => false) value
    if tokens.isEmpty || maxVersionParts < tokens.length then
      .error (.valueError "unsupported Maven version")
    else
      let release := trimRelease ((tokens.takeWhile isNumeric).map number)
      let qualifierTokens := (tokens.dropWhile isNumeric).map Text.casefold
      .ok (.tuple [.tuple (release.map natural), mavenQualifier qualifierTokens])

def genericNumeric (value : List Char) : Option Value :=
  let tokens := findTokens (fun _ => false) value
  if tokens.isEmpty || maxVersionParts < tokens.length then
    none
  else
    some (.tuple (tokens.map fun token =>
      if isNumeric token then .tuple [.int 2, natural (number token)]
      else .tuple [.int 1, text (Text.casefold token)]))

section Comparison

variable {V : Type*} [LinearOrder V] (pep440 : List Char → Option V)

def supported (order : Ordering) : VersionComparison :=
  { status := .supported, order := some order, reason := "ordered-comparison" }

def unsupported (reason : String) : VersionComparison := { status := .unsupported, order := none, reason }

def invalid (reason : String) : VersionComparison := { status := .invalid, order := none, reason }

/-- `pep440` parses a version with the packaging library; `none` is its `InvalidVersion`. -/
def compareParsed (ecosystem : String) (left right : List Char) : Except Raised VersionComparison :=
  if ecosystem = "pypi" then
    match pep440 left, pep440 right with
    | some left, some right => .ok (supported (compare left right))
    | _, _ => .ok (unsupported "unsupported-pep440-form")
  else if ecosystem ∈ ["npm", "nuget", "golang"] then do
    match ← semver left, ← semver right with
    | some left, some right => return supported (← compareTuple left right)
    | _, _ => return unsupported "unsupported-semver-form"
  else if ecosystem ∈ ["deb", "alpine"] then do
    return supported (← debianCompare left right)
  else if ecosystem = "rpm" then do
    return supported (← compareTuple (← rpmSegments left) (← rpmSegments right))
  else if ecosystem = "maven" then do
    return supported (← compareTuple (← maven left) (← maven right))
  else if ecosystem ∈ ["generic", "firmware", "operating-system"] then
    match genericNumeric left, genericNumeric right with
    | some left, some right => do return supported (← compareTuple left right)
    | _, _ => .ok (unsupported "unsupported-generic-version")
  else
    .ok (unsupported "unsupported-ecosystem")

def compareVersions (ecosystem : String) (leftValue rightValue : Option String) : VersionComparison :=
  match Text.normalizeVersionText leftValue, Text.normalizeVersionText rightValue with
  | some left, some right =>
    if !safeVersion left || !safeVersion right then
      invalid "version-contains-unsupported-characters"
    else if left = right then
      { status := .supported, order := some .eq, reason := "exact-equality" }
    else
      match compareParsed pep440 ecosystem left right with
      | .ok comparison => comparison
      | .error _ => invalid "invalid-version"
  | _, _ => invalid "version-missing"

end Comparison

inductive RangeStatus where
  | affected
  | notAffected
  | fixed
  | unsupportedComparison
  | versionUnknown
deriving DecidableEq, Repr

/-- A reviewed range as stored; `none` is a boundary that is not set. -/
structure VersionRange where
  introduced : Option String
  introducedUnbounded : Bool := false
  introducedInclusive : Bool := true
  fixed : Option String
  fixedInclusive : Bool := false
  lastAffected : Option String
  lastAffectedInclusive : Bool := true
deriving DecidableEq, Repr

section

variable {V : Type*} [LinearOrder V] (pep440 : List Char → Option V)

/-- One boundary: the comparison's own refusal, or the verdict when the boundary is violated. -/
def checkBoundary (ecosystem : String) (installed : List Char) (boundary : Option String)
    (violated : Ordering → Bool) (verdict : RangeStatus × String)
    (next : RangeStatus × String) : RangeStatus × String :=
  match boundary with
  | none => next
  | some boundary =>
    let comparison := compareVersions pep440 ecosystem (some (String.ofList installed)) (some boundary)
    match comparison.order with
    | none => (.unsupportedComparison, comparison.reason)
    | some order => if violated order then verdict else next

def versionSatisfiesRange (ecosystem : String) (installedVersion : Option String) (range : VersionRange) :
    RangeStatus × String :=
  match Text.normalizeVersionText installedVersion with
  | none => (.versionUnknown, "installed-version-missing")
  | some installed =>
    checkBoundary pep440 ecosystem installed range.introduced
      (fun order => order == .lt || (order == .eq && !range.introducedInclusive))
      (.notAffected, "before-introduced-boundary")
      (checkBoundary pep440 ecosystem installed range.fixed
        (fun order => order == .gt || (order == .eq && !range.fixedInclusive))
        (.fixed, "at-or-after-fixed-boundary")
        (checkBoundary pep440 ecosystem installed range.lastAffected
          (fun order => order == .gt || (order == .eq && !range.lastAffectedInclusive))
          (.notAffected, "after-last-affected-boundary")
          (.affected, "installed-version-in-affected-range")))

end

end OpenAssetWatch.Version
