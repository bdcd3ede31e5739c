import OpenAssetWatch.Library.JsonRaw
import OpenAssetWatch.Library.Records
import OpenAssetWatch.Text.Strip

namespace OpenAssetWatch.Provenance

open Library Library.JsonText Text

section Texts

def startsWithDrive : List Char → Bool
  | drive :: ':' :: slash :: _ => drive.isAlpha && (slash = '\\' || slash = '/')
  | _ => false

/-- `_looks_like_absolute_local_path`. -/
def looksLikeAbsoluteLocalPath (value : List Char) : Bool :=
  ['/'].isPrefixOf value || ['\\'].isPrefixOf value || "file://".toList.isPrefixOf value || startsWithDrive value

/-- The control characters that `reject_local_paths_and_controls` knows of. -/
def isControl (c : Char) : Bool := c.toNat < 32

/-- `reject_local_paths_and_controls`, before anything is done to the value. -/
def permitted : JsonDoc → Bool
  | .string value => !looksLikeAbsoluteLocalPath value && !value.any isControl
  | _ => true

/-- The blanks that are stripped from strings; the separators of ASCII are none. -/
def isWhite (c : Char) : Bool := isSpace c && !(28 ≤ c.toNat && c.toNat ≤ 31)

def trim (value : List Char) : List Char := stripChars isWhite value

/-- `SHA256_PATTERN`. -/
def matchesSha256 (value : List Char) : Bool := value.length = 64 && value.all fun c => isDigit c || ('a' ≤ c && c ≤ 'f')

def isIdentifierChar (c : Char) : Bool := c.isAlphanum || c = '.' || c = '_' || c = ':' || c = '-'

/-- `IDENTIFIER_PATTERN`. -/
def matchesIdentifier : List Char → Bool
  | [] => false
  | c :: rest => c.isAlphanum && rest.all isIdentifierChar && rest.length ≤ 159

def mutableRevisions : List (List Char) :=
  ["current".toList, "head".toList, "latest".toList, "main".toList, "master".toList]

/-- What `urlsplit` gives. -/
structure SplitResult where
  scheme : List Char
  hostname : Option (List Char)
  username : Option (List Char)
  password : Option (List Char)
  query : List Char
  fragment : List Char

/-- What is done outside: the values that are no strings, as they are accepted, and URLs. -/
structure Externals where
  int : JsonDoc → Option Int
  bool : JsonDoc → Option Bool
  /-- A finite number that is not negative, as it is written. -/
  float : JsonDoc → Option (List Char)
  /-- A moment with a time zone, in microseconds of UTC. -/
  datetime : JsonDoc → Option Int
  showDatetime : Int → List Char
  urlsplit : List Char → Option SplitResult

end Texts

section Kinds

inductive TextPattern where
  | any
  | sha256
  | identifier
deriving DecidableEq

def TextPattern.holds : TextPattern → List Char → Bool
  | .any, _ => true
  | .sha256, value => matchesSha256 value
  | .identifier, value => matchesIdentifier value

/-- What a validator asks of a text beyond its field. -/
inductive TextRule where
  | free
  | reference
  | immutable
deriving DecidableEq

variable (externals : Externals)

/-- `_validate_reference` of a string. -/
def validReference (value : List Char) : Bool :=
  match externals.urlsplit value with
  | some parsed => parsed.scheme = "https".toList && parsed.hostname.any (· ≠ []) && parsed.username = none &&
      parsed.password = none && parsed.query = [] && parsed.fragment = []
  | none => false

/-- `_require_immutable_revision` of a string. -/
def immutableRevision (value : List Char) : Bool := !mutableRevisions.contains (casefold value)

def TextRule.holds : TextRule → List Char → Bool
  | .free, _ => true
  | .reference, value => validReference externals value
  | .immutable, value => immutableRevision value

structure TextShape where
  nullable : Bool := true
  minimum : Nat := 0
  maximum : Option Nat := none
  pattern : TextPattern := .any
  rule : TextRule := .free

def TextShape.accepts (shape : TextShape) (value : List Char) : Bool :=
  shape.minimum ≤ value.length && shape.maximum.all (value.length ≤ ·)
    && shape.pattern.holds value && shape.rule.holds externals value

/-- The kinds of fields. -/
inductive Kind where
  | text (shape : TextShape)
  | literal (values : List (List Char))
  | natural (nullable : Bool) (minimum : Nat) (maximum : Option Nat)
  | flag
  | measure
  | instant (nullable : Bool)
  | identifiers (maximum : Nat)
  | literals (values : List (List Char)) (minimum maximum : Nat)

def Kind.nullable : Kind → Bool
  | .text shape => shape.nullable
  | .natural nullable _ _ | .instant nullable => nullable
  | .flag | .measure => true
  | .literal _ | .identifiers _ | .literals _ _ _ => false

/-- The value of a field. -/
inductive Scalar where
  | null
  | text (value : List Char)
  | natural (value : Nat)
  | flag (value : Bool)
  | measure (literal : List Char)
  | instant (moment : Int)
  | texts (values : List (List Char))
deriving DecidableEq, Repr

/-- The order of `_sorted_unique`. -/
def FoldedLe (a b : List Char) : Prop := toLex (casefold a, a) ≤ toLex (casefold b, b)

instance : DecidableRel FoldedLe := fun a b => inferInstanceAs (Decidable (toLex (casefold a, a) ≤ toLex (casefold b, b)))

/-- `_bounded_identifiers` and `_sorted_unique` of a list of strings. -/
def boundedIdentifiers (values : List (List Char)) : Option (List (List Char)) :=
  if values.all (fun value => value.length ≤ 128 && matchesIdentifier value) = true ∧ values.Nodup then
    some (values.insertionSort FoldedLe)
  else none

def stringOf : JsonDoc → Option (List Char)
  | .string value => some value
  | _ => none

def itemsOf : JsonDoc → Option (List JsonDoc)
  | .array items => some items
  | _ => none

/-- The value of a field that is not null. -/
def Kind.readValue (doc : JsonDoc) : Kind → Option Scalar
  | .text shape => (stringOf doc).bind fun value =>
      if shape.accepts externals (trim value) = true then some (.text (trim value)) else none
  | .literal values => (stringOf doc).bind fun value => if value ∈ values then some (.text value) else none
  | .natural _ minimum maximum => (externals.int doc).bind fun value =>
      if minimum ≤ value ∧ ∀ most ∈ maximum, value ≤ most then some (.natural value.toNat) else none
  | .flag => (externals.bool doc).map .flag
  | .measure => (externals.float doc).map .measure
  | .instant _ => (externals.datetime doc).map .instant
  | .identifiers maximum => (itemsOf doc).bind fun items => (items.mapM stringOf).bind fun values =>
      if values.length ≤ maximum then (boundedIdentifiers (values.map trim)).map .texts else none
  | .literals values minimum maximum => (itemsOf doc).bind fun items => (items.mapM stringOf).bind fun chosen =>
      if (∀ value ∈ chosen, value ∈ values) ∧ minimum ≤ chosen.length ∧ chosen.length ≤ maximum ∧ chosen.Nodup then
        some (.texts (chosen.insertionSort (· ≤ ·)))
      else none

def isNull : JsonDoc → Bool
  | .null => true
  | _ => false

def Kind.read (kind : Kind) (doc : JsonDoc) : Option Scalar :=
  if isNull doc = true then if kind.nullable = true then some .null else none else kind.readValue externals doc

/-- A field of a model. -/
structure FieldSpec where
  name : String
  kind : Kind
  default : Option Scalar := none

def FieldSpec.field (spec : FieldSpec) : RecordField Scalar where
  name := spec.name.toList
  read doc := if permitted doc = true then spec.kind.read externals doc else none
  default := spec.default

/-- A value as it is written into the JSON dump. -/
def Scalar.dump : Scalar → JsonDoc
  | .null => .null
  | .text value => .string value
  | .natural value => .number (Nat.toDigits 10 value)
  | .flag value => .bool value
  | .measure literal => .number literal
  | .instant moment => .string (externals.showDatetime moment)
  | .texts values => .array (values.map .string)

end Kinds

end OpenAssetWatch.Provenance
