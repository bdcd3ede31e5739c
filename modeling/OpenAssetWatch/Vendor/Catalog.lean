import OpenAssetWatch.Classification.Evidence
import OpenAssetWatch.Library.JsonDict
import OpenAssetWatch.Text.Words

namespace OpenAssetWatch.Vendor

open Library Library.JsonText Text
open Classification (boundedText isRemovedControl)

section Prefixes

def isSeparator (c : Char) : Bool := c = '-' || c = ':' || c = '.'

def isUpperHex (c : Char) : Bool := isDigit c || ('A' ≤ c && c ≤ 'F')

/-- `str.upper` as far as hexadecimal digits come of it: the ligature is the only character outside ASCII that gives any. -/
def upperChar (c : Char) : List Char := if c = 'ﬀ' then ['F', 'F'] else [c.toUpper]

def compactPrefix (value : List Char) : List Char := ((stripChars isSpace value).filter (!isSeparator ·)).flatMap upperChar

/-- `normalize_prefix`. -/
def normalizePrefix (value : List Char) : Option (List Char) :=
  let compact := compactPrefix value
  if compact.length = 6 ∧ compact.all isUpperHex = true then some compact else none

/-- `normalize_mac_prefix` of a string. -/
def normalizeMacPrefix (value : List Char) : Option (List Char) :=
  let compact := compactPrefix value
  if compact.length = 12 ∧ compact.all isUpperHex = true then some (compact.take 6) else none

end Prefixes

section Catalogs

def maxCatalogBytes : Nat := 2 ^ 20

def maxCatalogEntries : Nat := 4096

def maxVendorNameLength : Nat := 160

def catalogSchemaVersion : List Char := "oaw.vendor-catalog.v1".toList

structure VendorCatalogEntry where
  macPrefix : List Char
  manufacturer : List Char
deriving DecidableEq, Repr

structure VendorCatalog where
  catalogVersion : List Char
  sourceName : List Char
  sourceLicense : List Char
  sourceUrl : Option (List Char)
  checksum : Option (List Char)
  entries : List VendorCatalogEntry
deriving DecidableEq, Repr

/-- `lookup`; no address is no string. -/
def VendorCatalog.lookup (catalog : VendorCatalog) (macAddress : Option (List Char)) : Option (List Char) :=
  (macAddress.bind normalizeMacPrefix).bind fun wanted =>
    (catalog.entries.find? (·.macPrefix = wanted)).map (·.manufacturer)

/-- The contents of a catalog file before they are normalized. -/
structure CatalogContents where
  catalogVersion : List Char
  sourceName : List Char
  sourceLicense : List Char
  sourceUrl : Option JsonDoc
  entries : List VendorCatalogEntry
  checksum : Option (List Char)

end Catalogs

section Payload

/-- `_strict_keys`. -/
def strictKeys (required optional : List (List Char)) (entries : List (List Char × JsonDoc)) : Bool :=
  required.all (fun key => (entries.map (·.1)).contains key) &&
    entries.all fun entry => (required ++ optional).contains entry.1

def stringAt (key : List Char) (entries : List (List Char × JsonDoc)) : Option (List Char) :=
  match entries.lookup key with
  | some (.string text) => some text
  | _ => none

def readEntry : JsonDoc → Option VendorCatalogEntry
  | .object item => do
    guard (strictKeys ["prefix".toList, "manufacturer".toList] [] item)
    return ⟨← stringAt "prefix".toList item, ← stringAt "manufacturer".toList item⟩
  | _ => none

def readChecksum (payload : List (List Char × JsonDoc)) : Option (Option (List Char)) :=
  match payload.lookup "checksum".toList with
  | none | some .null => some none
  | some (.string text) => some (some text)
  | _ => none

def objectAt (key : List Char) (entries : List (List Char × JsonDoc)) : Option (List (List Char × JsonDoc)) :=
  match entries.lookup key with
  | some (.object object) => some object
  | _ => none

def arrayAt (key : List Char) (entries : List (List Char × JsonDoc)) : Option (List JsonDoc) :=
  match entries.lookup key with
  | some (.array items) => some items
  | _ => none

/-- The checks of the types and of the keys; a field that must not be empty is a string. -/
def readFields (payload : List (List Char × JsonDoc)) : Option CatalogContents := do
  guard (strictKeys ["schema_version".toList, "catalog_version".toList, "source".toList, "entries".toList] ["checksum".toList]
    payload)
  let schemaVersion ← stringAt "schema_version".toList payload
  guard (schemaVersion = catalogSchemaVersion)
  let catalogVersion ← stringAt "catalog_version".toList payload
  let source ← objectAt "source".toList payload
  guard (strictKeys ["name".toList, "license".toList] ["url".toList] source)
  let sourceName ← stringAt "name".toList source
  let sourceLicense ← stringAt "license".toList source
  let items ← arrayAt "entries".toList payload
  let entries ← items.mapM readEntry
  let checksum ← readChecksum payload
  return ⟨catalogVersion, sourceName, sourceLicense, source.lookup "url".toList, entries, checksum⟩

def readContents : JsonDoc → Option CatalogContents
  | .object payload => readFields payload
  | _ => none

def entryDoc (entry : VendorCatalogEntry) : JsonDoc :=
  .object [("manufacturer".toList, .string entry.manufacturer), ("prefix".toList, .string entry.macPrefix)]

def CatalogContents.sourceEntries (contents : CatalogContents) : List (List Char × JsonDoc) :=
  ("license".toList, .string contents.sourceLicense) :: ("name".toList, .string contents.sourceName) ::
    contents.sourceUrl.toList.map fun url => ("url".toList, url)

/-- What the checksum is taken of, in the order of the keys. -/
def CatalogContents.material (contents : CatalogContents) : JsonDoc :=
  .object
    [("catalog_version".toList, .string contents.catalogVersion),
      ("entries".toList, .array (contents.entries.map entryDoc)),
      ("schema_version".toList, .string catalogSchemaVersion),
      ("source".toList, .object contents.sourceEntries)]

/-- The fields of a catalog file with these contents, in the order of the keys. -/
def CatalogContents.payloadEntries (contents : CatalogContents) : List (List Char × JsonDoc) :=
  ("catalog_version".toList, .string contents.catalogVersion) ::
    (contents.checksum.toList.map (fun checksum => ("checksum".toList, JsonDoc.string checksum)) ++
      [("entries".toList, .array (contents.entries.map entryDoc)),
        ("schema_version".toList, .string catalogSchemaVersion),
        ("source".toList, .object contents.sourceEntries)])

def CatalogContents.payload (contents : CatalogContents) : JsonDoc := .object contents.payloadEntries

end Payload

section Parsing

def isVersionChar (c : Char) : Bool := c.isAlphanum || c = '.' || c = '_' || c = '-'

/-- `_VERSION_PATTERN`. -/
def matchesVersion : List Char → Bool
  | [] => false
  | c :: rest => c.isAlphanum && rest.all isVersionChar && rest.length ≤ 79

def isLowerHex (c : Char) : Bool := isDigit c || ('a' ≤ c && c ≤ 'f')

/-- `_CHECKSUM_PATTERN`. -/
def matchesChecksum (text : List Char) : Bool :=
  text.take 7 = "sha256:".toList && (text.drop 7).length = 64 && (text.drop 7).all isLowerHex

variable (sha256 : ByteArray → List Char)

/-- `_catalog_checksum`. -/
def catalogChecksum (contents : CatalogContents) : List Char :=
  "sha256:".toList ++ sha256 (encode (print compact 0 contents.material))

def parseEntry (item : VendorCatalogEntry) : Option VendorCatalogEntry := do
  let macPrefix ← normalizePrefix item.macPrefix
  let manufacturer := boundedText maxVendorNameLength item.manufacturer
  guard (manufacturer ≠ [])
  return ⟨macPrefix, manufacturer⟩

/-- `bounded_text(...) or None`. -/
def urlText (url : Option JsonDoc) : Option (List Char) :=
  match url with
  | some (.string text) => if boundedText 512 text = [] then none else some (boundedText 512 text)
  | _ => none

def sortByPrefix (entries : List VendorCatalogEntry) : List VendorCatalogEntry :=
  entries.mergeSort fun a b => a.macPrefix ≤ b.macPrefix

/-- The normalization and the checks of the contents. -/
def CatalogContents.parse (contents : CatalogContents) : Option VendorCatalog := do
  let catalogVersion := boundedText 80 contents.catalogVersion
  guard (matchesVersion catalogVersion)
  let sourceName := boundedText 160 contents.sourceName
  let sourceLicense := boundedText 120 contents.sourceLicense
  guard (sourceName ≠ [] ∧ sourceLicense ≠ [])
  guard (contents.entries.length ≤ maxCatalogEntries)
  let entries ← contents.entries.mapM parseEntry
  guard (entries.map (·.macPrefix)).Nodup
  guard (∀ checksum ∈ contents.checksum, matchesChecksum checksum = true ∧ checksum = catalogChecksum sha256 contents)
  return ⟨catalogVersion, sourceName, sourceLicense, urlText contents.sourceUrl, contents.checksum, sortByPrefix entries⟩

variable (number : List Char → List Char)

/-- The contents of a file; `number` is what is written for a number that was read. -/
def readCatalogBytes (data : ByteArray) : Option CatalogContents := do
  guard (data.size ≤ maxCatalogBytes)
  let text ← String.fromUTF8? data
  let payload ← loads text.toList
  readContents (settle number payload)

def parseCatalogBytes (data : ByteArray) : Option VendorCatalog := do
  let contents ← readCatalogBytes number data
  contents.parse sha256

end Parsing

section Installation

/-- The contents that `replace_catalog` serializes. -/
def VendorCatalog.contents (catalog : VendorCatalog) : CatalogContents where
  catalogVersion := catalog.catalogVersion
  sourceName := catalog.sourceName
  sourceLicense := catalog.sourceLicense
  sourceUrl := catalog.sourceUrl.map .string
  entries := catalog.entries
  checksum := catalog.checksum

/-- The file that `replace_catalog` installs. -/
def installedBytes (catalog : VendorCatalog) : ByteArray := encode (print (indented 2) 0 catalog.contents.payload ++ ['\n'])

end Installation

end OpenAssetWatch.Vendor
