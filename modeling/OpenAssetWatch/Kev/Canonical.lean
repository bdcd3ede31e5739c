import OpenAssetWatch.Kev.Text
import OpenAssetWatch.Library.JsonMeasure

namespace OpenAssetWatch.Kev

open Library Library.JsonText Text

section Fields

/-- A validated string: trimmed, and of a length within the bounds of its field. -/
structure BoundedText (maximum : Nat) where
  text : List Char
  trimmed : trim text = text
  nonempty : text ≠ []
  bounded : text.length ≤ maximum
deriving DecidableEq

def BoundedText.of? (maximum : Nat) (raw : List Char) : Option (BoundedText maximum) :=
  if valid : trim raw ≠ [] ∧ (trim raw).length ≤ maximum then some ⟨trim raw, trim_trim raw, valid.1, valid.2⟩ else none

theorem BoundedText.of?_self {maximum : Nat} (text : BoundedText maximum) : BoundedText.of? maximum text.text = some text := by
  obtain ⟨text, trimmed, nonempty, bounded⟩ := text
  simp only [of?, trimmed]
  exact dif_pos ⟨nonempty, bounded⟩

/-- A string that `_plain_text` takes with `limit`. -/
structure PlainText (maximum limit : Nat) where
  text : List Char
  trimmed : trim text = text
  bounded : text.length ≤ maximum
  plain : plainText limit text = true
deriving DecidableEq

def PlainText.of? (maximum limit : Nat) (raw : List Char) : Option (PlainText maximum limit) :=
  if valid : (trim raw).length ≤ maximum ∧ plainText limit (trim raw) = true then some ⟨trim raw, trim_trim raw, valid.1, valid.2⟩
  else none

theorem PlainText.of?_self {maximum limit : Nat} (text : PlainText maximum limit) :
    PlainText.of? maximum limit text.text = some text := by
  obtain ⟨text, trimmed, bounded, plain⟩ := text
  simp only [of?, trimmed]
  exact dif_pos ⟨bounded, plain⟩

theorem PlainText.nonempty {maximum limit : Nat} (text : PlainText maximum limit) : text.text ≠ [] := by
  intro empty
  have plain := text.plain
  rw [empty] at plain
  exact absurd plain (by simp [plainText])

structure CveId where
  text : List Char
  shaped : matchesCve text = true
deriving DecidableEq

/-- The bounds of the field hold of every identifier. -/
def CveId.of? (raw : List Char) : Option CveId :=
  if shaped : matchesCve ((stripChars isSpace raw).map Char.toUpper) = true then some ⟨_, shaped⟩ else none

theorem CveId.of?_self (cve : CveId) : CveId.of? cve.text = some cve := by
  have plain := plain_cve cve.shaped
  have same : (stripChars isSpace cve.text).map Char.toUpper = cve.text := by
    rw [stripChars_of_none fun c member => (plain c member).solid, map_toUpper_of_plain plain]
  obtain ⟨text, shaped⟩ := cve
  simp only [of?, same]
  exact dif_pos shaped

structure Cwe where
  text : List Char
  shaped : matchesCwe text = true
deriving DecidableEq

def Cwe.of? (raw : List Char) : Option Cwe :=
  if shaped : matchesCwe ((trim raw).map Char.toUpper) = true then some ⟨_, shaped⟩ else none

theorem Cwe.of?_self (cwe : Cwe) : Cwe.of? cwe.text = some cwe := by
  have plain := plain_cwe cwe.shaped
  have same : (trim cwe.text).map Char.toUpper = cwe.text := by
    rw [trim, stripChars_of_none fun c member => (plain c member).trimmed, map_toUpper_of_plain plain]
  obtain ⟨text, shaped⟩ := cwe
  simp only [of?, same]
  exact dif_pos shaped

end Fields

section Documents

def stringOf : JsonDoc → Option (List Char)
  | .string text => some text
  | _ => none

def entriesOf : JsonDoc → Option (List (List Char × JsonDoc))
  | .object entries => some entries
  | _ => none

def listOf {α : Type} (read : JsonDoc → Option α) : JsonDoc → Option (List α)
  | .array items => items.mapM read
  | _ => none

def nullable {α : Type} (read : JsonDoc → Option α) : JsonDoc → Option (Option α)
  | .null => some none
  | doc => (read doc).map some

def required {α : Type} (entries : List (List Char × JsonDoc)) (key : String) (read : JsonDoc → Option α) : Option α :=
  (entries.lookup key.toList).bind read

def defaulted {α : Type} (entries : List (List Char × JsonDoc)) (key : String) (value : α)
    (read : JsonDoc → Option α) : Option α :=
  (entries.lookup key.toList).elim (some value) read

theorem required_eq {α : Type} {entries : List (List Char × JsonDoc)} {key : String} {read : JsonDoc → Option α} {doc : JsonDoc}
    {value : α} (found : entries.lookup key.toList = some doc) (reads : read doc = some value) :
    required entries key read = some value := by
  rw [required, found]
  exact reads

theorem defaulted_eq {α : Type} {entries : List (List Char × JsonDoc)} {key : String} {default : α} {read : JsonDoc → Option α}
    {doc : JsonDoc} {value : α} (found : entries.lookup key.toList = some doc) (reads : read doc = some value) :
    defaulted entries key default read = some value := by
  rw [defaulted, found]
  exact reads

/-- No extra field. -/
def onlyKeys (keys : List String) (entries : List (List Char × JsonDoc)) : Bool :=
  entries.all fun entry => (keys.map String.toList).contains entry.1

theorem mapM_map {α : Type} {write : α → JsonDoc} {read : JsonDoc → Option α} {values : List α}
    (same : ∀ value ∈ values, read (write value) = some value) : (values.map write).mapM read = some values := by
  induction values with
  | nil => rfl
  | cons value values hypothesis =>
    rw [List.map_cons, List.mapM_cons, same value List.mem_cons_self,
      hypothesis fun other member => same other (List.mem_cons_of_mem _ member)]
    rfl

/-- What the package that validates the models reads as a date, as an instant and as an integer. -/
structure Validators where
  date : JsonDoc → Option Date
  datetime : JsonDoc → Option UtcDateTime
  int : JsonDoc → Option Int

end Documents

section Source

def maxKevText : Nat := 4000

def maxKevNotes : Nat := 8000

def maxKevCwes : Nat := 64

inductive RansomwareCampaignUse where
  | known
  | unknown
deriving DecidableEq, Repr

def RansomwareCampaignUse.read : JsonDoc → Option RansomwareCampaignUse
  | .string text => if text = "Known".toList then some .known else if text = "Unknown".toList then some .unknown else none
  | _ => none

structure CisaKevRecord where
  cveId : CveId
  vendorProject : PlainText 500 maxKevText
  product : PlainText 500 maxKevText
  vulnerabilityName : PlainText 1000 maxKevText
  dateAdded : Date
  shortDescription : PlainText maxKevText maxKevText
  requiredAction : PlainText maxKevText maxKevText
  dueDate : Date
  knownRansomwareCampaignUse : Option RansomwareCampaignUse
  notes : Option (PlainText maxKevNotes maxKevNotes)
  cwes : List Cwe
  cwes_bounded : cwes.length ≤ maxKevCwes
  cwes_distinct : cwes.Nodup
deriving DecidableEq

def cisaRecordKeys : List String :=
  ["cveID", "vendorProject", "product", "vulnerabilityName", "dateAdded", "shortDescription", "requiredAction", "dueDate",
    "knownRansomwareCampaignUse", "notes", "cwes"]

def readText (maximum limit : Nat) (doc : JsonDoc) : Option (PlainText maximum limit) :=
  (stringOf doc).bind (PlainText.of? maximum limit)

def readDate (doc : JsonDoc) : Option Date := (stringOf doc).bind parseDate

def CisaKevRecord.read (doc : JsonDoc) : Option CisaKevRecord := do
  let entries ← entriesOf doc
  guard (onlyKeys cisaRecordKeys entries)
  let cveId ← required entries "cveID" fun doc => (stringOf doc).bind CveId.of?
  let vendorProject ← required entries "vendorProject" (readText 500 maxKevText)
  let product ← required entries "product" (readText 500 maxKevText)
  let vulnerabilityName ← required entries "vulnerabilityName" (readText 1000 maxKevText)
  let dateAdded ← required entries "dateAdded" readDate
  let shortDescription ← required entries "shortDescription" (readText maxKevText maxKevText)
  let requiredAction ← required entries "requiredAction" (readText maxKevText maxKevText)
  let dueDate ← required entries "dueDate" readDate
  let knownRansomwareCampaignUse ← defaulted entries "knownRansomwareCampaignUse" none (nullable RansomwareCampaignUse.read)
  let notes ← defaulted entries "notes" none (nullable (readText maxKevNotes maxKevNotes))
  let cwes ← defaulted entries "cwes" [] (listOf fun doc => (stringOf doc).bind Cwe.of?)
  if valid : cwes.length ≤ maxKevCwes ∧ cwes.Nodup then
    some ⟨cveId, vendorProject, product, vulnerabilityName, dateAdded, shortDescription, requiredAction, dueDate,
      knownRansomwareCampaignUse, notes, cwes, valid.1, valid.2⟩
  else none

def CisaKevRecord.cve (record : CisaKevRecord) : String := String.ofList record.cveId.text

/-- A source catalog; its `count` is the number of its records. -/
structure CisaKevCatalog where
  catalogVersion : BoundedText 120
  dateReleased : UtcDateTime
  vulnerabilities : List CisaKevRecord
  bounded : vulnerabilities.length ≤ maxKevRecords
  distinct : (vulnerabilities.map (·.cve)).Nodup
deriving DecidableEq

variable (validators : Validators)

def CisaKevCatalog.read (doc : JsonDoc) : Option CisaKevCatalog := do
  let entries ← entriesOf doc
  guard (onlyKeys ["catalogVersion", "dateReleased", "count", "vulnerabilities"] entries)
  let catalogVersion ← required entries "catalogVersion" fun doc => (stringOf doc).bind (BoundedText.of? 120)
  let dateReleased ← required entries "dateReleased" fun doc => (stringOf doc).bind parseUtc
  let count ← required entries "count" validators.int
  guard (0 ≤ count ∧ count ≤ maxKevRecords)
  let vulnerabilities ← required entries "vulnerabilities" (listOf CisaKevRecord.read)
  if valid : vulnerabilities.length ≤ maxKevRecords ∧ count = vulnerabilities.length ∧ (vulnerabilities.map (·.cve)).Nodup then
    some ⟨catalogVersion, dateReleased, vulnerabilities, valid.1, valid.2.2⟩
  else none

end Source

section Bytes

def maxCisaKevBytes : Nat := 8 * 2 ^ 20

def maxJsonDepth : Nat := 8

def maxJsonNodes : Nat := 200000

/-- `_validate_json_shape`. -/
def validJsonShape (doc : JsonDoc) : Bool := nodes doc ≤ maxJsonNodes && nesting doc ≤ maxJsonDepth && longest doc ≤ maxKevNotes

/-- What both readers do first; a byte-order mark is the character U+FEFF. -/
def readBytes (maximumBytes : Nat) (data : ByteArray) : Option JsonDoc :=
  if data.size = 0 ∨ maximumBytes < data.size then none
  else (String.fromUTF8? data).bind fun text =>
    if text.toList.head? = some '\ufeff' then none
    else (loads text.toList).bind fun raw => if distinctKeys raw && validJsonShape raw then some raw else none

def parseCisaKevBytes (validators : Validators) (maximumBytes : Nat) (data : ByteArray) : Option CisaKevCatalog :=
  (readBytes maximumBytes data).bind (CisaKevCatalog.read validators)

/-- What `json.dumps` writes without blanks. -/
def dumpBytes (doc : JsonDoc) : ByteArray := encode (print compact 0 doc)

theorem readBytes_dumpBytes {doc : JsonDoc} (numbers : NumbersRead doc) (ascii : asciiNumbers doc = true)
    (distinct : distinctKeys doc = true) (maximumBytes : Nat) :
    readBytes maximumBytes (dumpBytes doc) =
      if width doc ≤ maximumBytes ∧ validJsonShape doc = true then some doc else none := by
  have size : (dumpBytes doc).size = width doc := by
    rw [dumpBytes, size_encode (isAscii_print compact 0 doc ascii), length_print_compact]
  obtain ⟨c, tail, begins, solid, -⟩ := print_head compact numbers 0
  have positive : width doc ≠ 0 := by
    rw [← length_print_compact 0, begins]
    exact Nat.succ_ne_zero _
  have plain := isAscii_print compact 0 doc ascii
  have noMark : (print compact 0 doc).head? ≠ some '\ufeff' := by
    rw [begins, List.head?_cons]
    intro same
    rw [begins, Option.some_inj.mp same] at plain
    exact absurd (List.all_eq_true.mp plain _ List.mem_cons_self) (by decide)
  have reads : loads (print compact 0 doc) = some doc := by
    have trailing := loads_print compact doc numbers (by simp : ∀ c ∈ ([] : List Char), isBlank c = true)
    rw [List.append_nil] at trailing
    exact trailing
  rw [readBytes, size]
  by_cases large : maximumBytes < width doc
  · rw [if_pos (.inr large), if_neg fun both => absurd both.1 (not_le.mpr large)]
  · rw [if_neg (by omega), dumpBytes, fromUTF8?_encode, Option.bind_some, String.toList_ofList, if_neg noMark, reads,
      Option.bind_some, distinct, Bool.true_and]
    by_cases shape : validJsonShape doc = true
    · rw [if_pos shape, if_pos ⟨not_lt.mp large, shape⟩]
    · rw [if_neg shape, if_neg fun both => absurd both.2 shape]

end Bytes

section Validation

def trimString (text : String) : String := String.ofList (trim text.toList)

/-- A trimmed string whose length is within the bounds. -/
def boundedString (minimum maximum : Nat) (raw : String) : Option String :=
  if minimum ≤ (trimString raw).length ∧ (trimString raw).length ≤ maximum then some (trimString raw) else none

def isHex (c : Char) : Bool := isDigit c || ('a' ≤ c && c ≤ 'f')

def matchesRecordId (text : List Char) : Bool :=
  text.take 4 = ['k', 'e', 'v', '_'] && (text.drop 4).length = 64 && (text.drop 4).all isHex

/-- The record that `KevRecord` makes of fields of the right types. -/
def KevRecord.validate (raw : KevRecord) : Option KevRecord := do
  guard (matchesRecordId (trimString raw.kevRecordId).toList)
  let cveId ← (boundedString 13 28 raw.cveId).bind fun text => normalizeCve text.toList
  let vendorProject ← boundedString 1 500 raw.vendorProject
  let product ← boundedString 1 500 raw.product
  let vulnerabilityName ← boundedString 1 1000 raw.vulnerabilityName
  let shortDescription ← boundedString 1 maxKevText raw.shortDescription
  let requiredAction ← boundedString 1 maxKevText raw.requiredAction
  let notes ← raw.notes.elim (some none) fun notes => (boundedString 0 maxKevNotes notes).map some
  guard (raw.cwes.length ≤ maxKevCwes)
  some { raw with
    kevRecordId := trimString raw.kevRecordId
    cveId := String.ofList cveId
    vendorProject := vendorProject
    product := product
    vulnerabilityName := vulnerabilityName
    shortDescription := shortDescription
    requiredAction := requiredAction
    notes := notes
    cwes := raw.cwes.map trimString }

/-- The catalog that `KevCatalog` makes of validated records. -/
def KevCatalog.validate (sourceProvenance catalogVersion : String) (catalogDateReleased : UtcDateTime)
    (records : List KevRecord) :
    Option KevCatalog := do
  let sourceProvenance ← boundedString 1 1000 sourceProvenance
  let catalogVersion ← boundedString 1 120 catalogVersion
  KevCatalog.construct sourceProvenance catalogVersion catalogDateReleased records

end Validation

section Normalization

def cisaKevAttribution : String :=
  "CISA Known Exploited Vulnerabilities catalog; CC0 1.0; official GitHub " ++
  "source is a machine-readable mirror of the canonical CISA catalog; " ++
  "normalized by OpenAssetWatch."

variable (sha256 : ByteArray → List Char)

def RansomwareCampaignUse.status : Option RansomwareCampaignUse → RansomwareCampaignStatus
  | some .known => .known
  | some .unknown => .unknown
  | none => .notSupplied

def CisaKevRecord.fields (item : CisaKevRecord) : KevRecord where
  kevRecordId := String.ofList ("kev_".toList ++ sha256 (encode item.cveId.text))
  cveId := item.cve
  vendorProject := String.ofList item.vendorProject.text
  product := String.ofList item.product.text
  vulnerabilityName := String.ofList item.vulnerabilityName.text
  dateAdded := item.dateAdded
  shortDescription := String.ofList item.shortDescription.text
  requiredAction := String.ofList item.requiredAction.text
  cisaDueDate := item.dueDate
  ransomwareCampaignStatus := RansomwareCampaignUse.status item.knownRansomwareCampaignUse
  notes := item.notes.map fun notes => String.ofList notes.text
  cwes := item.cwes.map fun cwe => String.ofList cwe.text

/-- The source records in the order of their CVEs. -/
def CisaKevCatalog.sorted (source : CisaKevCatalog) : List CisaKevRecord :=
  source.vulnerabilities.mergeSort fun a b => a.cve ≤ b.cve

def normalizeCisaKevCatalog (source : CisaKevCatalog) : Option KevCatalog := do
  let records ← source.sorted.mapM fun item => (item.fields sha256).validate
  KevCatalog.validate cisaKevAttribution (String.ofList source.catalogVersion.text) source.dateReleased records

end Normalization

section Canonical

def RansomwareCampaignStatus.text : RansomwareCampaignStatus → String
  | .known => "Known"
  | .unknown => "Unknown"
  | .notSupplied => "Not supplied"

def RansomwareCampaignStatus.ofText (text : List Char) : Option RansomwareCampaignStatus :=
  [.known, .unknown, .notSupplied].find? fun status : RansomwareCampaignStatus => status.text.toList = text

/-- The fields of a dumped record, in the order of their keys. -/
def KevRecord.dumpEntries (record : KevRecord) : List (List Char × JsonDoc) :=
  [("cisa_due_date".toList, .string record.cisaDueDate.show),
    ("cve_id".toList, .string record.cveId.toList),
    ("cwes".toList, .array (record.cwes.map fun cwe => .string cwe.toList)),
    ("date_added".toList, .string record.dateAdded.show),
    ("kev_record_id".toList, .string record.kevRecordId.toList),
    ("notes".toList, record.notes.elim .null fun notes => .string notes.toList),
    ("product".toList, .string record.product.toList),
    ("ransomware_campaign_status".toList, .string record.ransomwareCampaignStatus.text.toList),
    ("required_action".toList, .string record.requiredAction.toList),
    ("short_description".toList, .string record.shortDescription.toList),
    ("vendor_project".toList, .string record.vendorProject.toList),
    ("vulnerability_name".toList, .string record.vulnerabilityName.toList)]

def KevRecord.dump (record : KevRecord) : JsonDoc := .object record.dumpEntries

def kevSchemaVersion : String := "oaw.kev-catalog.v1"

/-- The constant fields of `KevCatalogSource`. -/
def sourceConstants : List (String × String) :=
  [("canonical_documentation_url", "https://www.cisa.gov/known-exploited-vulnerabilities-catalog"),
    ("license_identifier", "CC0-1.0"),
    ("name", "CISA Known Exploited Vulnerabilities"),
    ("official_mirror_url", "https://raw.githubusercontent.com/cisagov/kev-data/develop/" ++
      "known_exploited_vulnerabilities.json")]

def dumpSourceEntries (sourceProvenance : String) : List (List Char × JsonDoc) :=
  (sourceConstants.map fun (key, value) => (key.toList, JsonDoc.string value.toList)) ++
    [("provenance".toList, .string sourceProvenance.toList), ("source_id".toList, .string "cisa-kev-official".toList)]

def KevCatalog.dumpEntries (catalog : KevCatalog) : List (List Char × JsonDoc) :=
  [("catalog_date_released".toList, .string catalog.catalogDateReleased.show),
    ("catalog_version".toList, .string catalog.catalogVersion.toList),
    ("records".toList, .array (catalog.records.map KevRecord.dump)),
    ("schema_version".toList, .string kevSchemaVersion.toList),
    ("source".toList, .object (dumpSourceEntries catalog.sourceProvenance))]

def KevCatalog.dump (catalog : KevCatalog) : JsonDoc := .object catalog.dumpEntries

def canonicalKevBytes (catalog : KevCatalog) : ByteArray := dumpBytes catalog.dump

variable (validators : Validators)

def textOf (doc : JsonDoc) : Option String := (stringOf doc).map String.ofList

def kevRecordKeys : List String :=
  ["kev_record_id", "cve_id", "vendor_project", "product", "vulnerability_name", "date_added", "short_description",
    "required_action", "cisa_due_date", "ransomware_campaign_status", "notes", "cwes"]

def KevRecord.read (doc : JsonDoc) : Option KevRecord := do
  let entries ← entriesOf doc
  guard (onlyKeys kevRecordKeys entries)
  let kevRecordId ← required entries "kev_record_id" textOf
  let cveId ← required entries "cve_id" textOf
  let vendorProject ← required entries "vendor_project" textOf
  let product ← required entries "product" textOf
  let vulnerabilityName ← required entries "vulnerability_name" textOf
  let dateAdded ← required entries "date_added" validators.date
  let shortDescription ← required entries "short_description" textOf
  let requiredAction ← required entries "required_action" textOf
  let cisaDueDate ← required entries "cisa_due_date" validators.date
  let status ← required entries "ransomware_campaign_status" fun doc => (stringOf doc).bind RansomwareCampaignStatus.ofText
  let notes ← defaulted entries "notes" none (nullable textOf)
  let cwes ← defaulted entries "cwes" [] (listOf textOf)
  KevRecord.validate ⟨kevRecordId, cveId, vendorProject, product, vulnerabilityName, dateAdded, shortDescription, requiredAction,
    cisaDueDate, status, notes, cwes⟩

def readConstant (value : String) (doc : JsonDoc) : Option Unit :=
  (stringOf doc).bind fun text => if text = value.toList then some () else none

/-- The provenance of a source whose other fields are the constants. -/
def readSource (doc : JsonDoc) : Option String := do
  let entries ← entriesOf doc
  guard (onlyKeys (sourceConstants.map (·.1) ++ ["provenance", "source_id"]) entries)
  guard (sourceConstants.all fun (key, value) => (required entries key (readConstant value)).isSome)
  required entries "source_id" (readConstant "cisa-kev-official")
  required entries "provenance" textOf

def KevCatalog.read (doc : JsonDoc) : Option KevCatalog := do
  let entries ← entriesOf doc
  guard (onlyKeys ["schema_version", "source", "catalog_version", "catalog_date_released", "records"] entries)
  required entries "schema_version" (readConstant kevSchemaVersion)
  let sourceProvenance ← required entries "source" readSource
  let catalogVersion ← required entries "catalog_version" textOf
  let catalogDateReleased ← required entries "catalog_date_released" validators.datetime
  let records ← required entries "records" (listOf (KevRecord.read validators))
  KevCatalog.validate sourceProvenance catalogVersion catalogDateReleased records

/-- A catalog and its checksum. -/
def parseKevCatalogBytes (sha256 : ByteArray → List Char) (data : ByteArray) : Option (KevCatalog × List Char) := do
  let raw ← readBytes maxCisaKevBytes data
  let catalog ← KevCatalog.read validators raw
  if canonicalKevBytes catalog = data then some (catalog, sha256 (canonicalKevBytes catalog)) else none

end Canonical

end OpenAssetWatch.Kev
