import OpenAssetWatch.Vendor.Normalization

namespace OpenAssetWatch.Vendor

open Library Library.JsonText
open Text hiding boundedText
open Classification (boundedText)

section Reading

theorem readEntry_entryDoc (entry : VendorCatalogEntry) : readEntry (entryDoc entry) = some entry := rfl

theorem mapM_readEntry (entries : List VendorCatalogEntry) : (entries.map entryDoc).mapM readEntry = some entries := by
  induction entries with
  | nil => rfl
  | cons entry entries hypothesis => rw [List.map_cons, List.mapM_cons, readEntry_entryDoc, hypothesis]; rfl

theorem readContents_payload (contents : CatalogContents) : readContents contents.payload = some contents := by
  have keys : strictKeys ["schema_version".toList, "catalog_version".toList, "source".toList, "entries".toList]
      ["checksum".toList] contents.payloadEntries = true := by
    unfold CatalogContents.payloadEntries
    cases contents.checksum <;> rfl
  have schema : stringAt "schema_version".toList contents.payloadEntries = some catalogSchemaVersion := by
    unfold CatalogContents.payloadEntries
    cases contents.checksum <;> rfl
  have version : stringAt "catalog_version".toList contents.payloadEntries = some contents.catalogVersion := rfl
  have source : objectAt "source".toList contents.payloadEntries = some contents.sourceEntries := by
    unfold CatalogContents.payloadEntries
    cases contents.checksum <;> rfl
  have items : arrayAt "entries".toList contents.payloadEntries = some (contents.entries.map entryDoc) := by
    unfold CatalogContents.payloadEntries
    cases contents.checksum <;> rfl
  have checksum : readChecksum contents.payloadEntries = some contents.checksum := by
    unfold CatalogContents.payloadEntries
    cases contents.checksum <;> rfl
  have sourceKeys : strictKeys ["name".toList, "license".toList] ["url".toList] contents.sourceEntries = true := by
    unfold CatalogContents.sourceEntries
    cases contents.sourceUrl <;> rfl
  have name : stringAt "name".toList contents.sourceEntries = some contents.sourceName := rfl
  have license : stringAt "license".toList contents.sourceEntries = some contents.sourceLicense := rfl
  have url : contents.sourceEntries.lookup "url".toList = contents.sourceUrl := by
    unfold CatalogContents.sourceEntries
    cases contents.sourceUrl <;> rfl
  show readFields contents.payloadEntries = some contents
  generalize contents.payloadEntries = payload at *
  generalize contents.sourceEntries = sourceEntries at *
  apply guard_bind_eq_some.mpr ⟨keys, _⟩
  apply Option.bind_eq_some_iff.mpr ⟨_, schema, _⟩
  apply guard_bind_eq_some.mpr ⟨rfl, _⟩
  apply Option.bind_eq_some_iff.mpr ⟨_, version, _⟩
  apply Option.bind_eq_some_iff.mpr ⟨_, source, _⟩
  apply guard_bind_eq_some.mpr ⟨sourceKeys, _⟩
  apply Option.bind_eq_some_iff.mpr ⟨_, name, _⟩
  apply Option.bind_eq_some_iff.mpr ⟨_, license, _⟩
  apply Option.bind_eq_some_iff.mpr ⟨_, items, _⟩
  apply Option.bind_eq_some_iff.mpr ⟨_, mapM_readEntry contents.entries, _⟩
  apply Option.bind_eq_some_iff.mpr ⟨_, checksum, _⟩
  rw [url]
  rfl

variable {number : List Char → List Char}

theorem settle_entryDoc (entry : VendorCatalogEntry) : settle number (entryDoc entry) = entryDoc entry := by
  rw [entryDoc, settle_object, dictOf_sorted]
  · rfl
  · simp only [List.map_cons, List.map_nil, List.pairwise_cons, List.mem_cons, List.not_mem_nil, or_false, forall_eq]
    exact ⟨by decide, by simp⟩

theorem settle_sourceEntries {contents : CatalogContents} (plain : ∀ url ∈ contents.sourceUrl, settle number url = url) :
    settle number (.object contents.sourceEntries) = .object contents.sourceEntries := by
  have same : contents.sourceEntries.map (fun entry => (entry.1, settle number entry.2)) = contents.sourceEntries := by
    unfold CatalogContents.sourceEntries
    cases given : contents.sourceUrl with
    | none => rfl
    | some url =>
      show _ :: _ :: [("url".toList, settle number url)] = _
      rw [plain url given]
      rfl
  rw [settle_object, same, dictOf_sorted]
  unfold CatalogContents.sourceEntries
  apply List.pairwise_map.mp
  cases contents.sourceUrl
  · show ["license".toList, "name".toList].Pairwise (· < ·)
    decide
  · show ["license".toList, "name".toList, "url".toList].Pairwise (· < ·)
    decide

theorem settle_payload {contents : CatalogContents} (plain : ∀ url ∈ contents.sourceUrl, settle number url = url) :
    settle number contents.payload = contents.payload := by
  have entries : settle number (.array (contents.entries.map entryDoc)) = .array (contents.entries.map entryDoc) := by
    rw [settle_array, List.map_map]
    exact congrArg JsonDoc.array (List.map_congr_left fun entry _ => settle_entryDoc entry)
  have same : contents.payloadEntries.map (fun entry => (entry.1, settle number entry.2)) = contents.payloadEntries := by
    unfold CatalogContents.payloadEntries
    rw [List.map_cons, List.map_append, List.map_map, List.map_cons, List.map_cons, List.map_cons, List.map_nil, entries,
      settle_sourceEntries plain]
    rfl
  rw [CatalogContents.payload, settle_object, same, dictOf_sorted]
  unfold CatalogContents.payloadEntries
  apply List.pairwise_map.mp
  cases contents.checksum
  · show ["catalog_version".toList, "entries".toList, "schema_version".toList, "source".toList].Pairwise (· < ·)
    decide
  · show ["catalog_version".toList, "checksum".toList, "entries".toList, "schema_version".toList,
    "source".toList].Pairwise (· < ·)
    decide

theorem numberless_payload {contents : CatalogContents} (plain : ∀ url ∈ contents.sourceUrl, numberless url = true) :
    numberless contents.payload = true := by
  have entries : (contents.entries.map entryDoc).all numberless = true := by
    rw [List.all_map]
    exact List.all_eq_true.mpr fun entry _ => rfl
  have source : numberless (.object contents.sourceEntries) = true := by
    rw [numberless_object]
    unfold CatalogContents.sourceEntries
    cases given : contents.sourceUrl with
    | none => rfl
    | some url =>
      show (true && (true && (numberless url && true))) = true
      rw [plain url given]
      rfl
  rw [CatalogContents.payload, numberless_object]
  unfold CatalogContents.payloadEntries
  cases contents.checksum <;>
    simp [numberless_array, source, List.all_map] <;> exact fun entry _ => rfl

end Reading

section Installed

variable {sha256 : ByteArray → List Char} {number : List Char → List Char}

theorem contents_url (catalog : VendorCatalog) :
    ∀ url ∈ catalog.contents.sourceUrl, settle number url = url ∧ numberless url = true := by
  intro url given
  obtain ⟨text, -, rfl⟩ := Option.mem_map.mp given
  exact ⟨rfl, rfl⟩

theorem readCatalogBytes_print (layout : Layout) {contents : CatalogContents}
    (plain : ∀ url ∈ contents.sourceUrl, settle number url = url ∧ numberless url = true) {trailing : List Char}
    (blank : ∀ c ∈ trailing, isBlank c = true) :
    readCatalogBytes number (encode (print layout 0 contents.payload ++ trailing)) =
      if (encode (print layout 0 contents.payload ++ trailing)).size ≤ maxCatalogBytes then some contents else none := by
  have free : numberless contents.payload = true := numberless_payload fun url given => (plain url given).2
  have reads := loads_print layout _ (numbersRead_of_numberless _ free) blank
  have settled : settle number contents.payload = contents.payload := settle_payload fun url given => (plain url given).1
  rw [readCatalogBytes]
  by_cases small : (encode (print layout 0 contents.payload ++ trailing)).size ≤ maxCatalogBytes
  · rw [if_pos small]
    apply guard_bind_eq_some.mpr ⟨small, _⟩
    apply Option.bind_eq_some_iff.mpr ⟨_, fromUTF8?_encode _, _⟩
    apply Option.bind_eq_some_iff.mpr ⟨_, (by rw [String.toList_ofList]; exact reads), _⟩
    rw [settled]
    exact readContents_payload _
  · rw [if_neg small, guard, if_neg small]
    rfl

theorem readCatalogBytes_installed (catalog : VendorCatalog) :
    readCatalogBytes number (installedBytes catalog) =
      if (installedBytes catalog).size ≤ maxCatalogBytes then some catalog.contents else none :=
  readCatalogBytes_print (indented 2) (contents_url catalog) (by simp [isBlank])

end Installed

section Sizes

theorem length_line (depth : Nat) : ((indented 2).line depth).length = 2 * depth + 1 := by
  show ('\n' :: List.replicate (2 * depth) ' ').length = _
  rw [List.length_cons, List.length_replicate]

theorem length_colon : (indented 2).colon.length = 1 := rfl

theorem escapedLength_of_upperHex {text : List Char} (hex : text.all isUpperHex = true) : escapedLength text = text.length := by
  exact escapedLength_verbatim fun c member => (upperHex_facts (List.all_eq_true.mp hex c member)).2.2.2

theorem length_entryDoc {entry : VendorCatalogEntry} (length : entry.macPrefix.length = 6)
    (hex : entry.macPrefix.all isUpperHex = true) :
    (print (indented 2) 2 (entryDoc entry)).length = 58 + escapedLength entry.manufacturer := by
  have manufacturer : escapedLength "manufacturer".toList = 12 := rfl
  have named : escapedLength "prefix".toList = 6 := rfl
  rw [entryDoc]
  simp only [print, printEntries, List.length_cons, List.length_append, List.length_nil, length_line, length_colon,
    length_printString,
    manufacturer, named, escapedLength_of_upperHex hex, length]
  omega

/-- How much room the entries take in an installed file. -/
def entriesSize (manufacturers : List (List Char)) : Nat :=
  if manufacturers = [] then 2 else 4 + (manufacturers.map fun manufacturer => 64 + escapedLength manufacturer).sum

theorem length_entries {entries : List VendorCatalogEntry}
    (hex : ∀ entry ∈ entries, entry.macPrefix.length = 6 ∧ entry.macPrefix.all isUpperHex = true) :
    (print (indented 2) 1 (.array (entries.map entryDoc))).length = entriesSize (entries.map (·.manufacturer)) := by
  have items : ∀ entries : List VendorCatalogEntry,
      (∀ entry ∈ entries, entry.macPrefix.length = 6 ∧ entry.macPrefix.all isUpperHex = true) →
      (printItems (indented 2) 2 (entries.map entryDoc)).length =
        ((entries.map (·.manufacturer)).map fun manufacturer => 64 + escapedLength manufacturer).sum := by
    intro entries hex
    induction entries with
    | nil => rfl
    | cons entry entries hypothesis =>
      obtain ⟨length, digits⟩ := hex entry List.mem_cons_self
      rw [List.map_cons, List.map_cons, List.map_cons, List.sum_cons, printItems, List.length_cons, List.length_append,
        List.length_append, length_line, length_entryDoc length digits,
        hypothesis fun other member => hex other (List.mem_cons_of_mem _ member)]
      omega
  cases entries with
  | nil => rfl
  | cons entry entries =>
    obtain ⟨length, digits⟩ := hex entry List.mem_cons_self
    have rest := items entries fun other member => hex other (List.mem_cons_of_mem _ member)
    rw [entriesSize, if_neg (by simp), List.map_cons, List.map_cons, List.map_cons, List.sum_cons, ← rest]
    have first := length_entryDoc length digits
    simp only [print, List.length_cons, List.length_append, List.length_nil, length_line, Nat.reduceAdd, first]
    omega

/-- How much room the file takes that is installed for these contents. -/
def CatalogContents.installedSize (contents : CatalogContents) : Nat :=
  141 + escapedLength (boundedText 80 contents.catalogVersion) + (if contents.checksum.isSome then 89 else 0) +
    entriesSize (contents.entries.map fun entry => boundedText maxVendorNameLength entry.manufacturer) +
    escapedLength (boundedText 120 contents.sourceLicense) + escapedLength (boundedText 160 contents.sourceName) +
    (urlText contents.sourceUrl).elim 0 fun url => 15 + escapedLength url

variable {sha256 : ByteArray → List Char} {contents : CatalogContents}

theorem verbatim_of_isLowerHex {c : Char} (hex : isLowerHex c = true) : isVerbatim c = true := by
  have range : 48 ≤ c.toNat ∧ c.toNat ≤ 57 ∨ 97 ≤ c.toNat ∧ c.toNat ≤ 102 := by
    rw [isLowerHex, Bool.or_eq_true, isDigit, Bool.and_eq_true, Bool.and_eq_true] at hex
    simp only [decide_eq_true_eq] at hex
    exact hex
  rw [← Char.ofNat_toNat c]
  generalize c.toNat = n at range
  rcases range with ⟨low, high⟩ | ⟨low, high⟩ <;> interval_cases n <;> rfl

theorem escapedLength_checksum {checksum : List Char} (shaped : matchesChecksum checksum = true) :
    escapedLength checksum = 71 := by
  simp only [matchesChecksum, Bool.and_eq_true, decide_eq_true_eq] at shaped
  obtain ⟨⟨start, length⟩, digits⟩ := shaped
  rw [escapedLength_verbatim]
  · have all := List.take_append_drop 7 checksum
    rw [start] at all
    rw [← all, List.length_append, length]
    rfl
  · intro c member
    rw [← List.take_append_drop 7 checksum, start, List.mem_append] at member
    rcases member with fixed | digit
    · have letters : ∀ c ∈ ['s', 'h', 'a', '2', '5', '6', ':'], isVerbatim c = true := by simp [isVerbatim]
      exact letters c fixed
    · exact verbatim_of_isLowerHex (List.all_eq_true.mp digits c digit)

theorem entriesSize_perm {first second : List (List Char)} (same : first.Perm second) :
    entriesSize first = entriesSize second := by
  have empty : first = [] ↔ second = [] := by
    constructor
    · rintro rfl
      exact same.symm.eq_nil
    · rintro rfl
      exact same.eq_nil
  rw [entriesSize, entriesSize, (same.map fun manufacturer => 64 + escapedLength manufacturer).sum_eq]
  by_cases none : first = []
  · rw [if_pos none, if_pos (empty.mp none)]
  · rw [if_neg none, if_neg (fun other => none (empty.mpr other))]

theorem size_installedBytes (accepted : contents.Accepted sha256) :
    (installedBytes contents.normalize).size = contents.installedSize := by
  have plain : numberless contents.normalize.contents.payload = true :=
    numberless_payload fun url given => (@contents_url id _ url given).2
  have ascii : (print (indented 2) 0 contents.normalize.contents.payload ++ ['\n']).all isAscii = true := by
    rw [List.all_append, isAscii_print _ 0 _ (asciiNumbers_of_numberless _ plain)]
    rfl
  have hex : ∀ entry ∈ contents.normalize.entries, entry.macPrefix.length = 6 ∧ entry.macPrefix.all isUpperHex = true := by
    intro entry member
    obtain ⟨item, listed, rfl⟩ := List.mem_map.mp ((sortByPrefix_perm _).mem_iff.mp member)
    exact (normalizePrefix_eq_some.mp (accepted.prefixes item listed)).2
  have entries : (print (indented 2) 1 (.array (contents.normalize.contents.entries.map entryDoc))).length =
      entriesSize (contents.entries.map fun entry => boundedText maxVendorNameLength entry.manufacturer) := by
    show (print (indented 2) 1 (.array (contents.normalize.entries.map entryDoc))).length = _
    rw [length_entries hex]
    apply entriesSize_perm
    have same := (sortByPrefix_perm (contents.entries.map normalEntry)).map (·.manufacturer)
    rw [List.map_map] at same
    exact same
  have checksum : ∀ checksum ∈ contents.checksum, escapedLength checksum = 71 := fun checksum given =>
    escapedLength_checksum (accepted.checksum checksum given).1
  have source : (print (indented 2) 1 (.object contents.normalize.contents.sourceEntries)).length =
      39 + escapedLength (boundedText 120 contents.sourceLicense) + escapedLength (boundedText 160 contents.sourceName) +
        (urlText contents.sourceUrl).elim 0 fun url => 15 + escapedLength url := by
    have k1 : escapedLength "license".toList = 7 := rfl
    have k2 : escapedLength "name".toList = 4 := rfl
    have k3 : escapedLength "url".toList = 3 := rfl
    unfold CatalogContents.sourceEntries VendorCatalog.contents CatalogContents.normalize
    cases urlText contents.sourceUrl with
    | none =>
      simp only [Option.map_none, Option.toList_none, List.map_nil, print, printEntries, List.length_cons, List.length_append,
        List.length_nil, length_line, length_colon, length_printString, k1, k2, Option.elim_none]
      omega
    | some url =>
      simp only [Option.map_some, Option.toList_some, List.map_cons, List.map_nil, print, printEntries, List.length_cons,
        List.length_append, List.length_nil, length_line, length_colon, length_printString, k1, k2, k3, Option.elim_some]
      omega
  have k1 : escapedLength "catalog_version".toList = 15 := rfl
  have k2 : escapedLength "checksum".toList = 8 := rfl
  have k3 : escapedLength "entries".toList = 7 := rfl
  have k4 : escapedLength "schema_version".toList = 14 := rfl
  have k5 : escapedLength "source".toList = 6 := rfl
  have k6 : escapedLength catalogSchemaVersion = 21 := rfl
  rw [installedBytes, size_encode ascii, List.length_append, CatalogContents.payload, CatalogContents.installedSize]
  have version : contents.normalize.contents.catalogVersion = boundedText 80 contents.catalogVersion := rfl
  have same : contents.normalize.contents.checksum = contents.checksum := rfl
  unfold CatalogContents.payloadEntries
  rw [version, same]
  cases given : contents.checksum with
  | none =>
    simp only [Option.toList_none, List.map_nil, List.nil_append, print, printEntries, List.length_cons, List.length_append,
      List.length_nil, length_line, length_colon, length_printString, Nat.reduceAdd, entries, source, k1, k3, k4, k5, k6,
      Option.isSome_none, Bool.false_eq_true, if_false]
    omega
  | some text =>
    have long := checksum text given
    simp only [Option.toList_some, List.map_cons, List.map_nil, List.cons_append, List.nil_append, print, printEntries,
      List.length_cons, List.length_append, List.length_nil, length_line, length_colon, length_printString,
        Nat.reduceAdd, entries,
      source, long, k1, k2, k3, k4, k5, k6, Option.isSome_some, if_true]
    omega

end Sizes

/-- The installed file is accepted, and gives the version, the source, the entries and the answers of the source catalog. -/
def RoundTrips (sha256 : ByteArray → List Char) (number : List Char → List Char) (catalog : VendorCatalog) : Prop :=
  ∃ installed, parseCatalogBytes sha256 number (installedBytes catalog) = some installed ∧
    installed.catalogVersion = catalog.catalogVersion ∧ installed.sourceName = catalog.sourceName ∧
    installed.sourceLicense = catalog.sourceLicense ∧ installed.sourceUrl = catalog.sourceUrl ∧
    installed.entries = catalog.entries ∧ ∀ macAddress, installed.lookup macAddress = catalog.lookup macAddress

/-- No text is cut right behind a blank. -/
structure CatalogContents.CutClean (contents : CatalogContents) : Prop where
  sourceName : (boundedText 160 contents.sourceName).getLast? ≠ some ' '
  sourceLicense : (boundedText 120 contents.sourceLicense).getLast? ≠ some ' '
  sourceUrl : ∀ text, contents.sourceUrl = some (.string text) → (boundedText 512 text).getLast? ≠ some ' '
  manufacturers : ∀ item ∈ contents.entries, (boundedText maxVendorNameLength item.manufacturer).getLast? ≠ some ' '

/-- The contents are normalized already: every text and prefix as it is kept, the entries in order, no empty URL. -/
structure CatalogContents.Settled (contents : CatalogContents) : Prop where
  catalogVersion : boundedText 80 contents.catalogVersion = contents.catalogVersion
  sourceName : boundedText 160 contents.sourceName = contents.sourceName
  sourceLicense : boundedText 120 contents.sourceLicense = contents.sourceLicense
  sourceUrl : contents.sourceUrl = none ∨
    ∃ text, contents.sourceUrl = some (.string text) ∧ text ≠ [] ∧ boundedText 512 text = text
  prefixes : ∀ item ∈ contents.entries, normalizePrefix item.macPrefix = some item.macPrefix
  manufacturers : ∀ item ∈ contents.entries, boundedText maxVendorNameLength item.manufacturer = item.manufacturer
  ordered : contents.entries.Pairwise fun a b => a.macPrefix < b.macPrefix

section Again

variable {sha256 : ByteArray → List Char} {number : List Char → List Char} {contents : CatalogContents}

theorem version_again (accepted : contents.Accepted sha256) :
    boundedText 80 (boundedText 80 contents.catalogVersion) = boundedText 80 contents.catalogVersion := by
  rw [boundedText_boundedText]
  intro last
  have shaped := accepted.catalogVersion
  cases version : boundedText 80 contents.catalogVersion with
  | nil =>
    rw [version] at last
    cases last
  | cons c rest =>
    rw [version] at shaped last
    simp only [matchesVersion, Bool.and_eq_true, List.all_eq_true] at shaped
    rcases List.mem_cons.mp (List.mem_of_getLast? last) with rfl | member
    · exact absurd shaped.1.1 (by decide)
    · exact absurd (shaped.1.2 ' ' member) (by decide)

theorem url_again (clean : ∀ text, contents.sourceUrl = some (.string text) → (boundedText 512 text).getLast? ≠ some ' ') :
    urlText ((urlText contents.sourceUrl).map .string) = urlText contents.sourceUrl := by
  cases given : contents.sourceUrl with
  | none => rfl
  | some url =>
    cases url with
    | string text =>
      have kept := (boundedText_boundedText 512 text).mpr (clean text given)
      rw [urlText]
      by_cases empty : boundedText 512 text = []
      · rw [if_pos empty]
        rfl
      · rw [if_neg empty, Option.map_some, urlText]
        rw [kept, if_neg empty]
    | _ => rfl

theorem clean_of_url_again (again : urlText ((urlText contents.sourceUrl).map .string) = urlText contents.sourceUrl)
    {text : List Char}
    (given : contents.sourceUrl = some (.string text)) : (boundedText 512 text).getLast? ≠ some ' ' := by
  rw [given, urlText] at again
  by_cases empty : boundedText 512 text = []
  · rw [empty]
    exact fun last => by cases last
  · rw [if_neg empty, Option.map_some, urlText] at again
    split at again
    · cases again
    · exact (boundedText_boundedText 512 text).mp (Option.some_inj.mp again)

theorem mem_normalize {entry : VendorCatalogEntry} :
    entry ∈ contents.normalize.entries ↔ ∃ item ∈ contents.entries, normalEntry item = entry := by
  rw [CatalogContents.normalize, (sortByPrefix_perm _).mem_iff, List.mem_map]

theorem nodup_normalize (accepted : contents.Accepted sha256) : (contents.normalize.entries.map (·.macPrefix)).Nodup :=
  ((sortByPrefix_perm _).map (·.macPrefix)).nodup_iff.mpr accepted.distinct

theorem prefix_again (accepted : contents.Accepted sha256) {item : VendorCatalogEntry} (member : item ∈ contents.entries) :
    compactPrefix (normalEntry item).macPrefix = (normalEntry item).macPrefix :=
  (normalizePrefix_eq_some.mp (normalizePrefix_self (accepted.prefixes item member))).1

theorem entries_again (accepted : contents.Accepted sha256)
    (clean : ∀ item ∈ contents.entries, (boundedText maxVendorNameLength item.manufacturer).getLast? ≠ some ' ') :
    contents.normalize.entries.map normalEntry = contents.normalize.entries := by
  conv_rhs => rw [← List.map_id contents.normalize.entries]
  apply List.map_congr_left
  intro entry member
  obtain ⟨item, listed, rfl⟩ := mem_normalize.mp member
  have text := (boundedText_boundedText maxVendorNameLength item.manufacturer).mpr (clean item listed)
  show (⟨compactPrefix (normalEntry item).macPrefix, _⟩ : VendorCatalogEntry) = normalEntry item
  rw [prefix_again accepted listed]
  exact congrArg (VendorCatalogEntry.mk _) text

theorem clean_of_entries_again (accepted : contents.Accepted sha256)
    (again : sortByPrefix (contents.normalize.entries.map normalEntry) = contents.normalize.entries) {item : VendorCatalogEntry}
    (member : item ∈ contents.entries) : (boundedText maxVendorNameLength item.manufacturer).getLast? ≠ some ' ' := by
  have listed : normalEntry item ∈ contents.normalize.entries := mem_normalize.mpr ⟨item, member, rfl⟩
  have kept : normalEntry (normalEntry item) ∈ contents.normalize.entries := by
    rw [← again]
    exact (sortByPrefix_perm _).mem_iff.mpr (List.mem_map_of_mem listed)
  have same := List.inj_on_of_nodup_map (nodup_normalize accepted) kept listed (prefix_again accepted member)
  exact (boundedText_boundedText _ _).mp (congrArg VendorCatalogEntry.manufacturer same)

end Again

end OpenAssetWatch.Vendor
