import OpenAssetWatch.Library.Guard
import OpenAssetWatch.Text.Normalize
import OpenAssetWatch.Vendor.Catalog

namespace OpenAssetWatch.Vendor

open Library Library.JsonText
open Text hiding boundedText
open Classification (boundedText isRemovedControl)

section Texts

theorem kept_boundedText (limit : Nat) (value : List Char) : ∀ c ∈ boundedText limit value, isRemovedControl c = false := by
  intro c member
  have inside := List.mem_of_mem_take member
  rcases mem_joinWords inside with rfl | ⟨part, listed, here⟩
  · decide
  · have inText := (mem_of_mem_splitOnP _ part (List.mem_filter.mp listed).1 c here).1
    have kept := (List.mem_filter.mp inText).2
    rwa [Bool.not_eq_true'] at kept

theorem boundedText_boundedText (limit : Nat) (value : List Char) :
    boundedText limit (boundedText limit value) = boundedText limit value ↔ (boundedText limit value).getLast? ≠ some ' ' := by
  have short : (boundedText limit value).length ≤ limit := List.length_take_le _ _
  have clean : (boundedText limit value).filter (!isRemovedControl ·) = boundedText limit value :=
    List.filter_eq_self.mpr fun c member => by rw [kept_boundedText limit value c member]; rfl
  have again := joinWords_words_take (value.filter (!isRemovedControl ·)) limit
  have uncut : boundedText limit (boundedText limit value) = joinWords (words (boundedText limit value)) := by
    conv_lhs => rw [boundedText, clean]
    exact List.take_of_length_le ((joinWords_words_length _).trans short)
  rw [uncut]
  exact again

end Texts

section Prefixes

theorem upperHex_facts {c : Char} (hex : isUpperHex c = true) : isSpace c = false ∧ isSeparator c = false ∧ upperChar c = [c] ∧
    isVerbatim c = true := by
  have all : ∀ c ∈ ['0', '1', '2', '3', '4', '5', '6', '7', '8', '9', 'A', 'B', 'C', 'D', 'E', 'F'],
      isSpace c = false ∧ isSeparator c = false ∧ upperChar c = [c] ∧ isVerbatim c = true := by
    simp [isSpace, isSeparator, upperChar, isVerbatim]
  apply all
  have range : 48 ≤ c.toNat ∧ c.toNat ≤ 57 ∨ 65 ≤ c.toNat ∧ c.toNat ≤ 70 := by
    rw [isUpperHex, Bool.or_eq_true, isDigit, Bool.and_eq_true, Bool.and_eq_true] at hex
    simp only [decide_eq_true_eq] at hex
    exact hex
  rw [← Char.ofNat_toNat c]
  generalize c.toNat = n at range
  rcases range with ⟨low, high⟩ | ⟨low, high⟩ <;> interval_cases n <;> decide

theorem compactPrefix_of_upperHex {text : List Char} (hex : text.all isUpperHex = true) : compactPrefix text = text := by
  have each : ∀ c ∈ text, isUpperHex c = true := List.all_eq_true.mp hex
  rw [compactPrefix, stripChars_none fun c member => (upperHex_facts (each c member)).1,
    List.filter_eq_self.mpr fun c member => by rw [(upperHex_facts (each c member)).2.1]; rfl]
  clear hex
  induction text with
  | nil => rfl
  | cons c text hypothesis =>
    rw [List.flatMap_cons, (upperHex_facts (each c List.mem_cons_self)).2.2.1, hypothesis fun d member =>
      each d (List.mem_cons_of_mem _ member)]
    rfl

theorem normalizePrefix_eq_some {value compact : List Char} :
    normalizePrefix value = some compact ↔
      compactPrefix value = compact ∧ compact.length = 6 ∧ compact.all isUpperHex = true := by
  rw [normalizePrefix]
  constructor
  · intro given
    split at given
    · rename_i shape
      cases given
      exact ⟨rfl, shape⟩
    · cases given
  · rintro ⟨rfl, shape⟩
    exact if_pos shape

theorem normalizePrefix_self {value compact : List Char} (given : normalizePrefix value = some compact) :
    normalizePrefix compact = some compact := by
  obtain ⟨-, length, hex⟩ := normalizePrefix_eq_some.mp given
  exact normalizePrefix_eq_some.mpr ⟨compactPrefix_of_upperHex hex, length, hex⟩

end Prefixes

section Parsing

variable {sha256 : ByteArray → List Char} {contents : CatalogContents}

def normalEntry (item : VendorCatalogEntry) : VendorCatalogEntry :=
  ⟨compactPrefix item.macPrefix, boundedText maxVendorNameLength item.manufacturer⟩

/-- The catalog that contents are normalized to. -/
def CatalogContents.normalize (contents : CatalogContents) : VendorCatalog where
  catalogVersion := boundedText 80 contents.catalogVersion
  sourceName := boundedText 160 contents.sourceName
  sourceLicense := boundedText 120 contents.sourceLicense
  sourceUrl := urlText contents.sourceUrl
  checksum := contents.checksum
  entries := sortByPrefix (contents.entries.map normalEntry)

/-- What is asked of the contents of a catalog. -/
structure CatalogContents.Accepted (sha256 : ByteArray → List Char) (contents : CatalogContents) : Prop where
  catalogVersion : matchesVersion (boundedText 80 contents.catalogVersion) = true
  sourceName : boundedText 160 contents.sourceName ≠ []
  sourceLicense : boundedText 120 contents.sourceLicense ≠ []
  bounded : contents.entries.length ≤ maxCatalogEntries
  prefixes : ∀ item ∈ contents.entries, normalizePrefix item.macPrefix = some (normalEntry item).macPrefix
  manufacturers : ∀ item ∈ contents.entries, (normalEntry item).manufacturer ≠ []
  distinct : ((contents.entries.map normalEntry).map (·.macPrefix)).Nodup
  checksum : ∀ checksum ∈ contents.checksum, matchesChecksum checksum = true ∧ checksum = catalogChecksum sha256 contents

theorem parseEntry_eq_some {item parsed : VendorCatalogEntry} :
    parseEntry item = some parsed ↔
      normalizePrefix item.macPrefix = some (normalEntry item).macPrefix ∧ (normalEntry item).manufacturer ≠ [] ∧
        parsed = normalEntry item := by
  rw [parseEntry, Option.bind_eq_bind, Option.bind_eq_some_iff]
  constructor
  · rintro ⟨compact, given, rest⟩
    obtain ⟨named, same⟩ := guard_bind_eq_some.mp rest
    have prefixes := (normalizePrefix_eq_some.mp given).1
    cases same
    rw [normalEntry, prefixes]
    exact ⟨given, named, rfl⟩
  · rintro ⟨given, named, rfl⟩
    exact ⟨_, given, guard_bind_eq_some.mpr ⟨named, rfl⟩⟩

theorem mapM_parseEntry {items parsed : List VendorCatalogEntry} :
    items.mapM parseEntry = some parsed ↔
      (∀ item ∈ items, normalizePrefix item.macPrefix = some (normalEntry item).macPrefix ∧
        (normalEntry item).manufacturer ≠ []) ∧
        parsed = items.map normalEntry := by
  induction items generalizing parsed with
  | nil =>
    rw [List.mapM_nil]
    constructor
    · intro same
      cases same
      exact ⟨by simp, rfl⟩
    · rintro ⟨-, rfl⟩
      rfl
  | cons item items hypothesis =>
    rw [List.mapM_cons, Option.bind_eq_bind, Option.bind_eq_some_iff, List.forall_mem_cons, List.map_cons]
    constructor
    · rintro ⟨first, given, rest⟩
      obtain ⟨others, all, same⟩ := Option.bind_eq_some_iff.mp rest
      cases same
      obtain ⟨compact, named, rfl⟩ := parseEntry_eq_some.mp given
      obtain ⟨each, rfl⟩ := hypothesis.mp all
      exact ⟨⟨⟨compact, named⟩, each⟩, rfl⟩
    · rintro ⟨⟨⟨compact, named⟩, each⟩, rfl⟩
      exact ⟨_, parseEntry_eq_some.mpr ⟨compact, named, rfl⟩, Option.bind_eq_some_iff.mpr ⟨_, hypothesis.mpr ⟨each, rfl⟩, rfl⟩⟩

theorem parse_eq_some {catalog : VendorCatalog} :
    contents.parse sha256 = some catalog ↔ contents.Accepted sha256 ∧ catalog = contents.normalize := by
  rw [CatalogContents.parse]
  constructor
  · intro given
    obtain ⟨version, given⟩ := guard_bind_eq_some.mp given
    obtain ⟨⟨name, license⟩, given⟩ := guard_bind_eq_some.mp given
    obtain ⟨bounded, given⟩ := guard_bind_eq_some.mp given
    obtain ⟨parsed, all, given⟩ := Option.bind_eq_some_iff.mp given
    obtain ⟨distinct, given⟩ := guard_bind_eq_some.mp given
    obtain ⟨checksum, given⟩ := guard_bind_eq_some.mp given
    obtain ⟨each, rfl⟩ := mapM_parseEntry.mp all
    cases given
    exact ⟨⟨version, name, license, bounded, fun item member => (each item member).1, fun item member => (each item member).2,
      distinct, checksum⟩, rfl⟩
  · rintro ⟨accepted, rfl⟩
    apply guard_bind_eq_some.mpr ⟨accepted.catalogVersion, _⟩
    apply guard_bind_eq_some.mpr ⟨⟨accepted.sourceName, accepted.sourceLicense⟩, _⟩
    apply guard_bind_eq_some.mpr ⟨accepted.bounded, _⟩
    apply Option.bind_eq_some_iff.mpr ⟨_, mapM_parseEntry.mpr
      ⟨fun item member => ⟨accepted.prefixes item member, accepted.manufacturers item member⟩, rfl⟩, _⟩
    apply guard_bind_eq_some.mpr ⟨accepted.distinct, _⟩
    exact guard_bind_eq_some.mpr ⟨accepted.checksum, rfl⟩

end Parsing

section Sorting

theorem sortByPrefix_perm (entries : List VendorCatalogEntry) : (sortByPrefix entries).Perm entries := List.mergeSort_perm _ _

theorem pairwise_sortByPrefix (entries : List VendorCatalogEntry) :
    (sortByPrefix entries).Pairwise fun a b => a.macPrefix ≤ b.macPrefix := by
  have sorted : (sortByPrefix entries).Pairwise fun a b => decide (a.macPrefix ≤ b.macPrefix) = true := by
    apply List.pairwise_mergeSort
    · intro a b c first second
      exact decide_eq_true ((of_decide_eq_true first).trans (of_decide_eq_true second))
    · intro a b
      simpa using le_total a.macPrefix b.macPrefix
  exact sorted.imp fun less => of_decide_eq_true less

theorem sortByPrefix_sorted {entries : List VendorCatalogEntry} (sorted : entries.Pairwise fun a b => a.macPrefix ≤ b.macPrefix) :
    sortByPrefix entries = entries :=
  List.mergeSort_of_pairwise (sorted.imp fun less => decide_eq_true less)

theorem sortByPrefix_strict {entries : List VendorCatalogEntry} (distinct : (entries.map (·.macPrefix)).Nodup) :
    (sortByPrefix entries).Pairwise fun a b => a.macPrefix < b.macPrefix := by
  have apart : (sortByPrefix entries).Pairwise fun a b => a.macPrefix ≠ b.macPrefix := by
    apply List.pairwise_map.mp
    exact (((sortByPrefix_perm entries).map (·.macPrefix)).nodup_iff.mpr distinct)
  exact ((pairwise_sortByPrefix entries).and apart).imp fun both => lt_of_le_of_ne both.1 both.2

end Sorting

end OpenAssetWatch.Vendor
