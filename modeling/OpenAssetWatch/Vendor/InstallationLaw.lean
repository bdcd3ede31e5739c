import OpenAssetWatch.Vendor.Installation

namespace OpenAssetWatch.Vendor

open Library Library.JsonText
open Text hiding boundedText
open Classification (boundedText)

section Material

/-- What the checksum material ends with behind the name of the source. -/
def materialEnd (contents : CatalogContents) : List Char :=
  contents.sourceUrl.elim ['}', '}'] fun url => ",\"url\":".toList ++ (print compact 2 url ++ ['}', '}'])

theorem print_material (contents : CatalogContents) :
    print compact 0 contents.material =
      "\x7b\"catalog_version\":".toList ++ (printString contents.catalogVersion ++ (",\"entries\":".toList ++
        (print compact 1 (.array (contents.entries.map entryDoc)) ++ (",\"schema_version\":".toList ++
          (printString catalogSchemaVersion ++ (",\"source\":\x7b\"license\":".toList ++ (printString contents.sourceLicense ++
            (",\"name\":".toList ++ (printString contents.sourceName ++ materialEnd contents))))))))) := by
  unfold CatalogContents.material CatalogContents.sourceEntries materialEnd
  generalize entries : JsonDoc.array (contents.entries.map entryDoc) = entries
  cases contents.sourceUrl with
  | none => simp [print, printEntries, compact, printString, escape]
  | some url => simp [print, printEntries, compact, printString, escape]

theorem numbersRead_entries (entries : List VendorCatalogEntry) : NumbersRead (.array (entries.map entryDoc)) := by
  apply numbersRead_of_numberless
  rw [numberless_array, List.all_map]
  exact List.all_eq_true.mpr fun entry _ => rfl

theorem entryDoc_injective {first second : VendorCatalogEntry} (same : entryDoc first = entryDoc second) : first = second := by
  have read := readEntry_entryDoc first
  rw [same, readEntry_entryDoc] at read
  exact (Option.some_inj.mp read).symm

theorem material_inj {first second : CatalogContents} (same : print compact 0 first.material = print compact 0 second.material) :
    first.catalogVersion = second.catalogVersion ∧ first.entries = second.entries ∧ first.sourceLicense = second.sourceLicense ∧
      first.sourceName = second.sourceName ∧ materialEnd first = materialEnd second := by
  rw [print_material, print_material] at same
  have start := List.append_cancel_left same
  obtain ⟨version, start⟩ := printString_append_inj start
  have comma : ∀ rest : List Char, Delimited (",\"schema_version\":".toList ++ rest) := by
    intro rest c head
    exact .inr (.inl (Option.some_inj.mp head.symm))
  obtain ⟨entries, start⟩ := print_append_inj compact 1 (numbersRead_entries _) (numbersRead_entries _) (comma _) (comma _)
    (List.append_cancel_left start)
  have items := List.map_injective_iff.mpr (fun _ _ => entryDoc_injective) (JsonDoc.array.inj entries)
  have start := List.append_cancel_left (List.append_cancel_left (List.append_cancel_left start))
  obtain ⟨license, start⟩ := printString_append_inj start
  obtain ⟨name, ends⟩ := printString_append_inj (List.append_cancel_left start)
  exact ⟨version, items, license, name, ends⟩

theorem materialEnd_inj {contents : CatalogContents} {url : Option (List Char)}
    (same : materialEnd contents = materialEnd ⟨[], [], [], url.map .string, [], none⟩)
    (read : urlText contents.sourceUrl = url) : contents.sourceUrl = url.map .string := by
  unfold materialEnd at same
  cases given : contents.sourceUrl with
  | none =>
    rw [given] at read
    rw [← read]
    rfl
  | some doc =>
    rw [given] at same read
    cases url with
    | none =>
      cases same
    | some text =>
      cases doc with
      | string kept =>
        have inside := List.append_cancel_left same
        rw [(printString_append_inj inside).1]
        rfl
      | _ => cases read

end Material

section Settled

variable {sha256 : ByteArray → List Char} {contents : CatalogContents}

theorem settled_iff (accepted : contents.Accepted sha256) : contents.Settled ↔ contents.normalize.contents = contents := by
  constructor
  · intro settled
    have entries : contents.entries.map normalEntry = contents.entries := by
      conv_rhs => rw [← List.map_id contents.entries]
      apply List.map_congr_left
      intro item member
      have compact := (normalizePrefix_eq_some.mp (settled.prefixes item member)).1
      show (⟨compactPrefix item.macPrefix, boundedText maxVendorNameLength item.manufacturer⟩ : VendorCatalogEntry) = item
      rw [compact, settled.manufacturers item member]
    have ordered : sortByPrefix contents.entries = contents.entries := sortByPrefix_sorted (settled.ordered.imp le_of_lt)
    have url : (urlText contents.sourceUrl).map .string = contents.sourceUrl := by
      rcases settled.sourceUrl with none | ⟨text, given, filled, kept⟩
      · rw [none]
        rfl
      · rw [given, urlText, kept, if_neg filled]
        rfl
    show (⟨_, _, _, (urlText contents.sourceUrl).map .string, sortByPrefix (contents.entries.map normalEntry), _⟩ :
      CatalogContents) = contents
    rw [entries, ordered, url]
    show (⟨boundedText 80 contents.catalogVersion, boundedText 160 contents.sourceName, boundedText 120 contents.sourceLicense, _, _,
      _⟩ : CatalogContents) = contents
    rw [settled.catalogVersion, settled.sourceName, settled.sourceLicense]
    rfl
  · intro same
    have version := congrArg CatalogContents.catalogVersion same
    have name := congrArg CatalogContents.sourceName same
    have license := congrArg CatalogContents.sourceLicense same
    have url : (urlText contents.sourceUrl).map .string = contents.sourceUrl := congrArg CatalogContents.sourceUrl same
    have entries : contents.normalize.entries = contents.entries := congrArg CatalogContents.entries same
    have compact : ∀ item ∈ contents.entries, normalizePrefix item.macPrefix = some item.macPrefix := by
      intro item member
      rw [← entries] at member
      obtain ⟨source, listed, rfl⟩ := mem_normalize.mp member
      exact normalizePrefix_self (accepted.prefixes source listed)
    have kept : ∀ item ∈ contents.entries, normalEntry item = item := by
      intro item member
      have listed : normalEntry item ∈ contents.entries := by
        rw [← entries]
        exact mem_normalize.mpr ⟨item, member, rfl⟩
      have distinct := nodup_normalize accepted
      rw [entries] at distinct
      exact List.inj_on_of_nodup_map distinct listed member (normalizePrefix_eq_some.mp (compact item member)).1
    have ordered : contents.entries.Pairwise fun a b => a.macPrefix < b.macPrefix := by
      rw [← entries]
      exact sortByPrefix_strict accepted.distinct
    have shaped : contents.sourceUrl = none ∨
        ∃ text, contents.sourceUrl = some (.string text) ∧ text ≠ [] ∧ boundedText 512 text = text := by
      cases given : urlText contents.sourceUrl with
      | none =>
        rw [given] at url
        exact .inl url.symm
      | some text =>
        rw [given] at url
        rw [← url] at given
        have given : (if boundedText 512 text = [] then none else some (boundedText 512 text)) = some text := given
        by_cases empty : boundedText 512 text = []
        · rw [if_pos empty] at given
          cases given
        · rw [if_neg empty, Option.some_inj] at given
          rw [given] at empty
          exact .inr ⟨text, url.symm, empty, given⟩
    exact ⟨version, name, license, shaped, compact, fun item member => congrArg VendorCatalogEntry.manufacturer
      (kept item member),
      ordered⟩

theorem settled_iff_material (accepted : contents.Accepted sha256) :
    contents.Settled ↔ print compact 0 contents.material = print compact 0 contents.normalize.contents.material := by
  rw [settled_iff accepted]
  constructor
  · intro same
    rw [same]
  · intro same
    obtain ⟨version, entries, license, name, ends⟩ := material_inj same
    have url : contents.sourceUrl = (urlText contents.sourceUrl).map .string := materialEnd_inj ends rfl
    show (⟨contents.normalize.contents.catalogVersion, contents.normalize.contents.sourceName,
      contents.normalize.contents.sourceLicense, (urlText contents.sourceUrl).map .string, contents.normalize.contents.entries,
      contents.checksum⟩ : CatalogContents) = contents
    rw [← version, ← name, ← license, ← entries, ← url]

end Settled

section Law

variable {sha256 : ByteArray → List Char} {contents : CatalogContents}

theorem accepted_again (accepted : contents.Accepted sha256) (clean : contents.CutClean)
    (checksum : contents.checksum = none ∨ contents.Settled) : contents.normalize.contents.Accepted sha256 := by
  have entries := entries_again accepted clean.manufacturers
  have each : ∀ entry ∈ contents.normalize.entries, normalEntry entry = entry := by
    intro entry member
    apply List.map_inj_left.mp (entries.trans (List.map_id _).symm) entry member
  have source : ∀ entry ∈ contents.normalize.entries, normalizePrefix entry.macPrefix = some entry.macPrefix ∧
      entry.manufacturer ≠ [] := by
    intro entry member
    obtain ⟨item, listed, rfl⟩ := mem_normalize.mp member
    exact ⟨normalizePrefix_self (accepted.prefixes item listed), accepted.manufacturers item listed⟩
  apply CatalogContents.Accepted.mk
  · show matchesVersion (boundedText 80 (boundedText 80 contents.catalogVersion)) = true
    rw [version_again accepted]
    exact accepted.catalogVersion
  · show boundedText 160 (boundedText 160 contents.sourceName) ≠ []
    rw [(boundedText_boundedText 160 _).mpr clean.sourceName]
    exact accepted.sourceName
  · show boundedText 120 (boundedText 120 contents.sourceLicense) ≠ []
    rw [(boundedText_boundedText 120 _).mpr clean.sourceLicense]
    exact accepted.sourceLicense
  · show contents.normalize.entries.length ≤ maxCatalogEntries
    rw [CatalogContents.normalize, (sortByPrefix_perm _).length_eq, List.length_map]
    exact accepted.bounded
  · intro entry member
    rw [each entry member]
    exact (source entry member).1
  · intro entry member
    rw [each entry member]
    exact (source entry member).2
  · show ((contents.normalize.entries.map normalEntry).map (·.macPrefix)).Nodup
    rw [entries]
    exact nodup_normalize accepted
  · intro text given
    rcases checksum with none | settled
    · have given : contents.checksum = some text := given
      rw [none] at given
      cases given
    · rw [(settled_iff accepted).mp settled]
      exact accepted.checksum text given

end Law

section Samples

/-- A catalog of one entry, without a URL and without a checksum. -/
def singleEntry (manufacturer : List Char) : CatalogContents :=
  ⟨['1'], ['a'], ['b'], none, [⟨['0', '0', '1', '1', '2', '2'], manufacturer⟩], none⟩

theorem singleEntry_accepted {manufacturer : List Char} (sha256 : ByteArray → List Char)
    (named : boundedText maxVendorNameLength manufacturer ≠ []) : (singleEntry manufacturer).Accepted sha256 := by
  apply CatalogContents.Accepted.mk
  · show matchesVersion (boundedText 80 ['1']) = true
    decide
  · show boundedText 160 ['a'] ≠ []
    decide
  · show boundedText 120 ['b'] ≠ []
    decide
  · show 1 ≤ maxCatalogEntries
    decide
  · intro item member
    rw [List.mem_singleton.mp member]
    show normalizePrefix ['0', '0', '1', '1', '2', '2'] = some (compactPrefix ['0', '0', '1', '1', '2', '2'])
    decide
  · intro item member
    rw [List.mem_singleton.mp member]
    exact named
  · exact List.nodup_singleton _
  · exact fun text given => by cases given

theorem singleEntry_read {manufacturer : List Char} (number : List Char → List Char)
    (short : (print compact 0 (singleEntry manufacturer).payload).length ≤ maxCatalogBytes) :
    readCatalogBytes number (encode (print compact 0 (singleEntry manufacturer).payload ++ [])) = some
      (singleEntry manufacturer) := by
  have plain : numberless (singleEntry manufacturer).payload = true := numberless_payload fun url given => by cases given
  have size : (encode (print compact 0 (singleEntry manufacturer).payload ++ [])).size ≤ maxCatalogBytes := by
    rw [List.append_nil, size_encode (isAscii_print _ 0 _ (asciiNumbers_of_numberless _ plain))]
    exact short
  rw [readCatalogBytes_print compact (fun url given => by cases given) (fun c member => by cases member), if_pos size]

theorem singleEntry_parses {manufacturer : List Char} (sha256 : ByteArray → List Char) (number : List Char → List Char)
    (short : (print compact 0 (singleEntry manufacturer).payload).length ≤ maxCatalogBytes)
    (named : boundedText maxVendorNameLength manufacturer ≠ []) :
    parseCatalogBytes sha256 number (encode (print compact 0 (singleEntry manufacturer).payload ++ [])) =
      some (singleEntry manufacturer).normalize := by
  rw [parseCatalogBytes, singleEntry_read number short]
  exact parse_eq_some.mpr ⟨singleEntry_accepted sha256 named, rfl⟩

/-- A name whose cut ends in a blank. -/
def cutName : List Char := List.replicate 159 'x' ++ [' ', 'y']

end Samples

end OpenAssetWatch.Vendor
