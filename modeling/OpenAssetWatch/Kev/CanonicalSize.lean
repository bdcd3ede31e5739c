import OpenAssetWatch.Kev.Normalization

namespace OpenAssetWatch.Kev

open Library Library.JsonText Text

section Escapes

theorem verbatim_of_isHex {c : Char} (hex : isHex c = true) : isVerbatim c = true := by
  rw [isHex, Bool.or_eq_true] at hex
  rcases hex with digit | letter
  · exact (plain_of_isDigit digit).verbatim
  · rw [Bool.and_eq_true, decide_eq_true_eq, decide_eq_true_eq] at letter
    have low : 97 ≤ c.toNat := letter.1
    have high : c.toNat ≤ 102 := letter.2
    have quote : c ≠ '"' := by
      intro same
      rw [same] at low
      exact absurd low (by decide)
    have backslash : c ≠ '\\' := by
      intro same
      rw [same] at low
      exact absurd low (by decide)
    simp only [isVerbatim, Bool.and_eq_true, decide_eq_true_eq]
    exact ⟨⟨⟨by omega, by omega⟩, quote⟩, backslash⟩

theorem verbatim_digit (n : Nat) : isVerbatim (digit n) = true := (plain_of_isDigit (isDigit_digit n)).verbatim

theorem verbatim_showDate (date : Date) : date.show.all isVerbatim = true := by
  unfold Date.show showFour showTwo
  simp only [List.all_cons, List.all_append, List.all_nil, verbatim_digit]
  rfl

theorem escapedLength_showDate (date : Date) : escapedLength date.show = 10 :=
  escapedLength_verbatim (List.all_eq_true.mp (verbatim_showDate date))

theorem escapedLength_showUtc (moment : UtcDateTime) : escapedLength moment.show = moment.width := by
  rw [← moment.length_show]
  apply escapedLength_verbatim
  have all : moment.show.all isVerbatim = true := by
    unfold UtcDateTime.show showTwo showSix
    split <;> simp only [List.all_cons, List.all_append, List.all_nil, verbatim_digit, verbatim_showDate] <;> rfl
  exact List.all_eq_true.mp all

end Escapes

section Measures

def statusSize : Option RansomwareCampaignUse → Nat
  | some .known => 5
  | some .unknown => 7
  | none => 12

/-- How much room a source record takes in the canonical catalog. -/
def CisaKevRecord.canonicalSize (item : CisaKevRecord) : Nat :=
  307 + item.cveId.text.length + escapedLength item.vendorProject.text + escapedLength item.product.text +
    escapedLength item.vulnerabilityName.text + escapedLength item.shortDescription.text +
      escapedLength item.requiredAction.text +
    statusSize item.knownRansomwareCampaignUse + item.notes.elim 4 (fun notes => escapedLength notes.text + 2) +
    (item.cwes.map fun cwe => cwe.text.length + 2).sum + (item.cwes.length - 1)

theorem escapedLength_keys : escapedLength "cisa_due_date".toList = 13 ∧ escapedLength "cve_id".toList = 6 ∧
    escapedLength "cwes".toList = 4 ∧ escapedLength "date_added".toList = 10 ∧ escapedLength "kev_record_id".toList = 13 ∧
    escapedLength "notes".toList = 5 ∧ escapedLength "product".toList = 7 ∧
    escapedLength "ransomware_campaign_status".toList = 26 ∧ escapedLength "required_action".toList = 15 ∧
    escapedLength "short_description".toList = 17 ∧ escapedLength "vendor_project".toList = 14 ∧
    escapedLength "vulnerability_name".toList = 18 :=
  ⟨rfl, rfl, rfl, rfl, rfl, rfl, rfl, rfl, rfl, rfl, rfl, rfl⟩

variable {sha256 : ByteArray → List Char}

theorem width_record (hex : HexDigest sha256) (item : CisaKevRecord) :
    width (item.fields sha256).dump = item.canonicalSize := by
  have id : escapedLength (recordId sha256 item) = 68 := by
    rw [escapedLength_verbatim, recordId, List.length_append, (hex _).1]
    · rfl
    · intro c member
      rcases List.mem_append.mp member with fixed | digest
      · have letters : ∀ c ∈ ['k', 'e', 'v', '_'], isVerbatim c = true := by simp [isVerbatim]
        exact letters c fixed
      · exact verbatim_of_isHex (List.all_eq_true.mp (hex _).2 c digest)
  have cve : escapedLength item.cveId.text = item.cveId.text.length :=
    escapedLength_verbatim fun c member => (plain_cve item.cveId.shaped c member).verbatim
  have cwes : (((item.cwes.map fun cwe => String.ofList cwe.text).map fun cwe => JsonDoc.string cwe.toList).map width).sum =
      (item.cwes.map fun cwe => cwe.text.length + 2).sum := by
    rw [List.map_map, List.map_map]
    apply congrArg List.sum
    apply List.map_congr_left
    intro cwe _
    show escapedLength (String.ofList cwe.text).toList + 2 = _
    rw [String.toList_ofList, escapedLength_verbatim fun c member => (plain_cwe cwe.shaped c member).verbatim]
  have notes : width ((item.notes.map fun notes => String.ofList notes.text).elim .null fun notes => .string notes.toList) =
      item.notes.elim 4 (fun notes => escapedLength notes.text + 2) := by
    cases item.notes with
    | none => rfl
    | some notes =>
      show escapedLength (String.ofList notes.text).toList + 2 = _
      rw [String.toList_ofList]
      rfl
  have status : escapedLength (RansomwareCampaignUse.status item.knownRansomwareCampaignUse).text.toList =
      statusSize item.knownRansomwareCampaignUse := by
    rcases item.knownRansomwareCampaignUse with _ | _ | _ <;> rfl
  obtain ⟨k1, k2, k3, k4, k5, k6, k7, k8, k9, k10, k11, k12⟩ := escapedLength_keys
  rw [KevRecord.dump, width_object]
  simp only [KevRecord.dumpEntries, CisaKevRecord.fields, List.map_cons, List.map_nil, List.sum_cons, List.sum_nil,
    List.length_cons, List.length_nil, width_string, width_array, escapedLength_showDate, CisaKevRecord.cve, String.toList_ofList,
    cve, cwes, notes, status, k1, k2, k3, k4, k5, k6, k7, k8, k9, k10, k11, k12, List.length_map]
  rw [show "kev_".toList ++ sha256 (encode item.cveId.text) = recordId sha256 item from rfl, id, CisaKevRecord.canonicalSize]
  omega

theorem nodes_record (record : KevRecord) : nodes record.dump = 13 + record.cwes.length := by
  have notes : nodes (record.notes.elim .null fun notes => .string notes.toList) = 1 := by
    cases record.notes <;> rfl
  have cwes : ((record.cwes.map fun cwe => JsonDoc.string cwe.toList).map nodes).sum = record.cwes.length := by
    rw [List.map_map]
    show (record.cwes.map fun _ => 1).sum = _
    rw [List.map_const', List.sum_replicate, smul_eq_mul, mul_one]
  rw [KevRecord.dump, nodes_object]
  simp only [KevRecord.dumpEntries, List.map_cons, List.map_nil, List.sum_cons, List.sum_nil, nodes_string,
    nodes_array, notes, cwes]
  omega

theorem nodes_dump (catalog : KevCatalog) :
    nodes catalog.dump = 12 + (catalog.records.map fun record => 13 + record.cwes.length).sum := by
  have records : ((catalog.records.map KevRecord.dump).map nodes).sum =
      (catalog.records.map fun record => 13 + record.cwes.length).sum := by
    rw [List.map_map]
    exact congrArg List.sum (List.map_congr_left fun record _ => nodes_record record)
  have source : nodes (.object (dumpSourceEntries catalog.sourceProvenance)) = 7 := by
    rw [nodes_object]
    rfl
  rw [KevCatalog.dump, nodes_object]
  simp only [KevCatalog.dumpEntries, List.map_cons, List.map_nil, List.sum_cons, List.sum_nil, nodes_string, nodes_array, records,
    source]
  omega

set_option maxRecDepth 100000 in
theorem width_source : width (.object (dumpSourceEntries cisaKevAttribution)) = 506 := by decide

/-- The size of the canonical catalog of a source. -/
def CisaKevCatalog.canonicalSize (source : CisaKevCatalog) : Nat :=
  616 + source.dateReleased.width + escapedLength source.catalogVersion.text +
    (source.vulnerabilities.map CisaKevRecord.canonicalSize).sum + (source.vulnerabilities.length - 1)

/-- How many values the canonical catalog of a source has. -/
def CisaKevCatalog.canonicalNodes (source : CisaKevCatalog) : Nat :=
  12 + (source.vulnerabilities.map fun item => 13 + item.cwes.length).sum

theorem escapedLength_catalogKeys : escapedLength "catalog_date_released".toList = 21 ∧
    escapedLength "catalog_version".toList = 15 ∧ escapedLength "records".toList = 7 ∧
    escapedLength "schema_version".toList = 14 ∧ escapedLength "source".toList = 6 ∧ escapedLength kevSchemaVersion.toList = 18 :=
  ⟨rfl, rfl, rfl, rfl, rfl, rfl⟩

variable {source : CisaKevCatalog} {catalog : KevCatalog}

theorem width_dump (hex : HexDigest sha256) (normalized : Normalized sha256 source catalog) :
    width catalog.dump = source.canonicalSize := by
  have records : ((catalog.records.map KevRecord.dump).map width).sum =
      (source.vulnerabilities.map CisaKevRecord.canonicalSize).sum := by
    rw [normalized.records, List.map_map, List.map_map, ← ((sorted_perm source).map CisaKevRecord.canonicalSize).sum_eq]
    exact congrArg List.sum (List.map_congr_left fun item _ => width_record hex item)
  have count : catalog.records.length = source.vulnerabilities.length := by
    rw [normalized.records, List.length_map, (sorted_perm source).length_eq]
  obtain ⟨k1, k2, k3, k4, k5, k6⟩ := escapedLength_catalogKeys
  rw [KevCatalog.dump, width_object]
  simp only [KevCatalog.dumpEntries, List.map_cons, List.map_nil, List.sum_cons, List.sum_nil, List.length_cons, List.length_nil,
    List.length_map, width_string, width_array, normalized.sourceProvenance, normalized.catalogVersion,
    normalized.catalogDateReleased, escapedLength_showUtc, String.toList_ofList, width_source, records, count, k1, k2,
      k3, k4, k5, k6]
  rw [CisaKevCatalog.canonicalSize]
  omega

theorem nodes_normalized (normalized : Normalized sha256 source catalog) : nodes catalog.dump = source.canonicalNodes := by
  have records : (catalog.records.map fun record => 13 + record.cwes.length).sum =
      (source.vulnerabilities.map fun item => 13 + item.cwes.length).sum := by
    rw [normalized.records, List.map_map, ← ((sorted_perm source).map fun item => 13 + item.cwes.length).sum_eq]
    apply congrArg List.sum
    apply List.map_congr_left
    intro item _
    exact congrArg (13 + ·) (List.length_map _)
  rw [nodes_dump, records, CisaKevCatalog.canonicalNodes]

theorem numberless_record (record : KevRecord) : numberless record.dump = true := by
  have notes : numberless (record.notes.elim .null fun notes => .string notes.toList) = true := by
    cases record.notes <;> rfl
  rw [KevRecord.dump, numberless_object]
  simp [KevRecord.dumpEntries, notes, List.all_map]

theorem numberless_dump (catalog : KevCatalog) : numberless catalog.dump = true := by
  have records : (catalog.records.map KevRecord.dump).all numberless = true := by
    rw [List.all_map]
    exact List.all_eq_true.mpr fun record _ => numberless_record record
  have source : numberless (.object (dumpSourceEntries catalog.sourceProvenance)) = true := by
    rw [numberless_object]
    rfl
  rw [KevCatalog.dump, numberless_object]
  simp only [KevCatalog.dumpEntries, List.all_cons, List.all_nil, numberless_string, numberless_array, records, source]
  rfl

theorem distinctKeys_record (record : KevRecord) : distinctKeys record.dump = true := by
  have notes : distinctKeys (record.notes.elim .null fun notes => .string notes.toList) = true := by
    cases record.notes <;> rfl
  have keys : (record.dumpEntries.map (·.1)).Nodup := by
    show (["cisa_due_date", "cve_id", "cwes", "date_added", "kev_record_id", "notes", "product", "ransomware_campaign_status",
      "required_action", "short_description", "vendor_project", "vulnerability_name"].map String.toList).Nodup
    exact List.Nodup.map (fun _ _ same => String.toList_inj.mp same) (by decide)
  rw [KevRecord.dump, distinctKeys_object, decide_eq_true keys]
  simp [KevRecord.dumpEntries, notes, List.all_map]

theorem distinctKeys_dump (catalog : KevCatalog) : distinctKeys catalog.dump = true := by
  have records : (catalog.records.map KevRecord.dump).all distinctKeys = true := by
    rw [List.all_map]
    exact List.all_eq_true.mpr fun record _ => distinctKeys_record record
  have sourceKeys : ((dumpSourceEntries catalog.sourceProvenance).map (·.1)).Nodup := by
    show (["canonical_documentation_url", "license_identifier", "name", "official_mirror_url", "provenance", "source_id"].map
      String.toList).Nodup
    exact List.Nodup.map (fun _ _ same => String.toList_inj.mp same) (by decide)
  have source : distinctKeys (.object (dumpSourceEntries catalog.sourceProvenance)) = true := by
    rw [distinctKeys_object, decide_eq_true sourceKeys]
    rfl
  have keys : (catalog.dumpEntries.map (·.1)).Nodup := by
    show (["catalog_date_released", "catalog_version", "records", "schema_version", "source"].map String.toList).Nodup
    exact List.Nodup.map (fun _ _ same => String.toList_inj.mp same) (by decide)
  rw [KevCatalog.dump, distinctKeys_object, decide_eq_true keys]
  simp only [KevCatalog.dumpEntries, List.all_cons, List.all_nil, distinctKeys_string, distinctKeys_array, records, source]
  rfl

theorem nesting_record (record : KevRecord) : nesting record.dump ≤ 3 := by
  have notes : nesting (record.notes.elim .null fun notes => .string notes.toList) = 1 := by
    cases record.notes <;> rfl
  have cwes : ((record.cwes.map fun cwe => JsonDoc.string cwe.toList).map nesting).foldr max 0 ≤ 1 := by
    apply foldr_max_le
    intro depth member
    rw [List.map_map] at member
    obtain ⟨cwe, -, rfl⟩ := List.mem_map.mp member
    exact le_of_eq (nesting_string _)
  rw [KevRecord.dump, nesting_object]
  simp only [KevRecord.dumpEntries, List.map_cons, List.map_nil, List.foldr_cons, List.foldr_nil, nesting_string,
    nesting_array, notes]
  omega

theorem nesting_dump (catalog : KevCatalog) : nesting catalog.dump ≤ maxJsonDepth := by
  have records : ((catalog.records.map KevRecord.dump).map nesting).foldr max 0 ≤ 3 := by
    apply foldr_max_le
    intro depth member
    rw [List.map_map] at member
    obtain ⟨record, -, rfl⟩ := List.mem_map.mp member
    exact nesting_record record
  have source : nesting (.object (dumpSourceEntries catalog.sourceProvenance)) = 2 := by
    rw [nesting_object]
    rfl
  rw [KevCatalog.dump, nesting_object]
  simp only [KevCatalog.dumpEntries, List.map_cons, List.map_nil, List.foldr_cons, List.foldr_nil, nesting_string, nesting_array,
    source, maxJsonDepth]
  omega

theorem longest_record (hex : HexDigest sha256) {item : CisaKevRecord}
    (short : ∀ cwe ∈ item.cwes, cwe.text.length ≤ maxKevNotes) :
    longest (item.fields sha256).dump ≤ maxKevNotes := by
  have notes : longest ((item.notes.map fun notes => String.ofList notes.text).elim .null fun notes => .string notes.toList) ≤
      maxKevNotes := by
    cases item.notes with
    | none => exact Nat.zero_le _
    | some notes =>
      show (String.ofList notes.text).toList.length ≤ _
      rw [String.toList_ofList]
      exact notes.bounded
  have cwes : (((item.cwes.map fun cwe => String.ofList cwe.text).map fun cwe => JsonDoc.string cwe.toList).map longest).foldr max 0 ≤
      maxKevNotes := by
    apply foldr_max_le
    intro length member
    rw [List.map_map, List.map_map] at member
    obtain ⟨cwe, present, rfl⟩ := List.mem_map.mp member
    show (String.ofList cwe.text).toList.length ≤ _
    rw [String.toList_ofList]
    exact short cwe present
  have status : (RansomwareCampaignUse.status item.knownRansomwareCampaignUse).text.toList.length ≤ 12 := by
    rcases item.knownRansomwareCampaignUse with _ | _ | _ <;> decide
  have id : ("kev_".toList ++ sha256 (encode item.cveId.text)).length = 68 := by
    rw [List.length_append, (hex _).1]
    rfl
  have vendor := item.vendorProject.bounded
  have product := item.product.bounded
  have named := item.vulnerabilityName.bounded
  have description := item.shortDescription.bounded
  have action := item.requiredAction.bounded
  have cve := item.cveId.length_range
  rw [KevRecord.dump, longest_object]
  simp only [KevRecord.dumpEntries, CisaKevRecord.fields, CisaKevRecord.cve, List.map_cons, List.map_nil, List.foldr_cons,
    List.foldr_nil, longest_string, longest_array, length_show_date, String.toList_ofList, id]
  simp only [maxKevNotes, maxKevText] at *
  omega

set_option maxRecDepth 100000 in
theorem longest_source : longest (.object (dumpSourceEntries cisaKevAttribution)) ≤ 200 := by decide

theorem longest_dump (hex : HexDigest sha256) (normalized : Normalized sha256 source catalog)
    (short : ∀ item ∈ source.vulnerabilities, ∀ cwe ∈ item.cwes, cwe.text.length ≤ maxKevNotes) :
    longest catalog.dump ≤ maxKevNotes := by
  have records : ((catalog.records.map KevRecord.dump).map longest).foldr max 0 ≤ maxKevNotes := by
    apply foldr_max_le
    intro length member
    rw [normalized.records, List.map_map, List.map_map] at member
    obtain ⟨item, present, rfl⟩ := List.mem_map.mp member
    exact longest_record hex (short item ((sorted_perm source).mem_iff.mp present))
  have sourceDoc : longest (.object (dumpSourceEntries catalog.sourceProvenance)) ≤ 200 := by
    rw [normalized.sourceProvenance]
    exact longest_source
  have version := source.catalogVersion.bounded
  have released : catalog.catalogDateReleased.show.length ≤ 27 := by
    rw [UtcDateTime.length_show, UtcDateTime.width]
    split <;> decide
  have schema : kevSchemaVersion.toList.length ≤ 18 := by decide
  rw [KevCatalog.dump, longest_object]
  simp only [KevCatalog.dumpEntries, List.map_cons, List.map_nil, List.foldr_cons, List.foldr_nil, longest_string, longest_array,
    normalized.catalogVersion, String.toList_ofList]
  simp only [maxKevNotes] at *
  omega

end Measures

section Read

theorem mem_of_mapM {α β : Type} {read : α → Option β} {items : List α} {values : List β} (all : items.mapM read = some values)
    {value : β} (member : value ∈ values) : ∃ item ∈ items, read item = some value := by
  induction items generalizing values with
  | nil =>
    cases all
    cases member
  | cons item items hypothesis =>
    rw [List.mapM_cons] at all
    obtain ⟨first, here, all⟩ := Option.bind_eq_some_iff.mp all
    obtain ⟨others, rest, all⟩ := Option.bind_eq_some_iff.mp all
    cases all
    rcases List.mem_cons.mp member with rfl | later
    · exact ⟨item, List.mem_cons_self, here⟩
    · obtain ⟨found, listed, same⟩ := hypothesis rest later
      exact ⟨found, List.mem_cons_of_mem _ listed, same⟩

theorem le_foldr_max {values : List Nat} {value : Nat} (member : value ∈ values) : value ≤ values.foldr max 0 := by
  induction values with
  | nil => cases member
  | cons first values hypothesis =>
    rcases List.mem_cons.mp member with rfl | later
    · exact le_max_left _ _
    · exact (hypothesis later).trans (le_max_right _ _)

theorem longest_le_of_lookup {entries : List (List Char × JsonDoc)} {key : List Char} {doc : JsonDoc}
    (found : entries.lookup key = some doc) : longest doc ≤ longest (.object entries) := by
  obtain ⟨before, after, rfl, -⟩ := List.lookup_eq_some_iff.mp found
  rw [longest_object]
  exact le_foldr_max (List.mem_map.mpr ⟨(key, doc), List.mem_append_right _ List.mem_cons_self, rfl⟩)

theorem longest_le_of_listOf {α : Type} {read : JsonDoc → Option α} {doc : JsonDoc} {values : List α}
    (all : listOf read doc = some values) {value : α} (member : value ∈ values) :
    ∃ item, read item = some value ∧ longest item ≤ longest doc := by
  cases doc with
  | array items =>
    obtain ⟨item, listed, reads⟩ := mem_of_mapM all member
    refine ⟨item, reads, ?_⟩
    rw [longest_array]
    exact le_foldr_max (List.mem_map_of_mem listed)
  | _ => cases all

theorem Cwe.length_of? {raw : List Char} {cwe : Cwe} (given : Cwe.of? raw = some cwe) : cwe.text.length ≤ raw.length := by
  rw [Cwe.of?] at given
  split at given
  · cases given
    rw [List.length_map]
    exact length_stripChars_le _ _
  · cases given

theorem length_cwe_of_read {doc : JsonDoc} {item : CisaKevRecord} (given : CisaKevRecord.read doc = some item) {cwe : Cwe}
    (member : cwe ∈ item.cwes) : cwe.text.length ≤ longest doc := by
  cases doc with
  | object entries =>
    rw [CisaKevRecord.read, entriesOf] at given
    obtain ⟨_, same, given⟩ := Option.bind_eq_some_iff.mp given
    cases same
    obtain ⟨_, _, given⟩ := Option.bind_eq_some_iff.mp given
    obtain ⟨_, _, given⟩ := Option.bind_eq_some_iff.mp given
    obtain ⟨_, _, given⟩ := Option.bind_eq_some_iff.mp given
    obtain ⟨_, _, given⟩ := Option.bind_eq_some_iff.mp given
    obtain ⟨_, _, given⟩ := Option.bind_eq_some_iff.mp given
    obtain ⟨_, _, given⟩ := Option.bind_eq_some_iff.mp given
    obtain ⟨_, _, given⟩ := Option.bind_eq_some_iff.mp given
    obtain ⟨_, _, given⟩ := Option.bind_eq_some_iff.mp given
    obtain ⟨_, _, given⟩ := Option.bind_eq_some_iff.mp given
    obtain ⟨_, _, given⟩ := Option.bind_eq_some_iff.mp given
    obtain ⟨_, _, given⟩ := Option.bind_eq_some_iff.mp given
    obtain ⟨cwes, listed, given⟩ := Option.bind_eq_some_iff.mp given
    split at given
    · cases given
      rw [defaulted] at listed
      cases found : entries.lookup "cwes".toList with
      | none =>
        rw [found] at listed
        cases listed
        cases member
      | some list =>
        rw [found, Option.elim_some] at listed
        obtain ⟨item, reads, short⟩ := longest_le_of_listOf listed member
        obtain ⟨raw, text, given⟩ := Option.bind_eq_some_iff.mp reads
        have whole : raw.length ≤ longest item := by
          cases item with
          | string text' =>
            cases text
            exact le_rfl
          | _ => cases text
        exact ((Cwe.length_of? given).trans whole).trans (short.trans (longest_le_of_lookup found))
    · cases given
  | _ => cases given

variable {validators : Validators}

theorem short_cwes {maximumBytes : Nat} {data : ByteArray} {source : CisaKevCatalog}
    (accepted : parseCisaKevBytes validators maximumBytes data = some source) :
    ∀ item ∈ source.vulnerabilities, ∀ cwe ∈ item.cwes, cwe.text.length ≤ maxKevNotes := by
  obtain ⟨doc, read, given⟩ := Option.bind_eq_some_iff.mp accepted
  have bounded : longest doc ≤ maxKevNotes := by
    rw [readBytes] at read
    split at read
    · cases read
    obtain ⟨text, -, read⟩ := Option.bind_eq_some_iff.mp read
    split at read
    · cases read
    obtain ⟨raw, -, read⟩ := Option.bind_eq_some_iff.mp read
    split at read
    · rename_i shape
      cases read
      simp only [validJsonShape, Bool.and_eq_true, decide_eq_true_eq] at shape
      exact shape.2.2
    · cases read
  intro item listed cwe member
  cases doc with
  | object entries =>
    rw [CisaKevCatalog.read, entriesOf] at given
    obtain ⟨_, same, given⟩ := Option.bind_eq_some_iff.mp given
    cases same
    obtain ⟨_, _, given⟩ := Option.bind_eq_some_iff.mp given
    obtain ⟨_, _, given⟩ := Option.bind_eq_some_iff.mp given
    obtain ⟨_, _, given⟩ := Option.bind_eq_some_iff.mp given
    obtain ⟨_, _, given⟩ := Option.bind_eq_some_iff.mp given
    obtain ⟨_, _, given⟩ := Option.bind_eq_some_iff.mp given
    obtain ⟨vulnerabilities, all, given⟩ := Option.bind_eq_some_iff.mp given
    split at given
    · cases given
      obtain ⟨list, found, all⟩ := Option.bind_eq_some_iff.mp all
      obtain ⟨doc, reads, short⟩ := longest_le_of_listOf all listed
      exact ((length_cwe_of_read reads member).trans short).trans ((longest_le_of_lookup found).trans bounded)
    · cases given
  | _ => cases given

end Read

section Closed

/-- All that the claim says of a source: its canonical catalog is read back, its records are the source records, each once, and
    no other order of the source gives other records. -/
structure CanonicallyClosed (sha256 : ByteArray → List Char) (validators : Validators) (source : CisaKevCatalog) : Prop where
  readBack : ∃ catalog, normalizeCisaKevCatalog sha256 source = some catalog ∧
    (parseKevCatalogBytes validators sha256 (canonicalKevBytes catalog)).map Prod.fst = some catalog
  correspondence : ∀ catalog, normalizeCisaKevCatalog sha256 source = some catalog →
    catalog.records.Perm (source.vulnerabilities.map (·.fields sha256)) ∧ (catalog.records.map (·.cveId)).Nodup
  orderFree : ∀ other : CisaKevCatalog, other.vulnerabilities.Perm source.vulnerabilities →
    (normalizeCisaKevCatalog sha256 other).map (·.records) = (normalizeCisaKevCatalog sha256 source).map (·.records)

variable {sha256 : ByteArray → List Char} {validators : Validators} {source : CisaKevCatalog}

theorem readBack_iff (hex : HexDigest sha256) (reads : validators.ReadsBack) {catalog : KevCatalog}
    (normalized : Normalized sha256 source catalog)
    (short : ∀ item ∈ source.vulnerabilities, ∀ cwe ∈ item.cwes, cwe.text.length ≤ maxKevNotes) :
    (parseKevCatalogBytes validators sha256 (canonicalKevBytes catalog)).map Prod.fst = some catalog ↔
      source.canonicalSize ≤ maxCisaKevBytes ∧ source.canonicalNodes ≤ maxJsonNodes := by
  have plain := numberless_dump catalog
  have shape : validJsonShape catalog.dump = true ↔ source.canonicalNodes ≤ maxJsonNodes := by
    rw [validJsonShape, decide_eq_true (nesting_dump catalog), decide_eq_true (longest_dump hex normalized short),
      nodes_normalized normalized, Bool.and_true, Bool.and_true, decide_eq_true_eq]
  have bytes := readBytes_dumpBytes (numbersRead_of_numberless _ plain) (asciiNumbers_of_numberless _ plain)
    (distinctKeys_dump catalog) maxCisaKevBytes
  simp only [width_dump hex normalized, shape] at bytes
  have settled : ∀ record ∈ catalog.records, record.Settled := by
    rw [normalized.records]
    intro record member
    obtain ⟨item, -, rfl⟩ := List.mem_map.mp member
    exact settled_fields hex item
  have provenance : boundedString 1 1000 catalog.sourceProvenance = some catalog.sourceProvenance := by
    rw [normalized.sourceProvenance]
    exact boundedString_attribution
  have version : boundedString 1 120 catalog.catalogVersion = some catalog.catalogVersion := by
    rw [normalized.catalogVersion]
    exact boundedString_ofList source.catalogVersion.trimmed (List.length_pos_iff.mpr source.catalogVersion.nonempty)
      source.catalogVersion.bounded
  have found : (readBytes maxCisaKevBytes (dumpBytes catalog.dump)).bind
      (fun raw => (KevCatalog.read validators raw).bind fun catalog' =>
      if canonicalKevBytes catalog' = canonicalKevBytes catalog then some
        (catalog', sha256 (canonicalKevBytes catalog')) else none) =
      parseKevCatalogBytes validators sha256 (canonicalKevBytes catalog) := rfl
  rw [← found, bytes]
  by_cases fits : source.canonicalSize ≤ maxCisaKevBytes ∧ source.canonicalNodes ≤ maxJsonNodes
  · rw [if_pos fits, Option.bind_some, read_dump reads settled provenance version, Option.bind_some, if_pos rfl]
    exact iff_of_true rfl fits
  · rw [if_neg fits, Option.bind_none]
    apply iff_of_false _ fits
    rintro ⟨⟩

theorem normalize_correspondence (hex : HexDigest sha256) (distinct : DistinctDigests sha256) (source : CisaKevCatalog)
    {catalog : KevCatalog} (normalized : normalizeCisaKevCatalog sha256 source = some catalog) :
    catalog.records.Perm (source.vulnerabilities.map (·.fields sha256)) ∧ (catalog.records.map (·.cveId)).Nodup := by
  obtain ⟨other, same, holds⟩ := normalize_eq hex distinct source
  cases normalized.symm.trans same
  refine ⟨?_, catalog.nodup_cves⟩
  rw [holds.records]
  exact (sorted_perm source).map _

theorem normalize_orderFree (hex : HexDigest sha256) (distinct : DistinctDigests sha256) {source other : CisaKevCatalog}
    (same : other.vulnerabilities.Perm source.vulnerabilities) :
    (normalizeCisaKevCatalog sha256 other).map (·.records) = (normalizeCisaKevCatalog sha256 source).map (·.records) := by
  obtain ⟨left, leftSome, leftHolds⟩ := normalize_eq hex distinct other
  obtain ⟨right, rightSome, rightHolds⟩ := normalize_eq hex distinct source
  rw [leftSome, rightSome, Option.map_some, Option.map_some, leftHolds.records, rightHolds.records, sorted_eq_of_perm same]

theorem closed_iff (hex : HexDigest sha256) (distinct : DistinctDigests sha256) (reads : validators.ReadsBack)
    (short : ∀ item ∈ source.vulnerabilities, ∀ cwe ∈ item.cwes, cwe.text.length ≤ maxKevNotes) :
    CanonicallyClosed sha256 validators source ↔
      source.canonicalSize ≤ maxCisaKevBytes ∧ source.canonicalNodes ≤ maxJsonNodes := by
  obtain ⟨catalog, some, normalized⟩ := normalize_eq hex distinct source
  have back := readBack_iff hex reads normalized short
  constructor
  · intro closed
    obtain ⟨other, same, accepted⟩ := closed.readBack
    cases some.symm.trans same
    exact back.mp accepted
  · intro fits
    exact ⟨⟨catalog, some, back.mpr fits⟩, fun _ given => normalize_correspondence hex distinct source given,
      fun _ same => normalize_orderFree hex distinct same⟩

end Closed

end OpenAssetWatch.Kev
