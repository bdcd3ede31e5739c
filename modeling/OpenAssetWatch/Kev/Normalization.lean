import OpenAssetWatch.Kev.Canonical

namespace OpenAssetWatch.Kev

open Library Library.JsonText Text

section Settled

/-- What the hex digest gives: 64 hexadecimal digits. -/
def HexDigest (sha256 : ByteArray → List Char) : Prop := ∀ data, (sha256 data).length = 64 ∧ (sha256 data).all isHex = true

theorem trimString_ofList {text : List Char} (trimmed : trim text = text) : trimString (String.ofList text) =
    String.ofList text := by
  rw [trimString, String.toList_ofList, trimmed]

theorem boundedString_ofList {minimum maximum : Nat} {text : List Char} (trimmed : trim text = text)
    (least : minimum ≤ text.length)
    (most : text.length ≤ maximum) : boundedString minimum maximum (String.ofList text) = some (String.ofList text) := by
  rw [boundedString, trimString_ofList trimmed, if_pos]
  rw [String.length_ofList]
  exact ⟨least, most⟩

theorem PlainText.boundedString {maximum limit : Nat} (text : PlainText maximum limit) :
    Kev.boundedString 1 maximum (String.ofList text.text) = some (String.ofList text.text) :=
  boundedString_ofList text.trimmed (List.length_pos_iff.mpr text.nonempty) text.bounded

theorem trim_of_plain {text : List Char} (plain : ∀ c ∈ text, Plain c) : trim text = text :=
  stripChars_of_none fun c member => (plain c member).trimmed

theorem CveId.length_range (cve : CveId) : 13 ≤ cve.text.length ∧ cve.text.length ≤ 28 := by
  have shaped := cve.shaped
  simp only [matchesCve, Bool.and_eq_true, decide_eq_true_eq, List.length_take, List.length_drop] at shaped
  omega

theorem not_white_of_printable {c : Char} (low : 33 ≤ c.toNat) (high : c.toNat < 127) : isWhiteSpace c = false := by
  simp only [isWhiteSpace, Bool.or_eq_false_iff, Bool.and_eq_false_iff, decide_eq_false_iff_not]
  omega

theorem not_white_of_isHex {c : Char} (hex : isHex c = true) : isWhiteSpace c = false := by
  rw [isHex, Bool.or_eq_true] at hex
  rcases hex with digit | letter
  · exact (plain_of_isDigit digit).trimmed
  · rw [Bool.and_eq_true, decide_eq_true_eq, decide_eq_true_eq] at letter
    have low : 97 ≤ c.toNat := letter.1
    have high : c.toNat ≤ 102 := letter.2
    exact not_white_of_printable (by omega) (by omega)

variable {sha256 : ByteArray → List Char}

/-- The text of a record's id. -/
def recordId (sha256 : ByteArray → List Char) (item : CisaKevRecord) : List Char :=
  "kev_".toList ++ sha256 (encode item.cveId.text)

theorem trim_recordId (hex : HexDigest sha256) (item : CisaKevRecord) : trim (recordId sha256 item) = recordId sha256 item := by
  apply stripChars_of_none
  intro c member
  rcases List.mem_append.mp member with fixed | digest
  · have letters : ∀ c ∈ ['k', 'e', 'v', '_'], 33 ≤ c.toNat ∧ c.toNat < 127 := by simp
    obtain ⟨low, high⟩ := letters c fixed
    exact not_white_of_printable low high
  · exact not_white_of_isHex (List.all_eq_true.mp (hex _).2 c digest)

theorem matchesRecordId_recordId (hex : HexDigest sha256) (item : CisaKevRecord) : matchesRecordId
    (recordId sha256 item) = true := by
  obtain ⟨length, digits⟩ := hex (encode item.cveId.text)
  show (decide (_ = _) && decide ((sha256 (encode item.cveId.text)).length = 64) &&
      (sha256 (encode item.cveId.text)).all isHex) = true
  rw [length, digits]
  rfl

/-- A record whose fields are trimmed and within their bounds. -/
structure KevRecord.Settled (record : KevRecord) : Prop where
  kevRecordId : trimString record.kevRecordId = record.kevRecordId
  matchesId : matchesRecordId record.kevRecordId.toList = true
  boundedCve : boundedString 13 28 record.cveId = some record.cveId
  cveId : normalizeCve record.cveId.toList = some record.cveId.toList
  vendorProject : boundedString 1 500 record.vendorProject = some record.vendorProject
  product : boundedString 1 500 record.product = some record.product
  vulnerabilityName : boundedString 1 1000 record.vulnerabilityName = some record.vulnerabilityName
  shortDescription : boundedString 1 maxKevText record.shortDescription = some record.shortDescription
  requiredAction : boundedString 1 maxKevText record.requiredAction = some record.requiredAction
  notes : ∀ notes ∈ record.notes, boundedString 0 maxKevNotes notes = some notes
  cwes : ∀ cwe ∈ record.cwes, trimString cwe = cwe
  cwes_bounded : record.cwes.length ≤ maxKevCwes

theorem KevRecord.Settled.validate {record : KevRecord} (settled : record.Settled) : record.validate = some record := by
  have notes : record.notes.elim (some none) (fun notes => (boundedString 0 maxKevNotes notes).map some) = some record.notes := by
    have kept := settled.notes
    cases given : record.notes with
    | none => rfl
    | some notes =>
      rw [Option.elim_some, kept notes given]
      rfl
  have cwes : record.cwes.map trimString = record.cwes := by
    rw [List.map_congr_left settled.cwes]
    exact List.map_id _
  rw [KevRecord.validate, settled.kevRecordId, settled.boundedCve, Option.bind_some, settled.cveId, settled.vendorProject,
    settled.product, settled.vulnerabilityName, settled.shortDescription, settled.requiredAction, notes, cwes]
  simp only [settled.matchesId, settled.cwes_bounded, guard, if_true]
  show some { record with cveId := String.ofList record.cveId.toList } = some record
  rw [String.ofList_toList]

theorem settled_fields (hex : HexDigest sha256) (item : CisaKevRecord) : (item.fields sha256).Settled where
  kevRecordId := trimString_ofList (trim_recordId hex item)
  matchesId := by
    show matchesRecordId (String.ofList (recordId sha256 item)).toList = true
    rw [String.toList_ofList, matchesRecordId_recordId hex]
  boundedCve :=
    boundedString_ofList (trim_of_plain (plain_cve item.cveId.shaped)) item.cveId.length_range.1 item.cveId.length_range.2
  cveId := by
    show normalizeCve (String.ofList item.cveId.text).toList = some (String.ofList item.cveId.text).toList
    rw [String.toList_ofList, normalizeCve_self item.cveId.shaped]
  vendorProject := item.vendorProject.boundedString
  product := item.product.boundedString
  vulnerabilityName := item.vulnerabilityName.boundedString
  shortDescription := item.shortDescription.boundedString
  requiredAction := item.requiredAction.boundedString
  notes := by
    intro text given
    obtain ⟨notes, -, rfl⟩ := Option.mem_map.mp given
    exact boundedString_ofList notes.trimmed (Nat.zero_le _) notes.bounded
  cwes := by
    intro text given
    obtain ⟨cwe, -, rfl⟩ := List.mem_map.mp given
    exact trimString_ofList (trim_of_plain (plain_cwe cwe.shaped))
  cwes_bounded := (List.length_map _).trans_le item.cwes_bounded

end Settled

section Sorted

theorem sorted_perm (source : CisaKevCatalog) : source.sorted.Perm source.vulnerabilities := List.mergeSort_perm _ _

theorem CisaKevCatalog.pairwise_sorted (source : CisaKevCatalog) : source.sorted.Pairwise fun a b => a.cve ≤ b.cve := by
  have sorted : source.sorted.Pairwise fun a b => decide (a.cve ≤ b.cve) = true := by
    apply List.pairwise_mergeSort
    · intro a b c first second
      exact decide_eq_true ((of_decide_eq_true first).trans (of_decide_eq_true second))
    · intro a b
      simpa using le_total a.cve b.cve
  exact sorted.imp fun less => of_decide_eq_true less

theorem CisaKevCatalog.nodup_sorted (source : CisaKevCatalog) : (source.sorted.map (·.cve)).Nodup :=
  ((sorted_perm source).map _).nodup_iff.mpr source.distinct

theorem CisaKevCatalog.ordered (source : CisaKevCatalog) : (source.sorted.map (·.cve)).Pairwise (· < ·) := by
  have weak : (source.sorted.map (·.cve)).Pairwise (· ≤ ·) := List.pairwise_map.mpr source.pairwise_sorted
  exact (weak.and source.nodup_sorted).imp fun both => lt_of_le_of_ne both.1 both.2

theorem sorted_eq_of_perm {source other : CisaKevCatalog} (same : other.vulnerabilities.Perm source.vulnerabilities) :
    other.sorted = source.sorted := by
  apply List.Perm.eq_of_pairwise _ other.pairwise_sorted source.pairwise_sorted
  · exact ((sorted_perm other).trans same).trans (sorted_perm source).symm
  · intro a b left right below above
    have inSource := (sorted_perm other).trans same
    exact List.inj_on_of_nodup_map source.distinct (inSource.mem_iff.mp left) ((sorted_perm source).mem_iff.mp right)
      (le_antisymm below above)

end Sorted

section Normalized

variable {sha256 : ByteArray → List Char}

/-- No two CVEs have one digest. -/
def DistinctDigests (sha256 : ByteArray → List Char) : Prop :=
  ∀ first second : CveId, sha256 (encode first.text) = sha256 (encode second.text) → first = second

/-- What the normalized catalog holds. -/
structure Normalized (sha256 : ByteArray → List Char) (source : CisaKevCatalog) (catalog : KevCatalog) : Prop where
  sourceProvenance : catalog.sourceProvenance = cisaKevAttribution
  catalogVersion : catalog.catalogVersion = String.ofList source.catalogVersion.text
  catalogDateReleased : catalog.catalogDateReleased = source.dateReleased
  records : catalog.records = source.sorted.map (·.fields sha256)

theorem recordId_injective (distinct : DistinctDigests sha256) {first second : CisaKevRecord}
    (same : (first.fields sha256).kevRecordId = (second.fields sha256).kevRecordId) : first.cve = second.cve := by
  have texts : recordId sha256 first = recordId sha256 second := String.ofList_injective same
  rw [CisaKevRecord.cve, CisaKevRecord.cve, distinct _ _ (List.append_cancel_left texts)]

set_option maxRecDepth 2000 in
theorem attribution_text : cisaKevAttribution.toList.head? = some 'C' ∧ cisaKevAttribution.toList.getLast? = some '.' ∧
    1 ≤ cisaKevAttribution.toList.length ∧ cisaKevAttribution.toList.length ≤ 1000 := by
  have text : cisaKevAttribution.toList = _ := (String.toList_append ..).trans <| congrArg₂ (· ++ ·)
    ((String.toList_append ..).trans (congrArg₂ (· ++ ·) String.toList_ofList String.toList_ofList)) String.toList_ofList
  rw [text]
  simp

theorem boundedString_attribution : boundedString 1 1000 cisaKevAttribution = some cisaKevAttribution := by
  have trimmed : trim cisaKevAttribution.toList = cisaKevAttribution.toList := by
    apply stripChars_eq_self
    · rw [attribution_text.1]
      intro c first
      cases first
      rfl
    · rw [attribution_text.2.1]
      intro c last
      cases last
      rfl
  have bounded := boundedString_ofList trimmed attribution_text.2.2.1 attribution_text.2.2.2
  rwa [String.ofList_toList] at bounded

theorem normalize_eq (hex : HexDigest sha256) (distinct : DistinctDigests sha256) (source : CisaKevCatalog) :
    ∃ catalog, normalizeCisaKevCatalog sha256 source = some catalog ∧ Normalized sha256 source catalog := by
  have validated : source.sorted.mapM (fun item => (item.fields sha256).validate) =
      some (source.sorted.map (·.fields sha256)) := by
    rw [funext fun item => (settled_fields hex item).validate]
    exact List.mapM_pure
  have version : boundedString 1 120 (String.ofList source.catalogVersion.text) = some
      (String.ofList source.catalogVersion.text) :=
    boundedString_ofList source.catalogVersion.trimmed (List.length_pos_iff.mpr source.catalogVersion.nonempty)
      source.catalogVersion.bounded
  have bounded : (source.sorted.map (·.fields sha256)).length ≤ maxKevRecords := by
    rw [List.length_map, (sorted_perm source).length_eq]
    exact source.bounded
  have cves : (source.sorted.map (·.fields sha256)).map (·.cveId) = source.sorted.map (·.cve) := List.map_map ..
  have ordered : ((source.sorted.map (·.fields sha256)).map (·.cveId)).Pairwise (· < ·) := by
    rw [cves]
    exact source.ordered
  have ids : ((source.sorted.map (·.fields sha256)).map (·.kevRecordId)).Nodup := by
    rw [List.map_map]
    apply (List.nodup_map_iff_inj_on (source.nodup_sorted.of_map _)).mpr
    intro first inFirst second inSecond same
    exact List.inj_on_of_nodup_map source.nodup_sorted inFirst inSecond (recordId_injective distinct same)
  refine ⟨⟨cisaKevAttribution, String.ofList source.catalogVersion.text, source.dateReleased, _, bounded, ordered, ids⟩, ?_,
    ⟨rfl, rfl, rfl, rfl⟩⟩
  rw [normalizeCisaKevCatalog, validated, Option.bind_eq_bind, Option.bind_some, KevCatalog.validate, boundedString_attribution,
    version, Option.bind_eq_bind, Option.bind_some, Option.bind_some, KevCatalog.construct, dif_pos bounded,
    dif_pos ordered, dif_pos ids]

end Normalized

/-- The validators read the dates and the times that a dump writes. -/
structure Validators.ReadsBack (validators : Validators) : Prop where
  date : ∀ date : Date, validators.date (.string date.show) = some date
  datetime : ∀ moment : UtcDateTime, validators.datetime (.string moment.show) = some moment

section ReadBack

variable {validators : Validators}

theorem textOf_string (text : String) : textOf (.string text.toList) = some text := by
  rw [textOf, stringOf, Option.map_some, String.ofList_toList]

theorem listOf_strings (texts : List String) : listOf textOf (.array (texts.map fun text => .string text.toList)) = some texts :=
  mapM_map fun text _ => textOf_string text

theorem nullable_string (text : Option String) :
    nullable textOf (text.elim .null fun text => .string text.toList) = some text := by
  cases text with
  | none => rfl
  | some text =>
    show (textOf (.string text.toList)).map some = _
    rw [textOf_string]
    rfl

theorem ofText_text (status : RansomwareCampaignStatus) : RansomwareCampaignStatus.ofText status.text.toList = some status := by
  cases status <;> rfl

theorem read_dump_record (reads : validators.ReadsBack) {record : KevRecord} (settled : record.Settled) :
    KevRecord.read validators record.dump = some record := by
  have keys : onlyKeys kevRecordKeys record.dumpEntries = true := rfl
  have kevRecordId : required record.dumpEntries "kev_record_id" textOf = some record.kevRecordId :=
    required_eq rfl (textOf_string _)
  have cveId : required record.dumpEntries "cve_id" textOf = some record.cveId := required_eq rfl (textOf_string _)
  have vendorProject : required record.dumpEntries "vendor_project" textOf = some record.vendorProject :=
    required_eq rfl (textOf_string _)
  have product : required record.dumpEntries "product" textOf = some record.product := required_eq rfl (textOf_string _)
  have vulnerabilityName : required record.dumpEntries "vulnerability_name" textOf = some record.vulnerabilityName :=
    required_eq rfl (textOf_string _)
  have dateAdded : required record.dumpEntries "date_added" validators.date = some record.dateAdded :=
    required_eq rfl (reads.date _)
  have shortDescription : required record.dumpEntries "short_description" textOf = some record.shortDescription :=
    required_eq rfl (textOf_string _)
  have requiredAction : required record.dumpEntries "required_action" textOf = some record.requiredAction :=
    required_eq rfl (textOf_string _)
  have cisaDueDate : required record.dumpEntries "cisa_due_date" validators.date = some record.cisaDueDate :=
    required_eq rfl (reads.date _)
  have status : (required record.dumpEntries "ransomware_campaign_status" fun doc =>
      (stringOf doc).bind RansomwareCampaignStatus.ofText) = some record.ransomwareCampaignStatus :=
        required_eq rfl (ofText_text _)
  have notes : defaulted record.dumpEntries "notes" none (nullable textOf) = some record.notes :=
    defaulted_eq rfl (nullable_string _)
  have cwes : defaulted record.dumpEntries "cwes" [] (listOf textOf) = some record.cwes :=
    defaulted_eq rfl (listOf_strings _)
  rw [KevRecord.read, KevRecord.dump]
  generalize record.dumpEntries = entries at *
  apply Option.bind_eq_some_iff.mpr ⟨entries, rfl, _⟩
  apply Option.bind_eq_some_iff.mpr ⟨(), by rw [keys]; rfl, _⟩
  apply Option.bind_eq_some_iff.mpr ⟨_, kevRecordId, _⟩
  apply Option.bind_eq_some_iff.mpr ⟨_, cveId, _⟩
  apply Option.bind_eq_some_iff.mpr ⟨_, vendorProject, _⟩
  apply Option.bind_eq_some_iff.mpr ⟨_, product, _⟩
  apply Option.bind_eq_some_iff.mpr ⟨_, vulnerabilityName, _⟩
  apply Option.bind_eq_some_iff.mpr ⟨_, dateAdded, _⟩
  apply Option.bind_eq_some_iff.mpr ⟨_, shortDescription, _⟩
  apply Option.bind_eq_some_iff.mpr ⟨_, requiredAction, _⟩
  apply Option.bind_eq_some_iff.mpr ⟨_, cisaDueDate, _⟩
  apply Option.bind_eq_some_iff.mpr ⟨_, status, _⟩
  apply Option.bind_eq_some_iff.mpr ⟨_, notes, _⟩
  apply Option.bind_eq_some_iff.mpr ⟨_, cwes, _⟩
  exact settled.validate

theorem readSource_dump (sourceProvenance : String) : readSource (.object (dumpSourceEntries sourceProvenance)) =
    some sourceProvenance := by
  have keys : onlyKeys (sourceConstants.map (·.1) ++ ["provenance", "source_id"]) (dumpSourceEntries sourceProvenance) = true :=
    rfl
  have constants : (sourceConstants.all fun pair =>
      (required (dumpSourceEntries sourceProvenance) pair.1 (readConstant pair.2)).isSome) = true := rfl
  have id : required (dumpSourceEntries sourceProvenance) "source_id" (readConstant "cisa-kev-official") = some () := rfl
  have provenance : required (dumpSourceEntries sourceProvenance) "provenance" textOf = some sourceProvenance :=
    required_eq rfl (textOf_string _)
  rw [readSource, entriesOf]
  simp only [bind, Option.bind_some, keys, constants, guard, if_true, pure, id, provenance]

theorem read_dump (reads : validators.ReadsBack) {catalog : KevCatalog} (settled : ∀ record ∈ catalog.records, record.Settled)
    (provenance : boundedString 1 1000 catalog.sourceProvenance = some catalog.sourceProvenance)
    (version : boundedString 1 120 catalog.catalogVersion = some catalog.catalogVersion) :
    KevCatalog.read validators catalog.dump = some catalog := by
  have keys : onlyKeys ["schema_version", "source", "catalog_version", "catalog_date_released",
      "records"] catalog.dumpEntries = true := rfl
  have schema : required catalog.dumpEntries "schema_version" (readConstant kevSchemaVersion) = some () := rfl
  have source : required catalog.dumpEntries "source" readSource = some catalog.sourceProvenance :=
    required_eq rfl (readSource_dump _)
  have catalogVersion : required catalog.dumpEntries "catalog_version" textOf = some catalog.catalogVersion :=
    required_eq rfl (textOf_string _)
  have released : required catalog.dumpEntries "catalog_date_released" validators.datetime = some catalog.catalogDateReleased :=
    required_eq rfl (reads.datetime _)
  have records : required catalog.dumpEntries "records" (listOf (KevRecord.read validators)) = some catalog.records :=
    required_eq rfl <| mapM_map fun record member => read_dump_record reads (settled record member)
  have validated : KevCatalog.validate catalog.sourceProvenance catalog.catalogVersion catalog.catalogDateReleased catalog.records =
      some catalog := by
    rw [KevCatalog.validate, provenance, version]
    show KevCatalog.construct _ _ _ _ = _
    rw [KevCatalog.construct, dif_pos catalog.bounded, dif_pos catalog.ordered, dif_pos catalog.distinct]
  rw [KevCatalog.read, KevCatalog.dump]
  generalize catalog.dumpEntries = entries at *
  apply Option.bind_eq_some_iff.mpr ⟨entries, rfl, _⟩
  apply Option.bind_eq_some_iff.mpr ⟨(), by rw [keys]; rfl, _⟩
  apply Option.bind_eq_some_iff.mpr ⟨_, schema, _⟩
  apply Option.bind_eq_some_iff.mpr ⟨_, source, _⟩
  apply Option.bind_eq_some_iff.mpr ⟨_, catalogVersion, _⟩
  apply Option.bind_eq_some_iff.mpr ⟨_, released, _⟩
  apply Option.bind_eq_some_iff.mpr ⟨_, records, _⟩
  exact validated

end ReadBack

end OpenAssetWatch.Kev
