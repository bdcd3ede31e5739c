import OpenAssetWatch.Kev.CanonicalSize

namespace OpenAssetWatch.Kev

open Library Library.JsonText Text

section Documents

def RansomwareCampaignUse.text : RansomwareCampaignUse → String
  | .known => "Known"
  | .unknown => "Unknown"

/-- The fields of a source record as the source writes them, an absent one as null. -/
def CisaKevRecord.documentEntries (item : CisaKevRecord) : List (List Char × JsonDoc) :=
  [("cveID".toList, .string item.cveId.text),
    ("vendorProject".toList, .string item.vendorProject.text),
    ("product".toList, .string item.product.text),
    ("vulnerabilityName".toList, .string item.vulnerabilityName.text),
    ("dateAdded".toList, .string item.dateAdded.show),
    ("shortDescription".toList, .string item.shortDescription.text),
    ("requiredAction".toList, .string item.requiredAction.text),
    ("dueDate".toList, .string item.dueDate.show),
    ("knownRansomwareCampaignUse".toList, item.knownRansomwareCampaignUse.elim .null fun use => .string use.text.toList),
    ("notes".toList, item.notes.elim .null fun notes => .string notes.text),
    ("cwes".toList, .array (item.cwes.map fun cwe => .string cwe.text))]

def CisaKevRecord.document (item : CisaKevRecord) : JsonDoc := .object item.documentEntries

def CisaKevCatalog.documentEntries (source : CisaKevCatalog) (count : List Char) : List (List Char × JsonDoc) :=
  [("catalogVersion".toList, .string source.catalogVersion.text),
    ("dateReleased".toList, .string source.dateReleased.show),
    ("count".toList, .number count),
    ("vulnerabilities".toList, .array (source.vulnerabilities.map CisaKevRecord.document))]

/-- A source document; `count` is the literal of the number of its records. -/
def CisaKevCatalog.document (source : CisaKevCatalog) (count : List Char) : JsonDoc := .object (source.documentEntries count)

theorem readText_string {maximum limit : Nat} (text : PlainText maximum limit) : readText maximum limit
    (.string text.text) = some text :=
  text.of?_self

theorem readDate_string (date : Date) : readDate (.string date.show) = some date := parseDate_show date

theorem read_document_record (item : CisaKevRecord) : CisaKevRecord.read item.document = some item := by
  have keys : onlyKeys cisaRecordKeys item.documentEntries = true := rfl
  have cveId : (required item.documentEntries "cveID" fun doc => (stringOf doc).bind CveId.of?) = some item.cveId :=
    required_eq rfl item.cveId.of?_self
  have vendorProject : required item.documentEntries "vendorProject" (readText 500 maxKevText) = some item.vendorProject :=
    required_eq rfl (readText_string _)
  have product : required item.documentEntries "product" (readText 500 maxKevText) = some item.product :=
    required_eq rfl (readText_string _)
  have vulnerabilityName : required item.documentEntries "vulnerabilityName" (readText 1000 maxKevText) =
    some item.vulnerabilityName := required_eq rfl (readText_string _)
  have dateAdded : required item.documentEntries "dateAdded" readDate = some item.dateAdded := required_eq rfl (readDate_string _)
  have shortDescription : required item.documentEntries "shortDescription" (readText maxKevText maxKevText) =
    some item.shortDescription := required_eq rfl (readText_string _)
  have requiredAction : required item.documentEntries "requiredAction" (readText maxKevText maxKevText) =
    some item.requiredAction := required_eq rfl (readText_string _)
  have dueDate : required item.documentEntries "dueDate" readDate = some item.dueDate := required_eq rfl (readDate_string _)
  have campaign : defaulted item.documentEntries "knownRansomwareCampaignUse" none (nullable RansomwareCampaignUse.read) =
      some item.knownRansomwareCampaignUse := by
    apply defaulted_eq rfl
    rcases item.knownRansomwareCampaignUse with _ | _ | _ <;> rfl
  have notes : defaulted item.documentEntries "notes" none (nullable (readText maxKevNotes maxKevNotes)) = some item.notes := by
    apply defaulted_eq rfl
    cases item.notes with
    | none => rfl
    | some notes =>
      show (readText maxKevNotes maxKevNotes (.string notes.text)).map some = _
      rw [readText_string]
      rfl
  have cwes : defaulted item.documentEntries "cwes" [] (listOf fun doc => (stringOf doc).bind Cwe.of?) = some item.cwes :=
    defaulted_eq rfl (mapM_map fun cwe _ => cwe.of?_self)
  rw [CisaKevRecord.read, CisaKevRecord.document]
  generalize item.documentEntries = entries at *
  apply Option.bind_eq_some_iff.mpr ⟨entries, rfl, _⟩
  apply Option.bind_eq_some_iff.mpr ⟨(), by rw [keys]; rfl, _⟩
  apply Option.bind_eq_some_iff.mpr ⟨_, cveId, _⟩
  apply Option.bind_eq_some_iff.mpr ⟨_, vendorProject, _⟩
  apply Option.bind_eq_some_iff.mpr ⟨_, product, _⟩
  apply Option.bind_eq_some_iff.mpr ⟨_, vulnerabilityName, _⟩
  apply Option.bind_eq_some_iff.mpr ⟨_, dateAdded, _⟩
  apply Option.bind_eq_some_iff.mpr ⟨_, shortDescription, _⟩
  apply Option.bind_eq_some_iff.mpr ⟨_, requiredAction, _⟩
  apply Option.bind_eq_some_iff.mpr ⟨_, dueDate, _⟩
  apply Option.bind_eq_some_iff.mpr ⟨_, campaign, _⟩
  apply Option.bind_eq_some_iff.mpr ⟨_, notes, _⟩
  apply Option.bind_eq_some_iff.mpr ⟨_, cwes, _⟩
  exact dif_pos ⟨item.cwes_bounded, item.cwes_distinct⟩

variable {validators : Validators} {source : CisaKevCatalog} {count : List Char}

theorem read_document (counted : validators.int (.number count) = some source.vulnerabilities.length) :
    CisaKevCatalog.read validators (source.document count) = some source := by
  have keys : onlyKeys ["catalogVersion", "dateReleased", "count", "vulnerabilities"] (source.documentEntries count) = true := rfl
  have version : (required (source.documentEntries count) "catalogVersion" fun doc => (stringOf doc).bind (BoundedText.of? 120)) =
    some source.catalogVersion := required_eq rfl source.catalogVersion.of?_self
  have released : (required (source.documentEntries count) "dateReleased" fun doc => (stringOf doc).bind parseUtc) =
    some source.dateReleased := required_eq rfl (parseUtc_show _)
  have number : required (source.documentEntries count) "count" validators.int = some source.vulnerabilities.length :=
    required_eq rfl counted
  have records : required (source.documentEntries count) "vulnerabilities" (listOf CisaKevRecord.read) =
    some source.vulnerabilities := required_eq rfl (mapM_map fun item _ => read_document_record item)
  have range : (0 : Int) ≤ source.vulnerabilities.length ∧ (source.vulnerabilities.length : Int) ≤ maxKevRecords :=
    ⟨Int.natCast_nonneg _, Int.ofNat_le.mpr source.bounded⟩
  rw [CisaKevCatalog.read, CisaKevCatalog.document]
  generalize source.documentEntries count = entries at *
  apply Option.bind_eq_some_iff.mpr ⟨entries, rfl, _⟩
  apply Option.bind_eq_some_iff.mpr ⟨(), by rw [keys]; rfl, _⟩
  apply Option.bind_eq_some_iff.mpr ⟨_, version, _⟩
  apply Option.bind_eq_some_iff.mpr ⟨_, released, _⟩
  apply Option.bind_eq_some_iff.mpr ⟨_, number, _⟩
  apply Option.bind_eq_some_iff.mpr ⟨(), by rw [guard, if_pos range]; rfl, _⟩
  apply Option.bind_eq_some_iff.mpr ⟨_, records, _⟩
  exact dif_pos ⟨source.bounded, rfl, source.distinct⟩

theorem distinctKeys_document_record (item : CisaKevRecord) : distinctKeys item.document = true := by
  have campaign : distinctKeys (item.knownRansomwareCampaignUse.elim .null fun use => .string use.text.toList) = true := by
    cases item.knownRansomwareCampaignUse <;> rfl
  have notes : distinctKeys (item.notes.elim .null fun notes => .string notes.text) = true := by
    cases item.notes <;> rfl
  have keys : (item.documentEntries.map (·.1)).Nodup := by
    show (cisaRecordKeys.map String.toList).Nodup
    exact List.Nodup.map (fun _ _ same => String.toList_inj.mp same) (by decide)
  rw [CisaKevRecord.document, distinctKeys_object, decide_eq_true keys]
  simp [CisaKevRecord.documentEntries, campaign, notes, List.all_map]

theorem distinctKeys_document : distinctKeys (source.document count) = true := by
  have records : (source.vulnerabilities.map CisaKevRecord.document).all distinctKeys = true := by
    rw [List.all_map]
    exact List.all_eq_true.mpr fun item _ => distinctKeys_document_record item
  have keys : ((source.documentEntries count).map (·.1)).Nodup := by
    show (["catalogVersion", "dateReleased", "count", "vulnerabilities"].map String.toList).Nodup
    exact List.Nodup.map (fun _ _ same => String.toList_inj.mp same) (by decide)
  rw [CisaKevCatalog.document, distinctKeys_object, decide_eq_true keys]
  simp only [CisaKevCatalog.documentEntries, List.all_cons, List.all_nil, distinctKeys_string, distinctKeys_array,
    distinctKeys_number,
    records]
  rfl

theorem numberless_document_record (item : CisaKevRecord) : numberless item.document = true := by
  have campaign : numberless (item.knownRansomwareCampaignUse.elim .null fun use => .string use.text.toList) = true := by
    cases item.knownRansomwareCampaignUse <;> rfl
  have notes : numberless (item.notes.elim .null fun notes => .string notes.text) = true := by
    cases item.notes <;> rfl
  rw [CisaKevRecord.document, numberless_object]
  simp [CisaKevRecord.documentEntries, campaign, notes, List.all_map]

theorem parse_document (counted : validators.int (.number count) = some source.vulnerabilities.length) (number : IsNumber count)
    (ascii : count.all isAscii = true) {maximumBytes : Nat} (small : width (source.document count) ≤ maximumBytes)
    (shape : validJsonShape (source.document count) = true) :
    parseCisaKevBytes validators maximumBytes (dumpBytes (source.document count)) = some source := by
  have plain : (source.vulnerabilities.map CisaKevRecord.document).all numberless = true := by
    rw [List.all_map]
    exact List.all_eq_true.mpr fun item _ => numberless_document_record item
  have numbers : NumbersRead (source.document count) :=
    ⟨trivial, trivial, number, itemsRead_of_numberless _ plain, trivial⟩
  have asciiAll : asciiNumbers (source.document count) = true := by
    rw [CisaKevCatalog.document, asciiNumbers_object]
    simp only [CisaKevCatalog.documentEntries, List.all_cons, List.all_nil, asciiNumbers_array, asciiItems_of_numberless _ plain]
    show (true && (true && (count.all isAscii && _))) = true
    rw [ascii]
    rfl
  rw [parseCisaKevBytes, readBytes_dumpBytes numbers asciiAll distinctKeys_document, if_pos ⟨small, shape⟩, Option.bind_some,
    read_document counted]

theorem nodes_document_record (item : CisaKevRecord) : nodes item.document = 12 + item.cwes.length := by
  have campaign : nodes (item.knownRansomwareCampaignUse.elim .null fun use => .string use.text.toList) = 1 := by
    cases item.knownRansomwareCampaignUse <;> rfl
  have notes : nodes (item.notes.elim .null fun notes => .string notes.text) = 1 := by
    cases item.notes <;> rfl
  have cwes : ((item.cwes.map fun cwe => JsonDoc.string cwe.text).map nodes).sum = item.cwes.length := by
    rw [List.map_map]
    show (item.cwes.map fun _ => 1).sum = _
    rw [List.map_const', List.sum_replicate, smul_eq_mul, mul_one]
  rw [CisaKevRecord.document, nodes_object]
  simp only [CisaKevRecord.documentEntries, List.map_cons, List.map_nil, List.sum_cons, List.sum_nil, nodes_string, nodes_array,
    campaign, notes, cwes]
  omega

theorem nodes_document : nodes (source.document count) = 5 + (source.vulnerabilities.map fun item => 12 + item.cwes.length).sum := by
  have records : ((source.vulnerabilities.map CisaKevRecord.document).map nodes).sum =
      (source.vulnerabilities.map fun item => 12 + item.cwes.length).sum := by
    rw [List.map_map]
    exact congrArg List.sum (List.map_congr_left fun item _ => nodes_document_record item)
  rw [CisaKevCatalog.document, nodes_object]
  simp only [CisaKevCatalog.documentEntries, List.map_cons, List.map_nil, List.sum_cons, List.sum_nil, nodes_string, nodes_number,
    nodes_array, records]
  omega

theorem nesting_document_record (item : CisaKevRecord) : nesting item.document ≤ 3 := by
  have campaign : nesting (item.knownRansomwareCampaignUse.elim .null fun use => .string use.text.toList) = 1 := by
    cases item.knownRansomwareCampaignUse <;> rfl
  have notes : nesting (item.notes.elim .null fun notes => .string notes.text) = 1 := by
    cases item.notes <;> rfl
  have cwes : ((item.cwes.map fun cwe => JsonDoc.string cwe.text).map nesting).foldr max 0 ≤ 1 := by
    apply foldr_max_le
    intro depth member
    rw [List.map_map] at member
    obtain ⟨cwe, -, rfl⟩ := List.mem_map.mp member
    exact le_of_eq (nesting_string _)
  rw [CisaKevRecord.document, nesting_object]
  simp only [CisaKevRecord.documentEntries, List.map_cons, List.map_nil, List.foldr_cons, List.foldr_nil, nesting_string,
    nesting_array, campaign, notes]
  omega

theorem nesting_document : nesting (source.document count) ≤ maxJsonDepth := by
  have records : ((source.vulnerabilities.map CisaKevRecord.document).map nesting).foldr max 0 ≤ 3 := by
    apply foldr_max_le
    intro depth member
    rw [List.map_map] at member
    obtain ⟨item, -, rfl⟩ := List.mem_map.mp member
    exact nesting_document_record item
  rw [CisaKevCatalog.document, nesting_object]
  simp only [CisaKevCatalog.documentEntries, List.map_cons, List.map_nil, List.foldr_cons, List.foldr_nil, nesting_string,
    nesting_number, nesting_array, maxJsonDepth]
  omega

end Documents

section Samples

def sampleValidators : Validators where
  date := readDate
  datetime doc := (stringOf doc).bind parseUtc
  int
    | .number literal => if literal.all isDigit then some (number literal) else none
    | _ => none

theorem sampleValidators_readsBack : sampleValidators.ReadsBack := ⟨parseDate_show, parseUtc_show⟩

/-- Digits that tell the identifiers of the CVEs apart, filled up to 64. -/
def sampleDigits (text : List Char) : List Char :=
  ((text.drop 4).map (fun c => if isDigit c then c else 'b') ++ List.replicate 64 'a').take 64

def sampleDigest (data : ByteArray) : List Char := sampleDigits ((String.fromUTF8? data).elim [] String.toList)

theorem sampleDigest_hex : HexDigest sampleDigest := by
  intro data
  unfold sampleDigest sampleDigits
  generalize (String.fromUTF8? data).elim [] String.toList = text
  constructor
  · rw [List.length_take, List.length_append, List.length_replicate]
    omega
  · rw [List.all_eq_true]
    intro c member
    rcases List.mem_append.mp (List.mem_of_mem_take member) with mapped | filler
    · obtain ⟨d, -, rfl⟩ := List.mem_map.mp mapped
      split
      · rename_i digit
        rw [isHex, digit, Bool.true_or]
      · rfl
    · rw [List.eq_of_mem_replicate filler]
      rfl

theorem cve_tail (cve : CveId) : ∀ c ∈ cve.text.drop 4, isDigit c = true ∨ c = '-' := by
  have shaped := cve.shaped
  simp only [matchesCve, Bool.and_eq_true, decide_eq_true_eq, List.all_eq_true] at shaped
  obtain ⟨⟨⟨⟨⟨⟨-, -⟩, year⟩, dash⟩, rest⟩, -⟩, -⟩ := shaped
  intro c member
  rw [← List.take_append_drop 4 (cve.text.drop 4), List.mem_append, List.drop_drop] at member
  rcases member with inYear | member
  · exact .inl (year c inYear)
  rw [← List.take_append_drop 1 (cve.text.drop (4 + 4)), dash, List.mem_append, List.drop_drop] at member
  rcases member with isDash | inRest
  · exact .inr (List.mem_singleton.mp isDash)
  · exact .inl (rest c inRest)

theorem sampleDigest_distinct : DistinctDigests sampleDigest := by
  have digits (cve : CveId) : sampleDigest (encode cve.text) =
      (cve.text.drop 4).map (fun c => if isDigit c then c else 'b') ++ List.replicate (64 - (cve.text.length - 4)) 'a' := by
    have length := cve.length_range
    rw [sampleDigest, fromUTF8?_encode, Option.elim_some, String.toList_ofList, sampleDigits, List.take_append, List.length_map,
      List.length_drop, List.take_of_length_le (by rw [List.length_map, List.length_drop]; omega), List.take_replicate]
    congr 2
    omega
  have tail (cve : CveId) : ((sampleDigest (encode cve.text)).takeWhile (· != 'a')).map (fun c => if isDigit c then c else '-') =
      cve.text.drop 4 := by
    have here := cve_tail cve
    rw [digits]
    generalize cve.text.drop 4 = text at here ⊢
    have kept : ∀ c ∈ text.map (fun c => if isDigit c then c else 'b'), (c != 'a') = true := by
      intro c member
      obtain ⟨d, listed, rfl⟩ := List.mem_map.mp member
      rcases here d listed with digit | rfl
      · rw [if_pos digit, bne_iff_ne]
        intro same
        rw [same] at digit
        exact absurd digit (by decide)
      · rfl
    have filler : (List.replicate (64 - (cve.text.length - 4)) 'a').takeWhile (· != 'a') = [] := by
      rw [List.takeWhile_replicate]
      rfl
    rw [List.takeWhile_append_of_pos kept, filler, List.append_nil, List.map_map]
    apply (List.map_congr_left fun c listed => _).trans (List.map_id text)
    intro c listed
    show (if isDigit (if isDigit c then c else 'b') then _ else '-') = c
    rcases here c listed with digit | rfl
    · rw [if_pos digit, if_pos digit]
    · rfl
  have text (cve : CveId) : cve.text = ['C', 'V', 'E', '-'] ++ cve.text.drop 4 := by
    have shaped := cve.shaped
    simp only [matchesCve, Bool.and_eq_true, decide_eq_true_eq] at shaped
    rw [← shaped.1.1.1.1.1.1, List.take_append_drop]
  intro first second same
  have texts : first.text = second.text := by
    rw [text first, text second, ← tail first, ← tail second, same]
  obtain ⟨_, _⟩ := first
  cases texts
  rfl

def sampleCve (k : Nat) : CveId where
  text := ['C', 'V', 'E', '-', '2', '0', '2', '4', '-'] ++ showFour k
  shaped := by simp [matchesCve, showFour, isDigit_digit]; decide

def sampleCwe (k : Nat) : Cwe where
  text := ['C', 'W', 'E', '-'] ++ showTwo k
  shaped := by simp [matchesCwe, showTwo, isDigit_digit]

def sampleText {maximum limit : Nat} (roomy : 1 ≤ maximum ∧ 1 ≤ limit) : PlainText maximum limit where
  text := ['x']
  trimmed := by decide
  bounded := roomy.1
  plain := by simp [plainText, isControl, roomy.2]

theorem catalogYear_range : 1 ≤ 2024 ∧ 2024 ≤ 9999 := by decide

theorem catalogMonth_range : 1 ≤ 1 ∧ 1 ≤ 12 := by decide

theorem catalogDay_range : 1 ≤ 1 ∧ 1 ≤ daysInMonth 2024 1 := by decide

def catalogDate : Date := ⟨2024, 1, 1, catalogYear_range, catalogMonth_range, catalogDay_range⟩

theorem startOfDay_range (microsecond : Fin 1000000) : 0 < 24 ∧ 0 < 60 ∧ 0 < 60 ∧ (microsecond : Nat) < 1000000 :=
  ⟨by decide, by decide, by decide, microsecond.isLt⟩

/-- A record of the CVE with the number `k`, with `cwes` CWEs. -/
def sampleRecord (cwes : Fin 65) (k : Nat) : CisaKevRecord where
  cveId := sampleCve k
  vendorProject := sampleText (by decide)
  product := sampleText (by decide)
  vulnerabilityName := sampleText (by decide)
  dateAdded := catalogDate
  shortDescription := sampleText (by decide)
  requiredAction := sampleText (by decide)
  dueDate := catalogDate
  knownRansomwareCampaignUse := none
  notes := none
  cwes := (List.range cwes).map sampleCwe
  cwes_bounded := by
    rw [List.length_map, List.length_range]
    exact Nat.le_of_lt_succ cwes.isLt
  cwes_distinct := by
    apply (List.nodup_map_iff_inj_on List.nodup_range).mpr
    intro first inFirst second inSecond same
    have small := cwes.isLt
    rw [List.mem_range] at inFirst inSecond
    have texts : showTwo first = showTwo second := List.append_cancel_left (congrArg Cwe.text same)
    rw [← number_showTwo (by omega : first < 100), texts, number_showTwo (by omega)]

/-- A catalog of `size` such records. -/
def sampleCatalog (size : Fin 10000) (cwes : Fin 65) : CisaKevCatalog where
  catalogVersion := ⟨['1'], by decide, by decide, by decide⟩
  dateReleased := ⟨catalogDate, 0, 0, 0, (0 : Fin 1000000), startOfDay_range 0⟩
  vulnerabilities := (List.range size).map (sampleRecord cwes)
  bounded := by
    rw [List.length_map, List.length_range]
    exact le_of_lt size.isLt
  distinct := by
    rw [List.map_map]
    apply (List.nodup_map_iff_inj_on List.nodup_range).mpr
    intro first inFirst second inSecond same
    have small := size.isLt
    rw [List.mem_range] at inFirst inSecond
    have texts : showFour first = showFour second := List.append_cancel_left (String.ofList_injective same)
    rw [← number_showFour (by omega : first < 10000), texts, number_showFour (by omega)]

theorem width_sampleRecord (cwes : Fin 65) (k : Nat) : width (sampleRecord cwes k).document ≤ 1200 := by
  have text {maximum limit : Nat} (roomy : 1 ≤ maximum ∧ 1 ≤ limit) :
      escapedLength (sampleText roomy : PlainText maximum limit).text = 1 := rfl
  have cve : escapedLength (sampleCve k).text = 13 :=
    escapedLength_verbatim fun c member => (plain_cve (sampleCve k).shaped c member).verbatim
  have each (i : Nat) : width (.string (sampleCwe i).text) = 8 := by
    rw [width_string, escapedLength_verbatim fun c member => (plain_cwe (sampleCwe i).shaped c member).verbatim]
    rfl
  have cweSum : ((((List.range cwes).map sampleCwe).map fun cwe => JsonDoc.string cwe.text).map width).sum = 8 * cwes := by
    rw [List.map_map, List.map_map]
    show ((List.range cwes).map fun i => width (.string (sampleCwe i).text)).sum = _
    simp only [each, List.map_const', List.sum_replicate, List.length_range, smul_eq_mul, Nat.mul_comm]
  have keys : escapedLength "cveID".toList = 5 ∧ escapedLength "vendorProject".toList = 13 ∧ escapedLength "product".toList = 7 ∧
      escapedLength "vulnerabilityName".toList = 17 ∧ escapedLength "dateAdded".toList = 9 ∧
      escapedLength "shortDescription".toList = 16 ∧ escapedLength "requiredAction".toList = 14 ∧
      escapedLength "dueDate".toList = 7 ∧ escapedLength "knownRansomwareCampaignUse".toList = 26 ∧
      escapedLength "notes".toList = 5 ∧ escapedLength "cwes".toList = 4 :=
    ⟨rfl, rfl, rfl, rfl, rfl, rfl, rfl, rfl, rfl, rfl, rfl⟩
  obtain ⟨k1, k2, k3, k4, k5, k6, k7, k8, k9, k10, k11⟩ := keys
  have small := cwes.isLt
  rw [CisaKevRecord.document, width_object]
  simp only [CisaKevRecord.documentEntries, sampleRecord, List.map_cons, List.map_nil, List.sum_cons, List.sum_nil,
    List.length_cons,
    List.length_nil, width_string, width_array, width_null, escapedLength_showDate, Option.elim_none, text, cve, cweSum,
    List.length_map, List.length_range, k1, k2, k3, k4, k5, k6, k7, k8, k9, k10, k11]
  omega

theorem longest_sampleRecord (cwes : Fin 65) (k : Nat) : longest (sampleRecord cwes k).document ≤ 13 := by
  have cweMax : ((((List.range cwes).map sampleCwe).map fun cwe => JsonDoc.string cwe.text).map longest).foldr max 0 ≤ 13 := by
    apply foldr_max_le
    intro length member
    rw [List.map_map] at member
    obtain ⟨cwe, listed, rfl⟩ := List.mem_map.mp member
    obtain ⟨i, -, rfl⟩ := List.mem_map.mp listed
    exact (by decide : 6 ≤ 13)
  have text {maximum limit : Nat} (roomy : 1 ≤ maximum ∧ 1 ≤ limit) :
      (sampleText roomy : PlainText maximum limit).text.length = 1 := rfl
  have cve : (sampleCve k).text.length = 13 := rfl
  rw [CisaKevRecord.document, longest_object]
  simp only [CisaKevRecord.documentEntries, sampleRecord, List.map_cons, List.map_nil, List.foldr_cons, List.foldr_nil,
    longest_string,
    longest_array, longest_null, length_show_date, Option.elim_none, text, cve]
  omega

theorem sampleCatalog_accepted (size : Fin 10000) (cwes : Fin 65) {count : List Char}
    (counted : sampleValidators.int (.number count) = some ((size : Nat) : Int)) (digits : IsNumber count)
    (ascii : count.all isAscii = true) (fits : 5 + (size : Nat) * (12 + (cwes : Nat)) ≤ maxJsonNodes)
    (small : count.length + 200 + (size : Nat) * 1201 ≤ maxCisaKevBytes) :
    parseCisaKevBytes sampleValidators maxCisaKevBytes (dumpBytes ((sampleCatalog size cwes).document count)) =
      some (sampleCatalog size cwes) := by
  have length : (sampleCatalog size cwes).vulnerabilities.length = size := by
    show ((List.range size).map _).length = _
    rw [List.length_map, List.length_range]
  have widths : (((sampleCatalog size cwes).vulnerabilities.map CisaKevRecord.document).map width).sum ≤ (size : Nat) * 1200 := by
    show ((((List.range size).map (sampleRecord cwes)).map CisaKevRecord.document).map width).sum ≤ _
    rw [List.map_map, List.map_map]
    have all := List.sum_le_card_nsmul ((List.range size).map ((width ∘ CisaKevRecord.document) ∘ sampleRecord cwes)) 1200 (by
      intro value member
      obtain ⟨k, -, rfl⟩ := List.mem_map.mp member
      exact width_sampleRecord cwes k)
    rwa [List.length_map, List.length_range, smul_eq_mul] at all
  have nodeSum : ((sampleCatalog size cwes).vulnerabilities.map fun item => 12 + item.cwes.length).sum =
      (size : Nat) * (12 + (cwes : Nat)) := by
    show (((List.range size).map (sampleRecord cwes)).map fun item => 12 + item.cwes.length).sum = _
    have each (k : Nat) : (sampleRecord cwes k).cwes.length = cwes := by
      show ((List.range cwes).map _).length = _
      rw [List.length_map, List.length_range]
    rw [List.map_map]
    show ((List.range size).map fun k => 12 + (sampleRecord cwes k).cwes.length).sum = _
    simp only [each, List.map_const', List.sum_replicate, List.length_range, smul_eq_mul]
  have longestRecord : (((sampleCatalog size cwes).vulnerabilities.map CisaKevRecord.document).map longest).foldr max 0 ≤ 13 := by
    apply foldr_max_le
    intro value member
    rw [List.map_map] at member
    obtain ⟨item, listed, rfl⟩ := List.mem_map.mp member
    obtain ⟨k, -, rfl⟩ := List.mem_map.mp listed
    exact longest_sampleRecord cwes k
  have version : escapedLength (sampleCatalog size cwes).catalogVersion.text = 1 := rfl
  have released : (sampleCatalog size cwes).dateReleased.width = 20 := rfl
  have shown : (sampleCatalog size cwes).dateReleased.show.length = 20 := rfl
  have keys : escapedLength "catalogVersion".toList = 14 ∧ escapedLength "dateReleased".toList = 12 ∧
      escapedLength "count".toList = 5 ∧ escapedLength "vulnerabilities".toList = 15 := ⟨rfl, rfl, rfl, rfl⟩
  obtain ⟨k1, k2, k3, k4⟩ := keys
  apply parse_document
  · rw [length]
    exact counted
  · exact digits
  · exact ascii
  · rw [CisaKevCatalog.document, width_object]
    simp only [CisaKevCatalog.documentEntries, List.map_cons, List.map_nil, List.sum_cons, List.sum_nil, List.length_cons,
      List.length_nil, List.length_map, width_string, width_array, width_number, escapedLength_showUtc, version, released, length,
      k1, k2, k3, k4]
    omega
  · have nesting : nesting ((sampleCatalog size cwes).document count) ≤ maxJsonDepth := nesting_document
    have longest : longest ((sampleCatalog size cwes).document count) ≤ maxKevNotes := by
      rw [CisaKevCatalog.document, longest_object]
      simp only [CisaKevCatalog.documentEntries, List.map_cons, List.map_nil, List.foldr_cons, List.foldr_nil, longest_string,
        longest_array, longest_number, shown, maxKevNotes]
      have one : (sampleCatalog size cwes).catalogVersion.text.length = 1 := rfl
      omega
    rw [validJsonShape, decide_eq_true nesting, decide_eq_true longest, nodes_document, nodeSum, decide_eq_true fits]
    rfl

theorem canonicalNodes_sample (size : Fin 10000) (cwes : Fin 65) :
    (sampleCatalog size cwes).canonicalNodes = 12 + (size : Nat) * (13 + (cwes : Nat)) := by
  have each (k : Nat) : (sampleRecord cwes k).cwes.length = cwes := by
    show ((List.range cwes).map _).length = _
    rw [List.length_map, List.length_range]
  show 12 + (((List.range size).map (sampleRecord cwes)).map fun item => 13 + item.cwes.length).sum = _
  rw [List.map_map]
  show 12 + ((List.range size).map fun k => 13 + (sampleRecord cwes k).cwes.length).sum = _
  simp only [each, List.map_const', List.sum_replicate, List.length_range, smul_eq_mul]

/-- The canonical catalog of an accepted source is read back just when it keeps within the limits of size and of complexity. -/
theorem kev_catalog_closed_iff {sha256 : ByteArray → List Char} {validators : Validators} {source : CisaKevCatalog}
    (hex : HexDigest sha256) (distinct : DistinctDigests sha256) (reads : validators.ReadsBack)
    {maximumBytes : Nat} {data : ByteArray} (accepted : parseCisaKevBytes validators maximumBytes data = some source) :
    CanonicallyClosed sha256 validators source ↔
      source.canonicalSize ≤ maxCisaKevBytes ∧ source.canonicalNodes ≤ maxJsonNodes :=
  closed_iff hex distinct reads (short_cwes accepted)

/-- One record without CWEs. -/
theorem kev_catalog_closed_one : CanonicallyClosed sampleDigest sampleValidators (sampleCatalog ⟨1, by decide⟩ ⟨0, by decide⟩) :=
  (kev_catalog_closed_iff sampleDigest_hex sampleDigest_distinct sampleValidators_readsBack
    (sampleCatalog_accepted ⟨1, by decide⟩ ⟨0, by decide⟩ (by decide)
      (isNumber_of_digits (by decide) (by decide) (by simp) : IsNumber ['1']) (by decide) (by decide) (by decide))).mpr
    ⟨by decide, by decide⟩

/-- 2598 records of 64 CWEs each are accepted, but their canonical catalog holds too many values. -/
theorem too_many_nodes : ∃ data source, parseCisaKevBytes sampleValidators maxCisaKevBytes data = some source ∧
    ¬ CanonicallyClosed sampleDigest sampleValidators source := by
  have accepted := sampleCatalog_accepted ⟨2598, by decide⟩ ⟨64, by decide⟩ (by decide)
    (isNumber_of_digits (by decide) (by decide) (by simp [isDigit]) : IsNumber ['2', '5', '9', '8']) (by decide)
      (by decide) (by decide)
  refine ⟨_, _, accepted, ?_⟩
  rw [closed_iff sampleDigest_hex sampleDigest_distinct sampleValidators_readsBack (short_cwes accepted), canonicalNodes_sample]
  intro fits
  exact absurd fits.2 (by decide)

end Samples

end OpenAssetWatch.Kev
