import OpenAssetWatch.Sensor.HubAccepts

namespace OpenAssetWatch.Sensor

open Library Text Ingestion Component

section Texts

variable {printed : Json → String} {n : Nat}

theorem shortText_cons {value : Json} {text : String} (found : shortText printed n value = some text) (positive : 1 ≤ n) :
    ∃ c rest, text.toList = c :: rest ∧ isSpace c = false ∧ rest.length + 1 ≤ n := by
  unfold shortText at found
  obtain ⟨whole, clean, rfl⟩ := Option.map_eq_some_iff.mp found
  have stripped : ∃ inner, whole.toList = stripChars isSpace inner ∧ whole ≠ "" := by
    unfold cleanText at clean
    split at clean
    · cases clean
    · dsimp only at clean
      split at clean
      · cases clean
      · rename_i nonempty
        cases clean
        exact ⟨_, String.toList_ofList, nonempty⟩
  obtain ⟨inner, whole_eq, nonempty⟩ := stripped
  rw [String.toList_ofList, whole_eq]
  cases rest_eq : stripChars isSpace inner with
  | nil =>
    rw [rest_eq] at whole_eq
    exact absurd (String.toList_inj.mp (whole_eq.trans String.toList_empty.symm)) nonempty
  | cons c rest =>
    obtain ⟨m, rfl⟩ := Nat.exists_eq_succ_of_ne_zero (Nat.one_le_iff_ne_zero.mp positive)
    refine ⟨c, rest.take m, List.take_succ_cons, head_stripChars rest_eq, ?_⟩
    rw [List.length_take]
    omega

theorem contractText_shortText {value : Json} {text : String} (found : shortText printed n value = some text)
    (positive : 1 ≤ n) : isLong 1 n (contractText text) = true := by
  obtain ⟨c, rest, text_eq, solid, short⟩ := shortText_cons found positive
  have kept : isWhiteSpace c = false := by
    unfold isWhiteSpace
    rw [solid]
    rfl
  obtain ⟨others, stripped⟩ := stripChars_cons kept rest
  have shorter := length_stripChars_le isWhiteSpace (c :: rest)
  unfold contractText isLong
  rw [text_eq, stripped, String.length_ofList, List.length_cons]
  rw [stripped, List.length_cons, List.length_cons] at shorter
  rw [Bool.and_eq_true, decide_eq_true_eq, decide_eq_true_eq]
  omega

theorem isLong_mono {low : Nat} {text : String} (long : isLong low n text = true) : isLong 0 n text = true := by
  unfold isLong at long ⊢
  rw [Bool.and_eq_true, decide_eq_true_eq, decide_eq_true_eq] at long ⊢
  exact ⟨Nat.zero_le _, long.2⟩

theorem shortText_field (value : Json) (positive : 1 ≤ n) :
    ((shortText printed n value).map contractText).all (isLong 0 n) = true := by
  cases found : shortText printed n value with
  | none => rfl
  | some text =>
    rw [Option.map_some, Option.all_some]
    exact isLong_mono (contractText_shortText found positive)

theorem shortText_string {text : String} {c : Char} {rest : List Char} (begins : text.toList = c :: rest)
    (solid : isSpace c = false) : ∃ short, shortText printed n (.string text) = some short := by
  obtain ⟨others, stripped⟩ := stripChars_cons solid rest
  have nonempty : strip text ≠ "" := by
    unfold strip
    rw [begins, stripped]
    intro empty
    have lists := congrArg String.toList empty
    rw [String.toList_ofList, String.toList_empty] at lists
    cases lists
  refine ⟨String.ofList ((strip text).toList.take n), ?_⟩
  have clean : cleanText printed (.string text) = some (strip text) := if_neg nonempty
  rw [shortText, clean, Option.map_some]

end Texts

section Fits

theorem fits_string {text : String} {depth : Nat} (shallow : depth ≤ 10) (short : IsShort text) :
    fits depth (.string text) = true := by
  unfold fits
  rw [decide_eq_true shallow, decide_eq_true short]
  rfl

theorem fits_ofText {field : Option String} {depth : Nat} (shallow : depth ≤ 10) (short : ∀ text ∈ field, IsShort text) :
    fits depth (.ofText field) = true := by
  cases field with
  | none =>
    show fits depth .null = true
    unfold fits
    exact decide_eq_true shallow
  | some text => exact fits_string shallow (short text rfl)

theorem entriesFit_of {entries : List (String × Json)} {depth : Nat}
    (keys : (entries.map Prod.fst).all (isLong 1 128) = true) (values : ∀ entry ∈ entries, fits depth entry.2 = true) :
    entriesFit depth entries = true := by
  induction entries with
  | nil =>
    unfold entriesFit
    rfl
  | cons entry rest ih =>
    obtain ⟨key, value⟩ := entry
    rw [List.map_cons, List.all_cons, Bool.and_eq_true] at keys
    have here := values (key, value) List.mem_cons_self
    unfold entriesFit
    rw [keys.1, here, ih keys.2 fun entry member => values entry (List.mem_cons_of_mem _ member), Bool.or_true]
    rfl

theorem itemsFit_of {items : List Json} {depth : Nat} (each : ∀ item ∈ items, fits depth item = true) :
    itemsFit depth items = true := by
  induction items with
  | nil =>
    unfold itemsFit
    rfl
  | cons item rest ih =>
    unfold itemsFit
    rw [each item List.mem_cons_self, ih fun item member => each item (List.mem_cons_of_mem _ member)]
    rfl

theorem evidence_fits {evidence : ObservationEvidence} (admitted : EvidenceAdmitted evidence) : fits 2 evidence.dump = true := by
  have keys : ["protocol", "kind", "value", "confidence"].all (isLong 1 128) = true := by decide
  unfold ObservationEvidence.dump fits
  have values : ∀ entry ∈ [("protocol", Json.string evidence.protocol), ("kind", .string evidence.kind),
      ("value", .string evidence.value), ("confidence", .number evidence.confidence)], fits (2 + 1) entry.2 = true := by
    simp only [List.forall_mem_cons]
    exact ⟨fits_string (by norm_num) admitted.protocol, fits_string (by norm_num) admitted.kind,
      fits_string (by norm_num) admitted.value, rfl, fun entry member => absurd member List.not_mem_nil⟩
  rw [entriesFit_of]
  · rfl
  · exact keys
  · exact values

theorem asset_fits {asset : ObservationAsset} (admitted : AssetAdmitted asset) : fits 0 asset.dump = true := by
  have keys : ["asset_id", "hostname", "primary_ip", "mac", "os", "platform", "category", "evidence", "components",
      "component_inventory_complete"].all (isLong 1 128) = true := by decide
  have few := admitted.few
  have evidence : fits 1 (.array (asset.evidence.map (·.dump))) = true := by
    unfold fits
    have each : ∀ item ∈ asset.evidence.map (·.dump), fits (1 + 1) item = true := by
      intro item member
      obtain ⟨evidence, listed, rfl⟩ := List.mem_map.mp member
      exact evidence_fits (admitted.evidence evidence listed)
    rw [itemsFit_of each, List.length_map, decide_eq_true (few.trans (by norm_num))]
    rfl
  have text {field : Option String} (listed : field ∈ [asset.hostname, asset.primaryIp, asset.mac, asset.os, asset.platform,
      asset.category]) : fits 1 (.ofText field) = true := fits_ofText (by norm_num) (admitted.texts field listed)
  unfold ObservationAsset.dump fits
  rw [entriesFit_of]
  · rfl
  · exact keys
  · simp only [List.forall_mem_cons]
    refine ⟨fits_string (by norm_num) admitted.short, text (by simp), text (by simp), text (by simp), text (by simp),
      text (by simp), text (by simp), evidence, ?_, rfl, fun entry member => absurd member List.not_mem_nil⟩
    rw [admitted.components]
    rfl

theorem nodeCount_ofText (field : Option String) : nodeCount (.ofText field) = 1 := by
  cases field <;> rfl

theorem nodeCount_evidence (evidence : List ObservationEvidence) :
    itemNodeCount (evidence.map (·.dump)) = 5 * evidence.length := by
  induction evidence with
  | nil =>
    unfold itemNodeCount
    rfl
  | cons item rest ih =>
    rw [List.map_cons]
    unfold itemNodeCount
    rw [ih, List.length_cons]
    have five : nodeCount item.dump = 5 := rfl
    omega

theorem asset_nodeCount {asset : ObservationAsset} (admitted : AssetAdmitted asset) : nodeCount asset.dump ≤ 50000 := by
  have few := admitted.few
  have evidence : nodeCount (.array (asset.evidence.map (·.dump))) = 1 + 5 * asset.evidence.length := by
    rw [nodeCount, nodeCount_evidence]
  have components : nodeCount (.array (asset.components.map (·.dump))) = 1 := by
    rw [admitted.components]
    rfl
  have text (value : String) : nodeCount (.string value) = 1 := rfl
  have flag (value : Bool) : nodeCount (.bool value) = 1 := rfl
  unfold ObservationAsset.dump nodeCount
  simp only [entryCount, nodeCount_ofText, evidence, components, text, flag]
  omega

theorem asset_bounded {asset : ObservationAsset} (admitted : AssetAdmitted asset) : boundedJson asset.dump = .ok asset.dump := by
  have same : asset.withoutAuthority = asset := by
    unfold ObservationAsset.withoutAuthority
    have components := admitted.components
    cases asset
    subst components
    rfl
  rw [boundedJson_eq_ok, assetDump_withoutAuthority, same]
  exact ⟨asset_fits admitted, asset_nodeCount admitted, rfl⟩

end Fits

section Envelope

variable {printed : Json → String}

/-- A text of the hub's own is no longer than what it is cut to. -/
def IsCut (printed : Json → String) (n : Nat) (field : Option String) : Prop := ∃ value, field = shortText printed n value

theorem IsCut.field {n : Nat} {field : Option String} (cut : IsCut printed n field) (positive : 1 ≤ n) :
    (field.map contractText).all (isLong 0 n) = true := by
  obtain ⟨value, rfl⟩ := cut
  exact shortText_field value positive

theorem evidenceFrom_valid {evidence : ObservationEvidence} (admitted : EvidenceAdmitted evidence)
    {canonical : CanonicalEvidence} (found : evidenceFrom printed evidence.dump = some canonical) :
    canonical.stripped.fieldsValid = true := by
  have object : evidence.dump.isObject = true := rfl
  unfold evidenceFrom at found
  rw [if_pos object] at found
  obtain ⟨kind, kind_eq, found⟩ := Option.bind_eq_some_iff.mp found
  obtain ⟨value, value_eq, found⟩ := Option.bind_eq_some_iff.mp found
  rw [← Option.some.inj found]
  have kind := contractText_shortText kind_eq (by norm_num)
  have value := contractText_shortText value_eq (by norm_num)
  have confidence : reportedConfidence (evidence.dump.get "confidence") = evidence.confidence := rfl
  have protocol : isLong 1 64 (contractText ((shortText printed 64 (firstOf evidence.dump ["protocol", "method"])).getD
      "inventory")) = true := by
    cases named : shortText printed 64 (firstOf evidence.dump ["protocol", "method"]) with
    | none => decide
    | some text =>
      rw [Option.getD_some]
      exact contractText_shortText named (by norm_num)
  unfold CanonicalEvidence.fieldsValid CanonicalEvidence.stripped
  dsimp only
  rw [protocol, kind, value, confidence, decide_eq_true admitted.confidence.1, decide_eq_true admitted.confidence.2]
  rfl

structure Mapped (printed : Json → String) (asset : ObservationAsset) (made : CanonicalAsset) : Prop where
  assetId : isLong 1 160 (contractText made.assetId) = true
  hostname : IsCut printed 255 made.hostname
  primaryIp : IsCut printed 64 made.primaryIp
  mac : IsCut printed 64 made.mac
  os : IsCut printed 160 made.os
  platform : IsCut printed 160 made.platform
  category : IsCut printed 80 made.category
  evidence : made.evidence = ((asset.evidence.map (·.dump)).take 64).filterMap (evidenceFrom printed)
  components : made.components = []
  metadata : Json.object made.metadata = asset.dump

theorem assetFromMapping_of_admitted {asset : ObservationAsset} (admitted : AssetAdmitted asset) (index : Nat) :
    ∃ made, assetFromMapping printed asset.dump index = .ok made ∧ Mapped printed asset made := by
  have bounded := asset_bounded admitted
  have components : [("components", ComponentType.application), ("software", .application),
      ("packages", .operatingSystemPackage)].mapM (componentsUnder printed asset.dump) = .ok [[], [], []] := by
    have none_reported := admitted.components
    cases asset
    subst none_reported
    rfl
  unfold assetFromMapping
  refine ⟨_, bind_eq_ok.mpr ⟨_, bounded, require_bind_eq_ok.mpr ⟨rfl, bind_eq_ok.mpr ⟨_, components, rfl⟩⟩⟩, ?_⟩
  constructor
  · obtain ⟨c, rest, begins, solid⟩ := admitted.named
    have nonempty : asset.assetId ≠ "" := by
      intro empty
      rw [empty, String.toList_empty] at begins
      cases begins
    have named : asset.dump.get "asset_id" = .string asset.assetId := rfl
    have truthy : (Json.string asset.assetId).isTruthy = true := decide_eq_true nonempty
    obtain ⟨short, short_eq⟩ := @shortText_string printed 160 _ _ _ begins solid
    simp only [named, Json.orElse, truthy, if_true, short_eq, Option.getD_some]
    exact contractText_shortText short_eq (by norm_num)
  · exact ⟨_, rfl⟩
  · exact ⟨_, rfl⟩
  · exact ⟨_, rfl⟩
  · exact ⟨_, rfl⟩
  · exact ⟨_, rfl⟩
  · exact ⟨_, rfl⟩
  · rfl
  · rfl
  · rfl

theorem Mapped.few {asset : ObservationAsset} {made : CanonicalAsset} (mapped : Mapped printed asset made)
    (admitted : AssetAdmitted asset) : made.evidence.length ≤ 32 := by
  rw [mapped.evidence]
  refine (List.length_filterMap_le _ _).trans ((List.length_take_le' _ _).trans ?_)
  rw [List.length_map]
  exact admitted.few

theorem Mapped.evidenceValid {asset : ObservationAsset} {made : CanonicalAsset} (mapped : Mapped printed asset made)
    (admitted : AssetAdmitted asset) : ∀ canonical ∈ made.evidence, canonical.stripped.fieldsValid = true := by
  intro canonical member
  rw [mapped.evidence] at member
  obtain ⟨item, listed, found⟩ := List.mem_filterMap.mp member
  obtain ⟨original, own, item_eq⟩ := List.mem_map.mp (List.mem_of_mem_take listed)
  rw [← item_eq] at found
  exact evidenceFrom_valid (admitted.evidence original own) found

theorem Mapped.valid {asset : ObservationAsset} {made : CanonicalAsset} (mapped : Mapped printed asset made)
    (admitted : AssetAdmitted asset) : made.stripped.fieldsValid = true := by
  have few := mapped.few admitted
  have components : made.components.length ≤ 2000 := by
    rw [mapped.components]
    exact Nat.zero_le _
  have length : (made.evidence.map (·.stripped)).length ≤ 64 := by
    rw [List.length_map]
    exact few.trans (by norm_num)
  have evidence : (made.evidence.map (·.stripped)).all (·.fieldsValid) = true := by
    rw [List.all_eq_true]
    intro canonical member
    obtain ⟨original, listed, same⟩ := List.mem_map.mp member
    rw [← same]
    exact mapped.evidenceValid admitted original listed
  simp only [CanonicalAsset.fieldsValid, CanonicalAsset.stripped, Bool.and_eq_true]
  exact ⟨⟨⟨⟨⟨⟨⟨⟨⟨mapped.assetId, mapped.hostname.field (by norm_num)⟩, mapped.primaryIp.field (by norm_num)⟩,
    mapped.mac.field (by norm_num)⟩, mapped.os.field (by norm_num)⟩, mapped.platform.field (by norm_num)⟩,
    mapped.category.field (by norm_num)⟩, decide_eq_true length⟩, evidence⟩, decide_eq_true components⟩

theorem Mapped.kept {asset : ObservationAsset} {made : CanonicalAsset} (mapped : Mapped printed asset made) :
    Json.object (strippedKeys made.metadata) = asset.dump := by
  have entries := mapped.metadata
  unfold ObservationAsset.dump at entries ⊢
  rw [Json.object.inj entries]
  rfl

theorem canonicalAsset_of_admitted {asset : ObservationAsset} (admitted : AssetAdmitted asset) (index : Nat) :
    ∃ canonical, canonicalAsset printed asset.dump index = .ok canonical ∧ canonical.components = [] ∧
      canonical.evidence.length ≤ 32 := by
  obtain ⟨made, made_eq, mapped⟩ : ∃ made, assetFromMapping printed asset.dump index = .ok made ∧ Mapped printed asset made :=
    assetFromMapping_of_admitted admitted index
  have valid := mapped.valid admitted
  have bounded : boundedJson (.object (strippedKeys made.stripped.metadata)) = .ok asset.dump := by
    show boundedJson (.object (strippedKeys made.metadata)) = .ok asset.dump
    rw [mapped.kept]
    exact asset_bounded admitted
  unfold canonicalAsset
  refine ⟨_, bind_eq_ok.mpr ⟨made, made_eq, require_bind_eq_ok.mpr ⟨valid, bind_eq_ok.mpr ⟨_, bounded, rfl⟩⟩⟩, ?_, ?_⟩
  · exact mapped.components
  · show (made.evidence.map (·.stripped)).length ≤ 32
    rw [List.length_map]
    exact mapped.few admitted

end Envelope

end OpenAssetWatch.Sensor
