import OpenAssetWatch.Sensor.HubFields

namespace OpenAssetWatch.Sensor

open Library Text Ingestion Component

/-- A text that the filter of the hub lets pass. -/
abbrev IsShort (text : String) : Prop := text.length ≤ 2048

structure EvidenceAdmitted (evidence : ObservationEvidence) : Prop where
  protocol : IsShort evidence.protocol
  kind : IsShort evidence.kind
  value : IsShort evidence.value
  confidence : 0 ≤ evidence.confidence ∧ evidence.confidence ≤ 1

/-- What the contract of the hub makes of an asset of a sensor. -/
structure AssetAdmitted (asset : ObservationAsset) : Prop where
  named : ∃ c rest, asset.assetId.toList = c :: rest ∧ isSpace c = false
  short : IsShort asset.assetId
  texts : ∀ field ∈ [asset.hostname, asset.primaryIp, asset.mac, asset.os, asset.platform, asset.category],
    ∀ text ∈ field, IsShort text
  few : asset.evidence.length ≤ 32
  evidence : ∀ item ∈ asset.evidence, EvidenceAdmitted item
  components : asset.components = []

section Request

variable {name : String} {least most : Nat} {pattern : List Char → Bool} {text : List Char}

theorem contractField_length {field : String} (found : contractField name least most pattern text = .ok field) :
    field.length ≤ most := by
  unfold contractField at found
  obtain ⟨bounds, same⟩ := require_bind_eq_ok.mp found
  simp only [Bool.and_eq_true, decide_eq_true_eq] at bounds
  rw [← Except.ok.inj same, String.length_ofList]
  exact bounds.1.2

theorem optionalField_length {field : Option String} (found : optionalField name most text = .ok field) :
    ∀ value ∈ field, value.length ≤ most := by
  unfold optionalField at found
  split at found
  · cases found
    intro value absent
    cases absent
  · cases stripped : contractField name 0 most anyText text with
    | error error =>
      rw [stripped] at found
      cases found
    | ok value =>
      rw [stripped] at found
      cases found
      rintro value ⟨⟩
      exact contractField_length stripped

theorem protocol_field {value : GoString} (valid : validProtocol value = true) :
    ∃ field, contractField "protocol" 1 32 isProtocolText value.runes = .ok field := by
  have each : protocols.all (fun protocol =>
      (contractField "protocol" 1 32 isProtocolText protocol.toList).toOption.isSome) = true := by
    decide
  unfold validProtocol at valid
  obtain ⟨protocol, listed, same⟩ := List.any_eq_true.mp valid
  have accepted := List.all_eq_true.mp each protocol listed
  rw [of_decide_eq_true same]
  show ∃ field, contractField "protocol" 1 32 isProtocolText (GoString.ofChars protocol.toList).runes = .ok field
  rw [GoString.runes_ofChars]
  cases found : contractField "protocol" 1 32 isProtocolText protocol.toList with
  | error error =>
    rw [found] at accepted
    cases accepted
  | ok field => exact ⟨field, rfl⟩

theorem confidence_field (name : String) {confidence : Float64} {value : ℚ} (valid : confidence.isConfidence = true)
    (encoded : confidence.marshal = .ok value) : confidenceField name value = .ok value ∧ 0 ≤ value ∧ value ≤ 1 := by
  cases confidence with
  | finite x =>
    cases Except.ok.inj encoded
    simp only [Float64.isConfidence, Bool.and_eq_true, decide_eq_true_eq] at valid
    refine ⟨?_, valid⟩
    unfold confidenceField
    rw [require_bind_eq_ok, Bool.and_eq_true, decide_eq_true_eq, decide_eq_true_eq]
    exact ⟨valid, rfl⟩
  | infinite => cases encoded
  | notANumber => cases encoded

theorem evidenceRequest_of_valid {evidence : Evidence} {document : WireEvidence} (valid : evidence.validate = .ok ())
    (encoded : evidence.marshal = .ok document) : ∃ request, evidenceRequest document = .ok request ∧ EvidenceAdmitted request := by
  simp only [Evidence.validate, require_bind_eq_ok, require_eq_ok] at valid
  obtain ⟨protocol, kind, value, confidence⟩ := valid
  unfold Evidence.marshal at encoded
  obtain ⟨number, finite, encoded⟩ := bind_eq_ok.mp encoded
  cases encoded
  obtain ⟨field, named⟩ := protocol_field protocol
  obtain ⟨same, positive, small⟩ := confidence_field "confidence" confidence finite
  have kind := contractField_of_validText "kind" kind
  have value := contractField_of_validText "value" value
  refine ⟨_, bind_eq_ok.mpr ⟨field, named, bind_eq_ok.mpr ⟨_, kind, bind_eq_ok.mpr ⟨_, value, bind_eq_ok.mpr
    ⟨number, same, rfl⟩⟩⟩⟩, ?_⟩
  constructor
  · exact (contractField_length named).trans (by norm_num)
  · exact (contractField_length kind).trans (by norm_num)
  · exact (contractField_length value).trans (by norm_num)
  · exact ⟨positive, small⟩

theorem mapM_good {ε δ α β γ : Type} {f : α → Except ε β} {g : β → Except δ γ} {good : γ → Prop} {items : List α} {middle : List β}
    (encoded : items.mapM f = .ok middle) (each : ∀ item ∈ items, ∀ between, f item = .ok between →
      ∃ result, g between = .ok result ∧ good result) :
    ∃ results, middle.mapM g = .ok results ∧ results.length = items.length ∧ ∀ result ∈ results, good result := by
  have pairs := mapM_eq_ok.mp encoded
  clear encoded
  induction pairs with
  | nil => exact ⟨[], rfl, rfl, fun result member => absurd member List.not_mem_nil⟩
  | cons here _ ih =>
    obtain ⟨result, made, fine⟩ := each _ List.mem_cons_self _ here
    obtain ⟨results, others, length, rest⟩ := ih fun item member => each item (List.mem_cons_of_mem _ member)
    refine ⟨result :: results, ?_, ?_, ?_⟩
    · rw [List.mapM_cons]
      exact bind_eq_ok.mpr ⟨result, made, bind_eq_ok.mpr ⟨results, others, rfl⟩⟩
    · rw [List.length_cons, List.length_cons, length]
    · intro other member
      rcases List.mem_cons.mp member with rfl | later
      · exact fine
      · exact rest other later

theorem assetId_named {value : GoString} (valid : validText value least most = true) :
    ∃ c rest, (String.ofList (stripChars isWhiteSpace value.runes)).toList = c :: rest ∧ isSpace c = false := by
  obtain ⟨-, nonempty, printable⟩ := validText_iff.mp valid
  rw [String.toList_ofList]
  cases stripped : stripChars isWhiteSpace value.runes with
  | nil => exact absurd stripped nonempty
  | cons c rest =>
    refine ⟨c, rest, rfl, ?_⟩
    rw [stripped] at printable
    by_contra space
    rcases isSpace_of c (by simpa using space) with white | control
    · rw [head_stripChars stripped] at white
      cases white
    · rw [printable c List.mem_cons_self] at control
      cases control

theorem primaryIp_field {value : GoString} (valid : (decide (value = []) || isIP value.runes) = true) :
    ∃ field, optionalField "primary_ip" 64 value.runes = .ok field := by
  simp only [Bool.or_eq_true, decide_eq_true_eq] at valid
  rcases valid with rfl | parsed
  · exact ⟨none, rfl⟩
  · exact optionalField_of_short _ (isIP_length parsed)

theorem mac_field {value : GoString} (valid : (decide (value = []) || isMAC value.runes) = true) :
    ∃ field, optionalField "mac" 64 value.runes = .ok field := by
  simp only [Bool.or_eq_true, decide_eq_true_eq] at valid
  rcases valid with rfl | parsed
  · exact ⟨none, rfl⟩
  · exact optionalField_of_short _ ((isMAC_length parsed).trans (by norm_num))

theorem assetRequest_of_valid {asset : Asset} {document : WireAsset} (valid : asset.validate = .ok ())
    (encoded : asset.marshal = .ok document) : ∃ request, assetRequest document = .ok request ∧ AssetAdmitted request := by
  simp only [Asset.validate, require_bind_eq_ok] at valid
  obtain ⟨assetId, hostname, os, platform, category, primaryIp, mac, -, -, few, evidence⟩ := valid
  obtain ⟨_, each, -⟩ := bind_eq_ok.mp evidence
  unfold Asset.marshal at encoded
  obtain ⟨documents, listed, encoded⟩ := bind_eq_ok.mp encoded
  cases encoded
  obtain ⟨requests, made, length, admitted⟩ := mapM_good listed fun item member between written =>
    evidenceRequest_of_valid (forM_eq_ok.mp each item member) written
  have named := contractField_of_validText "asset_id" assetId
  obtain ⟨hostname, hostname_eq⟩ := optionalField_of_valid "hostname" hostname
  obtain ⟨primaryIp, primaryIp_eq⟩ := primaryIp_field primaryIp
  obtain ⟨mac, mac_eq⟩ := mac_field mac
  obtain ⟨os, os_eq⟩ := optionalField_of_valid "os" os
  obtain ⟨platform, platform_eq⟩ := optionalField_of_valid "platform" platform
  obtain ⟨category, category_eq⟩ := optionalField_of_valid "category" category
  have few : asset.evidence.length ≤ 32 := of_decide_eq_true few
  have written : documents.length ≤ 32 := by
    rw [← (mapM_eq_ok.mp listed).length_eq]
    exact few
  refine ⟨_, require_bind_eq_ok.mpr ⟨decide_eq_true written, bind_eq_ok.mpr ⟨_, named, bind_eq_ok.mpr ⟨_, hostname_eq,
    bind_eq_ok.mpr ⟨_, primaryIp_eq, bind_eq_ok.mpr ⟨_, mac_eq, bind_eq_ok.mpr ⟨_, os_eq, bind_eq_ok.mpr ⟨_, platform_eq,
    bind_eq_ok.mpr ⟨_, category_eq, bind_eq_ok.mpr ⟨requests, made, rfl⟩⟩⟩⟩⟩⟩⟩⟩⟩, ?_⟩
  constructor
  · exact assetId_named assetId
  · exact (contractField_length named).trans (by norm_num)
  · intro field member text held
    have bounded (bound : Nat) (small : bound ≤ 2048) (length : ∀ value ∈ field, value.length ≤ bound) : IsShort text :=
      (length text held).trans small
    simp only [List.mem_cons, List.not_mem_nil, or_false] at member
    rcases member with rfl | rfl | rfl | rfl | rfl | rfl
    · exact bounded 255 (by norm_num) (optionalField_length hostname_eq)
    · exact bounded 64 (by norm_num) (optionalField_length primaryIp_eq)
    · exact bounded 64 (by norm_num) (optionalField_length mac_eq)
    · exact bounded 160 (by norm_num) (optionalField_length os_eq)
    · exact bounded 160 (by norm_num) (optionalField_length platform_eq)
    · exact bounded 80 (by norm_num) (optionalField_length category_eq)
  · exact length.le.trans few
  · exact admitted
  · rfl

end Request

end OpenAssetWatch.Sensor
