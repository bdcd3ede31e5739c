import OpenAssetWatch.Library.Ranking
import OpenAssetWatch.Sensor.GoStrings
import OpenAssetWatch.Sensor.Wire

namespace OpenAssetWatch.Sensor

open Library

/-- What tells runes apart. -/
def Rune.code : Rune → Nat
  | .char c => 2 * c.toNat
  | .invalid byte => 2 * byte.toNat + 1

/-- Go compares strings by their bytes. The runes only tell apart what no two Go strings are: runes with the same bytes. -/
def goOrder (value : GoString) : List Nat ×ₗ List Nat := toLex (value.bytes.map UInt8.toNat, value.map Rune.code)

def Float64.order : Float64 → ℚ
  | .finite value => value
  | .infinite => 0
  | .notANumber => 0

/-- The order of the evidence of an asset: protocol, kind, value and confidence. -/
def Evidence.order (e : Evidence) : (List Nat ×ₗ List Nat) ×ₗ (List Nat ×ₗ List Nat) ×ₗ (List Nat ×ₗ List Nat) ×ₗ ℚ :=
  toLex (goOrder e.protocol, toLex (goOrder e.kind, toLex (goOrder e.value, e.confidence.order)))

def Asset.canonical (asset : Asset) : Asset :=
  { asset with evidence := asset.evidence.insertionSort fun left right => left.order ≤ right.order }

def canonicalAssets (assets : List Asset) : List Asset :=
  (assets.map Asset.canonical).insertionSort fun left right => goOrder left.assetId ≤ goOrder right.assetId

/-- The document whose digest identifies a batch. -/
structure IdentityDocument where
  sensorId : List Char
  observedAt : Rfc3339
  assets : List WireAsset
deriving DecidableEq

def GoTime.utc (t : GoTime) : GoTime := ⟨t.instant, 0⟩

/-- `BatchID`, with the digest of the document's text and its prefix. -/
def batchID (digest : IdentityDocument → GoString) (sensorId : GoString) (observedAt : GoTime) (assets : Option (List Asset)) :
    Except String GoString := do
  require (isIdentifier 1 160 isIdentifierChar sensorId)
    "sensor_id must be 1 to 160 characters using letters, digits, dot, underscore, colon, or hyphen"
  require (!observedAt.isZero) "observed_at is required"
  let some assets := assets
    | .error "assets must contain 0 to 500 entries"
  require (assets.length ≤ maxAssets) "assets must contain 0 to 500 entries"
  validateAssets [] assets
  let observedAt ← observedAt.utc.marshal
  let documents ← (canonicalAssets assets).mapM Asset.marshal
  return digest { sensorId := sensorId.runes, observedAt, assets := documents }

section Documents

/-- The document of an evidence, where its confidence is a number. -/
def Evidence.document (e : Evidence) : WireEvidence where
  protocol := e.protocol.runes
  kind := e.kind.runes
  value := e.value.runes
  confidence := e.confidence.order

def Asset.document (asset : Asset) : WireAsset where
  assetId := asset.assetId.runes
  hostname := asset.hostname.runes
  primaryIp := asset.primaryIp.runes
  mac := asset.mac.runes
  os := asset.os.runes
  platform := asset.platform.runes
  category := asset.category.runes
  evidence := asset.evidence.map Evidence.document

/-- What an asset is on the wire, whatever the order of its evidence. -/
def WireAsset.content (document : WireAsset) : WireAsset × Multiset WireEvidence := ({ document with evidence := [] }, document.evidence)

/-- What a list of assets is on the wire, whatever its order. -/
def contents (documents : List WireAsset) : Multiset (WireAsset × Multiset WireEvidence) := documents.map WireAsset.content

variable {e : Evidence} {asset other : Asset} {assets : List Asset}

theorem isConfidence_finite {confidence : Float64} (valid : confidence.isConfidence = true) :
    ∃ value, confidence = .finite value := by
  cases confidence with
  | finite value => exact ⟨value, rfl⟩
  | infinite => cases valid
  | notANumber => cases valid

theorem Evidence.validate_finite (valid : e.validate = .ok ()) : ∃ value, e.confidence = .finite value := by
  simp only [Evidence.validate, require_bind_eq_ok, require_eq_ok] at valid
  exact isConfidence_finite valid.2.2.2

theorem Evidence.marshal_document (valid : e.validate = .ok ()) : e.marshal = .ok e.document := by
  obtain ⟨value, same⟩ := Evidence.validate_finite valid
  rw [Evidence.marshal, Evidence.document, same]
  rfl

theorem Asset.validate_evidence (valid : asset.validate = .ok ()) : ∀ e ∈ asset.evidence, e.validate = .ok () := by
  simp only [Asset.validate, require_bind_eq_ok] at valid
  obtain ⟨-, -, -, -, -, -, -, -, -, -, evidence⟩ := valid
  obtain ⟨_, each, -⟩ := bind_eq_ok.mp evidence
  exact forM_eq_ok.mp each

theorem Asset.validate_reordered {evidence : List Evidence} (valid : asset.validate = .ok ()) (perm : asset.evidence.Perm evidence) :
    Asset.validate { asset with evidence } = .ok () := by
  have each := Asset.validate_evidence valid
  simp only [Asset.validate, require_bind_eq_ok] at valid ⊢
  obtain ⟨assetId, hostname, os, platform, category, primaryIp, mac, vlanId, protocols, few, rest⟩ := valid
  obtain ⟨_, -, known⟩ := bind_eq_ok.mp rest
  refine ⟨assetId, hostname, os, platform, category, primaryIp, mac, vlanId, protocols, ?_, bind_eq_ok.mpr ⟨(), ?_, known⟩⟩
  · rw [← perm.length_eq]
    exact few
  · exact forM_eq_ok.mpr fun e member => each e (perm.mem_iff.mpr member)

theorem mapM_documents {α β : Type} {items : List α} {f : α → Except String β} {g : α → β} (each : ∀ item ∈ items, f item = .ok (g item)) :
    items.mapM f = .ok (items.map g) := by
  apply mapM_eq_ok.mpr
  induction items with
  | nil => exact .nil
  | cons item rest ih => exact .cons (each item List.mem_cons_self) (ih fun other member => each other (List.mem_cons_of_mem _ member))

theorem Asset.marshal_document (valid : asset.validate = .ok ()) : asset.marshal = .ok asset.document := by
  have evidence := mapM_documents fun e member => Evidence.marshal_document (Asset.validate_evidence valid e member)
  rw [Asset.marshal, evidence]
  rfl

theorem validateAssets_iff (seen : List GoString) (assets : List Asset) :
    validateAssets seen assets = .ok () ↔
      (∀ asset ∈ assets, asset.validate = .ok ()) ∧ (assets.map Asset.assetId).Nodup ∧ ∀ asset ∈ assets, asset.assetId ∉ seen := by
  induction assets generalizing seen with
  | nil => exact ⟨fun _ => ⟨nofun, List.nodup_nil, nofun⟩, fun _ => rfl⟩
  | cons asset rest ih =>
    rw [validateAssets, then_eq_ok, require_bind_eq_ok, ih, List.forall_mem_cons, List.map_cons, List.nodup_cons, List.forall_mem_cons,
      Bool.not_eq_true', List.contains_eq_mem, decide_eq_false_iff_not]
    constructor
    · rintro ⟨valid, fresh, others, distinct, apart⟩
      refine ⟨⟨valid, others⟩, ⟨fun member => ?_, distinct⟩, fresh, fun other member inside => ?_⟩
      · obtain ⟨other, among, same⟩ := List.mem_map.mp member
        exact apart other among (same ▸ List.mem_cons_self)
      · exact apart other member (List.mem_cons_of_mem _ inside)
    · rintro ⟨⟨valid, others⟩, ⟨fresh, distinct⟩, unseen, apart⟩
      refine ⟨valid, unseen, others, distinct, fun other member inside => ?_⟩
      rcases List.mem_cons.mp inside with same | before
      · exact fresh (List.mem_map.mpr ⟨other, member, same⟩)
      · exact apart other member before

end Documents

section Orders

theorem Rune.code_injective : Function.Injective Rune.code := by
  intro left right same
  cases left <;> cases right <;> simp only [Rune.code] at same
  · exact congrArg Rune.char (Char.toNat_inj.mp (by omega))
  · omega
  · omega
  · exact congrArg Rune.invalid (UInt8.toNat_inj.mp (by omega))

theorem goOrder_injective : Function.Injective goOrder := fun _ _ same =>
  List.map_injective_iff.mpr Rune.code_injective (Prod.mk.inj (toLex_inj.mp same)).2

theorem Evidence.order_injective {left right : Evidence} (first : ∃ value, left.confidence = .finite value)
    (second : ∃ value, right.confidence = .finite value) (same : left.order = right.order) : left = right := by
  obtain ⟨protocol, kind, value, confidence⟩ := left
  obtain ⟨protocol', kind', value', confidence'⟩ := right
  obtain ⟨p, rfl⟩ := first
  obtain ⟨q, rfl⟩ := second
  obtain ⟨protocols, rest⟩ := Prod.mk.inj (toLex_inj.mp same)
  obtain ⟨kinds, rest⟩ := Prod.mk.inj (toLex_inj.mp rest)
  obtain ⟨values, confidences⟩ := Prod.mk.inj (toLex_inj.mp rest)
  cases goOrder_injective protocols
  cases goOrder_injective kinds
  cases goOrder_injective values
  cases (confidences : p = q)
  rfl

theorem insertionSort_eq_of_perm {α β : Type*} [LinearOrder β] {key : α → β} {items other : List α}
    (distinct : ∀ a ∈ items, ∀ b ∈ items, key a = key b → a = b) (perm : items.Perm other) :
    (items.insertionSort fun a b => key a ≤ key b) = other.insertionSort fun a b => key a ≤ key b := by
  have dual : ∀ a ∈ items, ∀ b ∈ items, OrderDual.toDual (key a) = OrderDual.toDual (key b) → a = b :=
    fun a here b there same => distinct a here b there (OrderDual.toDual_inj.mp same)
  exact sortedDescending_eq_of_perm dual perm

/-- The assets with the evidence of each in any order, in any order. -/
def Reordered (assets other : List Asset) : Prop :=
  ∃ middle, List.Forall₂ (fun asset shuffled => asset.evidence.Perm shuffled.evidence ∧ shuffled = { asset with evidence := shuffled.evidence })
    assets middle ∧ middle.Perm other

variable {assets other : List Asset} {asset : Asset}

theorem canonical_reordered (valid : asset.validate = .ok ()) {evidence : List Evidence} (perm : asset.evidence.Perm evidence) :
    Asset.canonical { asset with evidence } = asset.canonical := by
  have finite := fun e member => Evidence.validate_finite (Asset.validate_evidence valid e member)
  have sorted := insertionSort_eq_of_perm (fun a here b there => Evidence.order_injective (finite a here) (finite b there)) perm
  rw [Asset.canonical, Asset.canonical, ← sorted]

theorem Reordered.valid (reordered : Reordered assets other) (valid : validateAssets [] assets = .ok ()) :
    validateAssets [] other = .ok () := by
  obtain ⟨middle, shuffled, perm⟩ := reordered
  obtain ⟨each, distinct, -⟩ := (validateAssets_iff [] assets).mp valid
  have ids : middle.map Asset.assetId = assets.map Asset.assetId := by
    clear perm valid each distinct
    induction shuffled with
    | nil => rfl
    | cons here _ ih =>
      rw [List.map_cons, List.map_cons, ih, here.2]
  refine (validateAssets_iff [] other).mpr ⟨fun asset member => ?_, ?_, fun _ _ => List.not_mem_nil⟩
  · obtain ⟨original, among, same, eq⟩ := exists_left_of_forall₂ shuffled (perm.mem_iff.mpr member)
    rw [eq]
    exact Asset.validate_reordered (each original among) same
  · rw [← (perm.map Asset.assetId).nodup_iff, ids]
    exact distinct

theorem Reordered.canonicalAssets_eq (reordered : Reordered assets other) (valid : validateAssets [] assets = .ok ()) :
    canonicalAssets other = canonicalAssets assets := by
  obtain ⟨middle, shuffled, perm⟩ := reordered
  obtain ⟨each, distinct, -⟩ := (validateAssets_iff [] assets).mp valid
  have same : middle.map Asset.canonical = assets.map Asset.canonical := by
    clear perm valid distinct
    induction shuffled with
    | nil => rfl
    | cons here _ ih =>
      rw [List.map_cons, List.map_cons, ih fun other member => each other (List.mem_cons_of_mem _ member), here.2,
        canonical_reordered (each _ List.mem_cons_self) here.1]
  have ids : (assets.map Asset.canonical).map Asset.assetId = assets.map Asset.assetId := by
    rw [List.map_map]
    rfl
  rw [← ids] at distinct
  rw [canonicalAssets, canonicalAssets, ← same]
  refine (insertionSort_eq_of_perm ?_ (perm.map Asset.canonical)).symm
  rw [same]
  intro a here b there tied
  exact List.inj_on_of_nodup_map distinct here there (goOrder_injective tied)

end Orders

section Identity

variable {digest : IdentityDocument → GoString} {sensorId id : GoString} {observedAt : GoTime} {assets : List Asset}

theorem canonicalAssets_perm (assets : List Asset) : (canonicalAssets assets).Perm (assets.map Asset.canonical) := List.perm_insertionSort _ _

theorem canonicalAssets_valid (valid : ∀ asset ∈ assets, asset.validate = .ok ()) :
    ∀ asset ∈ canonicalAssets assets, asset.validate = .ok () := by
  intro asset member
  obtain ⟨original, among, rfl⟩ := List.mem_map.mp ((canonicalAssets_perm assets).mem_iff.mp member)
  exact Asset.validate_reordered (valid original among) (List.perm_insertionSort _ _).symm

theorem batchID_eq_ok : batchID digest sensorId observedAt (some assets) = .ok id ↔
    isIdentifier 1 160 isIdentifierChar sensorId = true ∧ observedAt.isZero = false ∧ assets.length ≤ maxAssets ∧
      validateAssets [] assets = .ok () ∧ ∃ clock, observedAt.utc.marshal = .ok clock ∧
        id = digest { sensorId := sensorId.runes, observedAt := clock, assets := (canonicalAssets assets).map Asset.document } := by
  simp only [batchID, require_bind_eq_ok, Bool.not_eq_true', decide_eq_true_eq]
  rw [then_eq_ok]
  simp only [bind_eq_ok]
  constructor
  · rintro ⟨sensor, timed, few, valid, clock, encoded, documents, listed, made⟩
    obtain ⟨each, -, -⟩ := (validateAssets_iff [] assets).mp valid
    rw [mapM_documents fun asset member => Asset.marshal_document (canonicalAssets_valid each asset member)] at listed
    cases listed
    exact ⟨sensor, timed, few, valid, clock, encoded, (Except.ok.inj made).symm⟩
  · rintro ⟨sensor, timed, few, valid, clock, encoded, rfl⟩
    obtain ⟨each, -, -⟩ := (validateAssets_iff [] assets).mp valid
    exact ⟨sensor, timed, few, valid, clock, encoded, _,
      mapM_documents fun asset member => Asset.marshal_document (canonicalAssets_valid each asset member), rfl⟩

theorem content_canonical (asset : Asset) : asset.canonical.document.content = asset.document.content := by
  refine Prod.ext rfl (Multiset.coe_eq_coe.mpr ?_)
  exact (List.perm_insertionSort _ _).map Evidence.document

theorem contents_canonical (assets : List Asset) :
    contents ((canonicalAssets assets).map Asset.document) = contents (assets.map Asset.document) := by
  apply Multiset.coe_eq_coe.mpr
  rw [List.map_map, List.map_map]
  refine ((canonicalAssets_perm assets).map _).trans (List.Perm.of_eq ?_)
  rw [List.map_map]
  exact List.map_congr_left fun asset _ => content_canonical asset

theorem identifier_chars {class_ : Char → Bool} {least most : Nat} {value : GoString} (allowed : isIdentifier least most class_ value = true)
    (known : class_ (Char.ofNat 0xFFFD) = false) : GoString.ofChars value.runes = value := by
  have each := (Bool.and_eq_true_iff.mp allowed).2
  rw [List.all_eq_true] at each
  rw [GoString.ofChars, GoString.runes, List.map_map]
  refine (List.map_congr_left fun rune member => ?_).trans (List.map_id value)
  cases rune with
  | char c => rfl
  | invalid byte => cases known.symm.trans (each _ member)

theorem utc_marshal {clock : Rfc3339} (encoded : observedAt.utc.marshal = .ok clock) : clock.clock = observedAt.instant := by
  simp only [GoTime.marshal, require_bind_eq_ok, GoTime.utc] at encoded
  obtain ⟨-, -, made⟩ := encoded
  cases made
  show observedAt.instant + 0 * second = observedAt.instant
  rw [zero_mul, add_zero]

theorem batchID_reordered {other : List Asset} (made : batchID digest sensorId observedAt (some assets) = .ok id)
    (reordered : Reordered assets other) : batchID digest sensorId observedAt (some other) = .ok id := by
  obtain ⟨sensor, timed, few, valid, clock, encoded, rfl⟩ := batchID_eq_ok.mp made
  have length : other.length = assets.length := by
    obtain ⟨middle, shuffled, perm⟩ := reordered
    rw [← perm.length_eq, shuffled.length_eq]
  refine batchID_eq_ok.mpr ⟨sensor, timed, length ▸ few, reordered.valid valid, clock, encoded, ?_⟩
  rw [reordered.canonicalAssets_eq valid]

/-- Under a digest without collisions the identifier of a batch is that of its sensor, its time and its assets on the wire, and
    does not depend on the order of assets and evidence. -/
theorem batch_identity (digest : IdentityDocument → GoString) (collisionFree : Function.Injective digest) :
    (∀ sensorId observedAt assets other id, batchID digest sensorId observedAt (some assets) = .ok id → Reordered assets other →
      batchID digest sensorId observedAt (some other) = .ok id) ∧
    ∀ sensorId sensorId' observedAt observedAt' assets assets' id,
      batchID digest sensorId observedAt (some assets) = .ok id → batchID digest sensorId' observedAt' (some assets') = .ok id →
      sensorId = sensorId' ∧ observedAt.instant = observedAt'.instant ∧
        ∃ documents documents', assets.mapM Asset.marshal = .ok documents ∧ assets'.mapM Asset.marshal = .ok documents' ∧
          contents documents = contents documents' := by
  refine ⟨fun _ _ _ _ _ made reordered => batchID_reordered made reordered, ?_⟩
  intro sensorId sensorId' observedAt observedAt' assets assets' id made made'
  obtain ⟨sensor, -, -, valid, clock, encoded, rfl⟩ := batchID_eq_ok.mp made
  obtain ⟨sensor', -, -, valid', clock', encoded', same⟩ := batchID_eq_ok.mp made'
  obtain ⟨sensors, clocks, documents⟩ := IdentityDocument.mk.inj (collisionFree same)
  have replaced : isIdentifierChar (Char.ofNat 0xFFFD) = false := by decide
  refine ⟨?_, ?_, assets.map Asset.document, assets'.map Asset.document, ?_, ?_, ?_⟩
  · rw [← identifier_chars sensor replaced, sensors, identifier_chars sensor' replaced]
  · rw [← utc_marshal encoded, clocks, utc_marshal encoded']
  · exact mapM_documents fun asset member => Asset.marshal_document (((validateAssets_iff [] assets).mp valid).1 asset member)
  · exact mapM_documents fun asset member => Asset.marshal_document (((validateAssets_iff [] assets').mp valid').1 asset member)
  · rw [← contents_canonical assets, documents, contents_canonical]

end Identity

section Samples

/-- What a document consists of, as lists of numbers. -/
def IdentityDocument.parts (document : IdentityDocument) :
    List ℕ × (ℤ × Option ℤ) × List (List (List ℕ) × List (List (List ℕ) × ℚ)) :=
  let text (chars : List Char) : List ℕ := chars.map Char.toNat
  (text document.sensorId, (document.observedAt.clock, document.observedAt.zone), document.assets.map fun asset =>
    ([text asset.assetId, text asset.hostname, text asset.primaryIp, text asset.mac, text asset.os, text asset.platform,
      text asset.category], asset.evidence.map fun e => ([text e.protocol, text e.kind, text e.value], e.confidence)))

/-- A digest without collisions. -/
def numberedDigest (document : IdentityDocument) : GoString :=
  GoString.ofText "oaw:" ++ GoString.ofChars (Nat.toDigits 10 (Encodable.encode document.parts))

theorem parts_injective : Function.Injective IdentityDocument.parts := by
  have text {left right : List Char} (same : left.map Char.toNat = right.map Char.toNat) : left = right :=
    List.map_injective_iff.mpr (fun _ _ => Char.toNat_inj.mp) same
  rintro ⟨sensorId, ⟨clock, zone⟩, assets⟩ ⟨sensorId', ⟨clock', zone'⟩, assets'⟩ same
  simp only [IdentityDocument.parts, Prod.mk.injEq] at same
  obtain ⟨sensors, ⟨rfl, rfl⟩, each⟩ := same
  cases text sensors
  congr 1
  refine List.map_injective_iff.mpr ?_ each
  rintro ⟨a, b, c, d, e, f, g, evidence⟩ ⟨a', b', c', d', e', f', g', evidence'⟩ same
  simp only [Prod.mk.injEq, List.cons.injEq, and_true] at same
  obtain ⟨⟨ha, hb, hc, hd, he, hf, hg⟩, items⟩ := same
  cases text ha
  cases text hb
  cases text hc
  cases text hd
  cases text he
  cases text hf
  cases text hg
  congr 1
  refine List.map_injective_iff.mpr ?_ items
  rintro ⟨p, k, v, confidence⟩ ⟨p', k', v', confidence'⟩ same
  simp only [Prod.mk.injEq, List.cons.injEq, and_true] at same
  obtain ⟨⟨hp, hk, hv⟩, rfl⟩ := same
  cases text hp
  cases text hk
  cases text hv
  rfl

theorem numberedDigest_injective : Function.Injective numberedDigest := by
  intro left right same
  have digits := List.append_cancel_left same
  have digits := congrArg GoString.runes digits
  rw [GoString.runes_ofChars, GoString.runes_ofChars] at digits
  have numbers := congrArg (Nat.ofDigitChars 10 · 0) digits
  simp only [Nat.ofDigitChars_ten_toDigits] at numbers
  exact parts_injective (Encodable.encode_injective numbers)

/-- A batch of two assets, the first with two pieces of evidence. -/
def sampleAssets : List Asset :=
  let evidence (value : String) : Evidence :=
    { protocol := .ofText "arp", kind := .ofText "reply", value := .ofText value, confidence := .finite 1 }
  [{ assetId := .ofText "mac-02005e100001", evidence := [evidence "192.0.2.11", evidence "192.0.2.10"] },
    { assetId := .ofText "mac-02005e100002" }]

def sampleBatch (siteId : String) : Batch where
  schemaVersion := .ofText schemaVersion
  observationBatchId := .ofText "oaw:0123456789abcdef"
  siteId := .ofText siteId
  sensorId := .ofText "sensor"
  sensorName := .ofText "sensor"
  sensorType := .ofText "passive-network-sensor"
  observedAt := ⟨63_900_000_000 * second, 0⟩
  observationSource := .ofText "passive-network"
  deliveryState := .ofText "live"
  confidence := .finite 1
  assets := some sampleAssets

/-- The identifier of a batch by its sensor, time and assets. -/
def Batch.identity (digest : IdentityDocument → GoString) (b : Batch) : Except String GoString :=
  batchID digest b.sensorId b.observedAt b.assets

theorem identity_sampleBatch (digest : IdentityDocument → GoString) (siteId : String) :
    (sampleBatch siteId).identity digest = batchID digest (.ofText "sensor") ⟨63_900_000_000 * second, 0⟩ (some sampleAssets) := rfl

theorem sample_identity :
    ∃ id, batchID numberedDigest (.ofText "sensor") ⟨63_900_000_000 * second, 0⟩ (some sampleAssets) = .ok id := by
  have sensor : isIdentifier 1 160 isIdentifierChar (.ofText "sensor") = true := by decide
  have few : sampleAssets.length ≤ maxAssets := by decide
  have valid : validateAssets [] sampleAssets = .ok () := by decide
  have timed : GoTime.isZero ⟨63_900_000_000 * second, 0⟩ = false := by decide
  have encoded : GoTime.marshal (GoTime.utc ⟨63_900_000_000 * second, 0⟩) = .ok ⟨63_900_000_000 * second, none⟩ := by decide
  exact ⟨_, batchID_eq_ok.mpr ⟨sensor, timed, few, valid, _, encoded, rfl⟩⟩

/-- Batches of two sites have one identifier. -/
theorem identity_without_site :
    (sampleBatch "site-a").validate = .ok () ∧ (sampleBatch "site-b").validate = .ok () ∧
      (sampleBatch "site-a").siteId ≠ (sampleBatch "site-b").siteId ∧
      (∃ id, (sampleBatch "site-a").identity numberedDigest = .ok id ∧ (sampleBatch "site-b").identity numberedDigest = .ok id) := by
  refine ⟨by decide, by decide, by decide, ?_⟩
  rw [identity_sampleBatch, identity_sampleBatch]
  obtain ⟨id, made⟩ := sample_identity
  exact ⟨id, made, made⟩

theorem batch_identity_sample :
    ∃ id, batchID numberedDigest (.ofText "sensor") ⟨63_900_000_000 * second, 0⟩ (some sampleAssets) = .ok id ∧
      batchID numberedDigest (.ofText "sensor") ⟨63_900_000_000 * second, 0⟩ (some sampleAssets.reverse) = .ok id := by
  obtain ⟨id, made⟩ := sample_identity
  have reordered : Reordered sampleAssets sampleAssets.reverse := by
    refine ⟨sampleAssets, ?_, (List.reverse_perm _).symm⟩
    exact List.forall₂_same.mpr fun asset _ => ⟨List.Perm.refl _, rfl⟩
  exact ⟨id, made, (batch_identity numberedDigest numberedDigest_injective).1 _ _ _ _ _ made reordered⟩

end Samples

end OpenAssetWatch.Sensor
