import OpenAssetWatch.Classification.Classifier

namespace OpenAssetWatch.Classification

open Library OpenAssetWatch.Text

/-- No two items of evidence that one source gives of one kind by one method, and that are not dated ahead, are of the same
    time, unless a later one of theirs is. -/
def Settled (evidence : List ClassificationEvidence) (now : Time) : Prop :=
  ∀ a ∈ evidence, ∀ b ∈ evidence, isFuture now a = false → isFuture now b = false → evidenceKey a = evidenceKey b →
    evidenceTimestamp a = evidenceTimestamp b →
    a = b ∨ ∃ c ∈ evidence, isFuture now c = false ∧ evidenceKey c = evidenceKey a ∧ laterThan c a = true

instance (evidence : List ClassificationEvidence) (now : Time) : Decidable (Settled evidence now) :=
  inferInstanceAs (Decidable (∀ a ∈ evidence, ∀ b ∈ evidence, isFuture now a = false → isFuture now b = false →
    evidenceKey a = evidenceKey b → evidenceTimestamp a = evidenceTimestamp b →
    a = b ∨ ∃ c ∈ evidence, isFuture now c = false ∧ evidenceKey c = evidenceKey a ∧ laterThan c a = true))

section

variable {evidence other : List ClassificationEvidence} {now : Time}

theorem laterThan_asymm (a b : ClassificationEvidence) (later : laterThan a b = true) : laterThan b a = false := by
  unfold laterThan at later ⊢
  rw [decide_eq_true_eq] at later
  exact decide_eq_false (not_lt.mpr later.le)

theorem laterThan_split (a b c : ClassificationEvidence) (later : laterThan a c = true) :
    laterThan a b = true ∨ laterThan b c = true := by
  unfold laterThan at later ⊢
  simp only [decide_eq_true_eq] at later ⊢
  exact (lt_or_ge (evidenceTimestamp b) (evidenceTimestamp a)).imp id fun le => lt_of_lt_of_le later le

theorem latestEvidence_iff (few : evidence.length ≤ maxClassificationEvidenceInput) (settled : Settled evidence now)
    (k : List Char × List Char × List Char) (item : ClassificationEvidence) :
    (latestEvidence evidence now).get? k = some item ↔
      item ∈ evidence ∧ isFuture now item = false ∧ evidenceKey item = k ∧
        ∀ rival ∈ evidence, isFuture now rival = false → evidenceKey rival = k → laterThan rival item = false := by
  have whole : evidence.take maxClassificationEvidenceInput = evidence := List.take_of_length_le few
  have mem_iff : ∀ x, x ∈ evidence.filter (!isFuture now ·) ↔ x ∈ evidence ∧ isFuture now x = false := by
    intro x
    rw [List.mem_filter, Bool.not_eq_true']
  have stored_above : ∀ rival ∈ evidence, isFuture now rival = false →
      ∃ kept, (bestByKey evidenceKey laterThan (evidence.filter (!isFuture now ·))).get? (evidenceKey rival) = some kept ∧
        laterThan rival kept = false := by
    intro rival present current
    exact bestByKey_maximal laterThan_asymm laterThan_split _ ((mem_iff rival).mpr ⟨present, current⟩)
  unfold latestEvidence
  rw [whole]
  constructor
  · intro stored
    obtain ⟨member, same⟩ := bestByKey_mem stored
    obtain ⟨listed, valid⟩ := (mem_iff item).mp member
    refine ⟨listed, valid, same, ?_⟩
    intro rival present current own
    obtain ⟨kept, kept_eq, below⟩ := stored_above rival present current
    rw [own, stored] at kept_eq
    rw [Option.some.inj kept_eq]
    exact below
  · rintro ⟨listed, valid, same, greatest⟩
    obtain ⟨kept, kept_eq, below⟩ := stored_above item listed valid
    rw [same] at kept_eq
    obtain ⟨member, own⟩ := bestByKey_mem kept_eq
    obtain ⟨present, current⟩ := (mem_iff kept).mp member
    have above := greatest kept present current own
    have tied : evidenceTimestamp item = evidenceTimestamp kept := by
      unfold laterThan at below above
      exact le_antisymm (not_lt.mp (of_decide_eq_false below)) (not_lt.mp (of_decide_eq_false above))
    rcases settled item listed kept present valid current (same.trans own.symm) tied with rfl | ⟨c, here, fresh, alike, later⟩
    · exact kept_eq
    · rw [greatest c here fresh (alike.trans same)] at later
      cases later

theorem settled_perm (settled : Settled evidence now) (perm : evidence.Perm other) : Settled other now := by
  intro a here b there
  rcases settled a (perm.mem_iff.mpr here) b (perm.mem_iff.mpr there) with settled_pair
  intro valid current alike tied
  rcases settled_pair valid current alike tied with same | ⟨c, member, rest⟩
  · exact .inl same
  · exact .inr ⟨c, perm.mem_iff.mp member, rest⟩

theorem evidenceRank_injective (distinct : (evidence.map (·.evidenceId)).Nodup) :
    ∀ a ∈ evidence, ∀ b ∈ evidence, evidenceRank a = evidenceRank b → a = b := by
  intro a here b there same
  have ids : a.evidenceId.toList = b.evidenceId.toList := by
    unfold evidenceRank at same
    simp only [toLex_inj, Prod.mk.injEq] at same
    exact same.2.2.2.2
  exact List.inj_on_of_nodup_map distinct here there (String.toList_inj.mp ids)

theorem mem_values_latestEvidence {item : ClassificationEvidence} (member : item ∈ (latestEvidence evidence now).values) :
    item ∈ evidence := by
  obtain ⟨k, stored⟩ := (Dict.mem_values _ item).mp member
  exact List.mem_of_mem_take (List.mem_of_mem_filter (bestByKey_mem stored).1)

theorem selectEffectiveEvidence_perm (few : evidence.length ≤ maxClassificationEvidenceInput)
    (distinct : (evidence.map (·.evidenceId)).Nodup) (settled : Settled evidence now) (perm : evidence.Perm other) :
    selectEffectiveEvidence evidence now = selectEffectiveEvidence other now := by
  have same : ∀ k, (latestEvidence evidence now).get? k = (latestEvidence other now).get? k := by
    intro k
    apply Option.ext
    intro item
    rw [latestEvidence_iff few settled, latestEvidence_iff (perm.length_eq ▸ few) (settled_perm settled perm)]
    simp only [perm.mem_iff]
  have sorted : sortedDescending evidenceRank (latestEvidence evidence now).values =
      sortedDescending evidenceRank (latestEvidence other now).values := by
    apply sortedDescending_eq_of_perm _ (Dict.values_perm same)
    intro a here b there
    exact evidenceRank_injective distinct a (mem_values_latestEvidence here) b (mem_values_latestEvidence there)
  unfold selectEffectiveEvidence
  rw [sorted]

theorem futureRejected_perm (few : evidence.length ≤ maxClassificationEvidenceInput) (perm : evidence.Perm other) :
    futureRejected evidence now = futureRejected other now := by
  unfold futureRejected
  rw [List.take_of_length_le few, List.take_of_length_le (perm.length_eq ▸ few)]
  exact perm.any_eq

/-- The classification of evidence does not depend on its order, unless the order decides between items of one time. -/
theorem classifyAsset_perm (classificationIdFor : String → String → String) (siteId assetId : String)
    (evidence : List ClassificationEvidence) (now : Time) (previous : Option Time)
    (few : evidence.length ≤ maxClassificationEvidenceInput) (distinct : (evidence.map (·.evidenceId)).Nodup)
    (settled : Settled evidence now) (other : List ClassificationEvidence) (perm : evidence.Perm other) :
    classifyAsset classificationIdFor siteId assetId evidence now previous =
      classifyAsset classificationIdFor siteId assetId other now previous := by
  unfold classifyAsset
  rw [selectEffectiveEvidence_perm few distinct settled perm, futureRejected_perm few perm]

section Sample

/-- What an agent says of the category of its host. -/
def sampleEvidence (evidenceId value : String) (seen : Time) : ClassificationEvidence where
  evidenceId := evidenceId
  sourceId := "agent"
  sourceType := "endpoint-agent"
  collectionMethod := "endpoint-inventory"
  kind := "category"
  value := value
  observedAt := some seen
  direct := true
  strength := .direct
  sourceConfidence := some 1

def sampleClassify (evidence : List ClassificationEvidence) : ClassificationResult :=
  classifyAsset (fun _ _ => "cls") "site" "asset" evidence 0 none

/-- A later item of evidence counts, whichever comes first. -/
theorem classifyAsset_perm_sample :
    sampleClassify [sampleEvidence "cev_1" "printer" 0, sampleEvidence "cev_2" "camera" 1] =
      sampleClassify [sampleEvidence "cev_2" "camera" 1, sampleEvidence "cev_1" "printer" 0] :=
  classifyAsset_perm (fun _ _ => "cls") "site" "asset"
    [sampleEvidence "cev_1" "printer" 0, sampleEvidence "cev_2" "camera" 1] 0 none (by decide) (by decide)
    (by decide +kernel) [sampleEvidence "cev_2" "camera" 1, sampleEvidence "cev_1" "printer" 0] (List.Perm.swap _ _ _)

/-- Of two items of one time the first one counts. -/
theorem order_decides :
    ¬ ∀ evidence other : List ClassificationEvidence, evidence.length ≤ maxClassificationEvidenceInput →
      (evidence.map (·.evidenceId)).Nodup → evidence.Perm other → sampleClassify evidence = sampleClassify other := by
  intro independent
  have same := independent [sampleEvidence "cev_1" "printer" 0, sampleEvidence "cev_2" "camera" 0]
    [sampleEvidence "cev_2" "camera" 0, sampleEvidence "cev_1" "printer" 0] (by decide) (by decide)
    (List.Perm.swap _ _ _)
  have printer : (sampleClassify [sampleEvidence "cev_1" "printer" 0, sampleEvidence "cev_2" "camera" 0]).category = .printer := by
    decide +kernel
  have camera : (sampleClassify [sampleEvidence "cev_2" "camera" 0, sampleEvidence "cev_1" "printer" 0]).category = .camera := by
    decide +kernel
  rw [same, camera] at printer
  cases printer

end Sample

end

end OpenAssetWatch.Classification
