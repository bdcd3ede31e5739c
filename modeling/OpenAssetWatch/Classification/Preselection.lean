import OpenAssetWatch.Classification.OrderIndependence

namespace OpenAssetWatch.Classification

open Library OpenAssetWatch.Text

/-- A row of `classification_evidence` of one asset, with what the table checks of it. -/
structure EvidenceRow where
  evidenceId : String
  sourceId : String
  sourceType : String
  collectionMethod : String
  evidenceKind : String
  observedValue : String
  observedAt : Time
  lastSeenAt : Time
  direct : Bool
  strength : EvidenceStrength
  sourceConfidence : ℚ
  confidence_nonneg : 0 ≤ sourceConfidence
  confidence_le_one : sourceConfidence ≤ 1
  sourceType_text : Char.ofNat 0 ∉ sourceType.toList
deriving DecidableEq

namespace EvidenceRow

def rowKind (row : EvidenceRow) : String × String × String × String :=
  (row.sourceId, row.sourceType, row.collectionMethod, row.evidenceKind)

def rowSource (row : EvidenceRow) : String × String := (row.sourceType, row.sourceId)

/-- `ORDER BY last_seen_at DESC, evidence_id`. -/
def kindOrder (row : EvidenceRow) : Time ×ₗ (List Char)ᵒᵈ := toLex (row.lastSeenAt, OrderDual.toDual row.evidenceId.toList)

/-- What rows are ranked by but for their identifiers. -/
def grade (row : EvidenceRow) : Bool ×ₗ Nat ×ₗ ℚ ×ₗ Time :=
  toLex (row.direct, toLex (strengthPriority row.strength, toLex (row.sourceConfidence, row.lastSeenAt)))

/-- `ORDER BY direct DESC, strength DESC, source_confidence DESC, last_seen_at DESC, evidence_id`. -/
def rowOrder (row : EvidenceRow) : (Bool ×ₗ Nat ×ₗ ℚ ×ₗ Time) ×ₗ (List Char)ᵒᵈ :=
  toLex (row.grade, OrderDual.toDual row.evidenceId.toList)

end EvidenceRow

open EvidenceRow

/-- `ROW_NUMBER`. -/
def rowNumber {α β γ : Type} [LinearOrder β] [DecidableEq γ] (order : α → β) (partition_ : α → γ) (rows : List α) (row : α) : Nat :=
  standing order partition_ rows row + 1

section Query

/-- The query's `latest_source_kind`, where the rank is one. -/
def latestRows (rows : List EvidenceRow) : List EvidenceRow := rows.filter fun row => rowNumber kindOrder rowKind rows row = 1

/-- The query's `source_bounded`, within the limit of a source. -/
def boundedRows (rows : List EvidenceRow) : List EvidenceRow :=
  (latestRows rows).filter fun row => rowNumber rowOrder rowSource (latestRows rows) row ≤ maxClassificationEvidencePerSource

/-- The query's `ranked_evidence`, within the limit of an asset and in the order of the ranks. -/
def rankedRows (rows : List EvidenceRow) : List EvidenceRow :=
  sortedDescending rowOrder ((boundedRows rows).filter fun row =>
    rowNumber rowOrder (fun _ => ()) (boundedRows rows) row ≤ maxClassificationEvidence)

variable (revoked : String → Bool)

def EvidenceRow.toEvidence (row : EvidenceRow) : ClassificationEvidence where
  evidenceId := row.evidenceId
  sourceId := row.sourceId
  sourceType := row.sourceType
  collectionMethod := row.collectionMethod
  kind := row.evidenceKind
  value := row.observedValue
  observedAt := some row.observedAt
  direct := row.direct
  strength := row.strength
  sourceConfidence := some row.sourceConfidence
  lastSeenAt := some (some row.lastSeenAt)
  sourceRevoked := revoked row.sourceId

/-- `load_evidence` of one asset, where the enrollments of revoked sources are known. -/
def loadEvidence (rows : List EvidenceRow) : List ClassificationEvidence := (rankedRows rows).map (toEvidence revoked)

end Query

section Agreement

/-- Whether a row is dated ahead of the evaluation. -/
def EvidenceRow.isAhead (now : Time) (row : EvidenceRow) : Bool := now + maxFutureEvidenceSkew < row.lastSeenAt

/-- The key that the classifier takes the latest item of. -/
def EvidenceRow.normalKind (row : EvidenceRow) : (String × String) × List Char × List Char :=
  (row.rowSource, normalizedText 64 row.collectionMethod.toList, normalizedText 80 row.evidenceKind.toList)

/-- The latest rows that fewer than the limit of their source rank above. -/
def contenders (rows : List EvidenceRow) : List EvidenceRow :=
  (latestRows rows).filter fun row => standing grade rowSource (latestRows rows) row < maxClassificationEvidencePerSource

/-- When the query and the classifier choose alike. -/
structure Agreeing (rows : List EvidenceRow) (now : Time) : Prop where
  settled : ∀ a ∈ rows, ∀ b ∈ rows, a.isAhead now = false → b.isAhead now = false → a.normalKind = b.normalKind →
    a.lastSeenAt = b.lastSeenAt →
    a = b ∨ ∃ c ∈ rows, c.isAhead now = false ∧ c.normalKind = a.normalKind ∧ a.lastSeenAt < c.lastSeenAt
  unshadowed : ∀ a ∈ rows, ∀ b ∈ rows, a.isAhead now = true → b.isAhead now = false → a.rowKind ≠ b.rowKind
  normal : ∀ a ∈ rows, ∀ b ∈ rows, a.normalKind = b.normalKind → a.rowKind = b.rowKind
  source_limit : ∀ row ∈ latestRows rows,
    standing grade rowSource ((latestRows rows).filter (!·.isAhead now)) row < maxClassificationEvidencePerSource →
    peers grade rowSource (latestRows rows) row ≤ maxClassificationEvidencePerSource
  asset_limit : ∀ row ∈ contenders rows,
    standing grade (fun _ => ()) ((contenders rows).filter (!·.isAhead now)) row < maxClassificationEvidence →
    peers grade (fun _ => ()) (contenders rows) row ≤ maxClassificationEvidence

end Agreement

section Keys

variable {revoked : String → Bool} {a b : EvidenceRow} {now : Time}

/-- The classifier's own order of rows, which puts the greatest identifier first. -/
def EvidenceRow.classifierOrder (row : EvidenceRow) : (Bool ×ₗ Nat ×ₗ ℚ ×ₗ Time) ×ₗ List Char :=
  toLex (row.grade, row.evidenceId.toList)

theorem append_nul_injective {first first' second second' : List Char} (text : Char.ofNat 0 ∉ first) (text' : Char.ofNat 0 ∉ first')
    (same : first ++ Char.ofNat 0 :: second = first' ++ Char.ofNat 0 :: second') : first = first' ∧ second = second' := by
  induction first generalizing first' with
  | nil =>
    cases first' with
    | nil => exact ⟨rfl, (List.cons.inj same).2⟩
    | cons c rest => exact absurd (List.mem_cons.mpr (.inl (List.cons.inj same).1)) text'
  | cons c rest ih =>
    cases first' with
    | nil => exact absurd (List.mem_cons.mpr (.inl (List.cons.inj same).1.symm)) text
    | cons d others =>
      obtain ⟨rfl, tails⟩ := List.cons.inj same
      obtain ⟨rfl, rest_same⟩ := ih (fun member => text (List.mem_cons_of_mem _ member))
        (fun member => text' (List.mem_cons_of_mem _ member)) tails
      exact ⟨rfl, rest_same⟩

theorem sourceKey_iff : (a.toEvidence revoked).sourceKey = (b.toEvidence revoked).sourceKey ↔ a.rowSource = b.rowSource := by
  unfold ClassificationEvidence.sourceKey EvidenceRow.rowSource
  rw [Prod.mk.injEq]
  constructor
  · intro same
    obtain ⟨types, ids⟩ := append_nul_injective a.sourceType_text b.sourceType_text same
    exact ⟨String.toList_inj.mp types, String.toList_inj.mp ids⟩
  · rintro ⟨types, ids⟩
    show a.sourceType.toList ++ _ :: a.sourceId.toList = b.sourceType.toList ++ _ :: b.sourceId.toList
    rw [types, ids]

theorem evidenceKey_iff : evidenceKey (a.toEvidence revoked) = evidenceKey (b.toEvidence revoked) ↔ a.normalKind = b.normalKind := by
  unfold evidenceKey EvidenceRow.normalKind
  simp only [Prod.mk.injEq, sourceKey_iff]
  exact Iff.rfl

theorem normalKind_of_rowKind (same : a.rowKind = b.rowKind) : a.normalKind = b.normalKind := by
  unfold EvidenceRow.rowKind at same
  simp only [Prod.mk.injEq] at same
  obtain ⟨source, sort, method, kind⟩ := same
  unfold EvidenceRow.normalKind EvidenceRow.rowSource
  rw [source, sort, method, kind]

theorem evidenceRank_toEvidence (row : EvidenceRow) : evidenceRank (row.toEvidence revoked) =
    toLex (row.direct, toLex (strengthPriority row.strength, toLex (row.sourceConfidence, toLex (row.lastSeenAt,
      row.evidenceId.toList)))) := by
  have confidence : finiteConfidence (some row.sourceConfidence) = row.sourceConfidence := by
    show max 0 (min row.sourceConfidence 1) = row.sourceConfidence
    rw [min_eq_left row.confidence_le_one, max_eq_right row.confidence_nonneg]
  unfold evidenceRank
  show toLex (row.direct, toLex (strengthPriority row.strength, toLex (finiteConfidence (some row.sourceConfidence), _))) = _
  rw [confidence]
  rfl

theorem evidenceRank_lt_iff :
    evidenceRank (a.toEvidence revoked) < evidenceRank (b.toEvidence revoked) ↔ a.classifierOrder < b.classifierOrder := by
  rw [evidenceRank_toEvidence, evidenceRank_toEvidence]
  unfold EvidenceRow.classifierOrder EvidenceRow.grade
  simp only [Prod.Lex.toLex_lt_toLex, toLex_inj, Prod.mk.injEq]
  tauto

theorem rowOrder_refines (lower : a.grade < b.grade) : a.rowOrder < b.rowOrder := Prod.Lex.toLex_lt_toLex.mpr (.inl lower)

theorem classifierOrder_refines (lower : a.grade < b.grade) : a.classifierOrder < b.classifierOrder :=
  Prod.Lex.toLex_lt_toLex.mpr (.inl lower)

theorem rowOrder_coarse (lower : a.rowOrder < b.rowOrder) : a.grade ≤ b.grade := by
  rcases Prod.Lex.toLex_lt_toLex.mp lower with less | ⟨same, -⟩
  · exact less.le
  · exact same.le

theorem classifierOrder_coarse (lower : a.classifierOrder < b.classifierOrder) : a.grade ≤ b.grade := by
  rcases Prod.Lex.toLex_lt_toLex.mp lower with less | ⟨same, -⟩
  · exact less.le
  · exact same.le

end Keys

section Selection

variable {revoked : String → Bool} {rows chosen : List EvidenceRow} {row : EvidenceRow} {now : Time}

theorem mem_latestRows : row ∈ latestRows rows ↔
    row ∈ rows ∧ ∀ b ∈ rows, b.rowKind = row.rowKind → ¬ row.kindOrder < b.kindOrder := by
  unfold latestRows rowNumber standing
  rw [List.mem_filter, decide_eq_true_eq, Nat.add_eq_right, List.countP_eq_zero]
  simp only [Bool.and_eq_true, decide_eq_true_eq, not_and]

theorem nodup_toEvidence (unique : (chosen.map (·.evidenceId)).Nodup) : (chosen.map (toEvidence revoked)).Nodup := by
  apply List.Nodup.of_map (·.evidenceId)
  rw [List.map_map]
  exact unique

theorem settled_toEvidence (settled : ∀ a ∈ rows, ∀ b ∈ rows, a.isAhead now = false → b.isAhead now = false →
      a.normalKind = b.normalKind → a.lastSeenAt = b.lastSeenAt →
      a = b ∨ ∃ c ∈ rows, c.isAhead now = false ∧ c.normalKind = a.normalKind ∧ a.lastSeenAt < c.lastSeenAt) :
    Settled (rows.map (toEvidence revoked)) now := by
  intro a here b there valid current alike tied
  obtain ⟨row, listed, rfl⟩ := List.mem_map.mp here
  obtain ⟨other, present, rfl⟩ := List.mem_map.mp there
  rcases settled row listed other present valid current (evidenceKey_iff.mp alike) tied with same | ⟨c, member, fresh, own, later⟩
  · exact .inl (congrArg _ same)
  · exact .inr ⟨c.toEvidence revoked, List.mem_map_of_mem member, fresh, evidenceKey_iff.mpr own, decide_eq_true later⟩

theorem values_perm (few : rows.length ≤ maxClassificationEvidenceInput)
    (settled : Settled (rows.map (toEvidence revoked)) now) (chosen_unique : (chosen.map (·.evidenceId)).Nodup)
    (chosen_iff : ∀ row, row ∈ chosen ↔ row ∈ rows ∧ row.isAhead now = false ∧
      ∀ rival ∈ rows, rival.isAhead now = false → rival.normalKind = row.normalKind → ¬ row.lastSeenAt < rival.lastSeenAt) :
    (latestEvidence (rows.map (toEvidence revoked)) now).values.Perm (chosen.map (toEvidence revoked)) := by
  have few' : (rows.map (toEvidence revoked)).length ≤ maxClassificationEvidenceInput := by
    rw [List.length_map]
    exact few
  have nodup : (latestEvidence (rows.map (toEvidence revoked)) now).values.Nodup :=
    List.Nodup.of_map evidenceKey (nodup_bestByKey _)
  apply (List.perm_ext_iff_of_nodup nodup (nodup_toEvidence chosen_unique)).mpr
  intro item
  rw [Dict.mem_values]
  constructor
  · rintro ⟨k, stored⟩
    obtain ⟨member, valid, own, greatest⟩ := (latestEvidence_iff few' settled k item).mp stored
    obtain ⟨row, listed, rfl⟩ := List.mem_map.mp member
    refine List.mem_map_of_mem ((chosen_iff row).mpr ⟨listed, valid, ?_⟩)
    intro rival present fresh alike
    have below := greatest (rival.toEvidence revoked) (List.mem_map_of_mem present) fresh ((evidenceKey_iff.mpr alike).trans own)
    exact of_decide_eq_false below
  · intro member
    obtain ⟨row, kept, rfl⟩ := List.mem_map.mp member
    obtain ⟨listed, valid, greatest⟩ := (chosen_iff row).mp kept
    refine ⟨evidenceKey (row.toEvidence revoked), (latestEvidence_iff few' settled _ _).mpr
      ⟨List.mem_map_of_mem listed, valid, rfl, ?_⟩⟩
    intro rival present fresh alike
    obtain ⟨other, there, rfl⟩ := List.mem_map.mp present
    exact decide_eq_false (greatest other there fresh (evidenceKey_iff.mp alike))

/-- The rows that the classifier keeps within its limits of those that are the latest of their keys. -/
def capped (rows : List EvidenceRow) : List EvidenceRow :=
  let bounded := rows.filter fun row => standing classifierOrder rowSource rows row < maxClassificationEvidencePerSource
  bounded.filter fun row => standing classifierOrder (fun _ => ()) bounded row < maxClassificationEvidence

theorem keepBounded_eq (perSource : Dict (List Char) Nat) (room : Nat) (items : List ClassificationEvidence) :
    keepBounded perSource room items = (keepPerGroup (·.sourceKey) maxClassificationEvidencePerSource
      (fun source => (perSource.get? source).getD 0) items).take room := by
  induction items generalizing perSource room with
  | nil =>
    rw [keepPerGroup, List.take_nil]
    cases room <;> rfl
  | cons item rest ih =>
    cases room with
    | zero => rw [List.take_zero, keepBounded]
    | succ room =>
      rw [keepBounded, keepPerGroup]
      by_cases full : maxClassificationEvidencePerSource ≤ (perSource.get? item.sourceKey).getD 0
      · rw [if_pos full, if_pos full]
        exact ih perSource (room + 1)
      · rw [if_neg full, if_neg full, List.take_succ_cons, ih]
        have counts : (fun source => ((perSource.set item.sourceKey ((perSource.get? item.sourceKey).getD 0 + 1)).get? source).getD 0) =
            fun source => if source = item.sourceKey then (perSource.get? source).getD 0 + 1 else (perSource.get? source).getD 0 := by
          funext source
          rw [Dict.set, Dict.get?_update]
          by_cases same : source = item.sourceKey
          · rw [if_pos same, if_pos same, same]
            rfl
          · rw [if_neg same, if_neg same]
        rw [counts]

theorem standing_toEvidence (rows : List EvidenceRow) (row : EvidenceRow) :
    standing evidenceRank (·.sourceKey) (rows.map (toEvidence revoked)) (row.toEvidence revoked) =
      standing classifierOrder rowSource rows row := by
  unfold standing
  rw [List.countP_map]
  apply List.countP_congr
  intro b _
  simp only [Function.comp, Bool.and_eq_true, decide_eq_true_eq, sourceKey_iff, evidenceRank_lt_iff]

theorem standing_toEvidence_all (rows : List EvidenceRow) (row : EvidenceRow) :
    standing evidenceRank (fun _ => ()) (rows.map (toEvidence revoked)) (row.toEvidence revoked) =
      standing classifierOrder (fun _ => ()) rows row := by
  unfold standing
  rw [List.countP_map]
  apply List.countP_congr
  intro b _
  simp only [Function.comp, Bool.and_eq_true, decide_eq_true_eq, evidenceRank_lt_iff]

theorem filter_toEvidence {items : List ClassificationEvidence} {p : ClassificationEvidence → Bool} {q : EvidenceRow → Bool}
    (perm : items.Perm (rows.map (toEvidence revoked))) (same : ∀ row, p (row.toEvidence revoked) = q row) :
    (items.filter p).Perm ((rows.filter q).map (toEvidence revoked)) := by
  refine (perm.filter p).trans (List.Perm.of_eq ?_)
  rw [List.filter_map]
  congr 2
  funext row
  exact same row

theorem evidenceRank_toEvidence_injective (unique : (rows.map (·.evidenceId)).Nodup) :
    ∀ a ∈ rows.map (toEvidence revoked), ∀ b ∈ rows.map (toEvidence revoked), evidenceRank a = evidenceRank b → a = b := by
  apply evidenceRank_injective
  rw [List.map_map]
  exact unique

theorem select_of_values {evidence : List ClassificationEvidence} (unique : (chosen.map (·.evidenceId)).Nodup)
    (perm : (latestEvidence evidence now).values.Perm (chosen.map (toEvidence revoked))) :
    selectEffectiveEvidence evidence now = sortedDescending evidenceRank ((capped chosen).map (toEvidence revoked)) := by
  have injective : ∀ a ∈ chosen.map (toEvidence revoked), ∀ b ∈ chosen.map (toEvidence revoked), evidenceRank a = evidenceRank b → a = b :=
    evidenceRank_toEvidence_injective unique
  have sorted_eq : sortedDescending evidenceRank (latestEvidence evidence now).values =
      sortedDescending evidenceRank (chosen.map (toEvidence revoked)) :=
    (sortedDescending_eq_of_perm injective perm.symm).symm
  have strict := sortedDescending_strict injective (nodup_toEvidence unique)
  have sorted_perm : (sortedDescending evidenceRank (chosen.map (toEvidence revoked))).Perm (chosen.map (toEvidence revoked)) :=
    sortedDescending_perm _
  unfold selectEffectiveEvidence
  rw [sorted_eq, keepBounded_eq]
  have empty : (fun source => ((Dict.empty : Dict (List Char) Nat).get? source).getD 0) = fun _ => 0 := rfl
  rw [empty, keepPerGroup_eq_filter strict]
  generalize sorted_def : sortedDescending evidenceRank (chosen.map (toEvidence revoked)) = sorted at *
  have bounded_strict := strict.filter fun a => decide (0 + standing evidenceRank (·.sourceKey) sorted a < maxClassificationEvidencePerSource)
  rw [take_eq_filter bounded_strict]
  have bounded_perm := filter_toEvidence (p := fun a => decide (0 + standing evidenceRank (·.sourceKey) sorted a < maxClassificationEvidencePerSource))
    (q := fun row => decide (standing classifierOrder rowSource chosen row < maxClassificationEvidencePerSource)) sorted_perm
    fun row => by rw [Nat.zero_add, standing_perm sorted_perm, standing_toEvidence]
  generalize bounded_def : sorted.filter _ = bounded at *
  have capped_perm := filter_toEvidence (p := fun a => decide (standing evidenceRank (fun _ => ()) bounded a < maxClassificationEvidence))
    (q := fun row => decide (standing classifierOrder (fun _ => ())
      (chosen.filter fun row => decide (standing classifierOrder rowSource chosen row < maxClassificationEvidencePerSource)) row <
      maxClassificationEvidence)) bounded_perm
    fun row => by rw [standing_perm bounded_perm, standing_toEvidence_all]
  have capped_strict := bounded_strict.filter fun a => decide (standing evidenceRank (fun _ => ()) bounded a < maxClassificationEvidence)
  apply List.Perm.eq_of_pairwise _ (capped_strict.imp le_of_lt) (sortedDescending_pairwise _)
  · exact capped_perm.trans (sortedDescending_perm _).symm
  · intro a b here there above below
    have a_listed := bounded_perm.mem_iff.mp (List.mem_of_mem_filter here)
    have b_listed := capped_perm.mem_iff.mpr (mem_sortedDescending.mp there)
    have b_listed := bounded_perm.mem_iff.mp (List.mem_of_mem_filter b_listed)
    have wider : ∀ x ∈ (chosen.filter fun row => decide (standing classifierOrder rowSource chosen row <
        maxClassificationEvidencePerSource)).map (toEvidence revoked), x ∈ chosen.map (toEvidence revoked) :=
      fun x member => (List.filter_sublist.map _).subset member
    exact injective a (wider a a_listed) b (wider b b_listed) (le_antisymm below above)

end Selection

section Agree

variable {revoked : String → Bool} {rows : List EvidenceRow} {row : EvidenceRow} {now : Time}

theorem unique_filter {p : EvidenceRow → Bool} (unique : (rows.map (·.evidenceId)).Nodup) :
    ((rows.filter p).map (·.evidenceId)).Nodup := unique.sublist (List.filter_sublist.map _)

theorem unique_latestRows (unique : (rows.map (·.evidenceId)).Nodup) : ((latestRows rows).map (·.evidenceId)).Nodup :=
  unique_filter unique

theorem latestRows_unique (unique : (rows.map (·.evidenceId)).Nodup) {a b : EvidenceRow} (here : a ∈ latestRows rows)
    (there : b ∈ latestRows rows) (same : a.rowKind = b.rowKind) : a = b := by
  obtain ⟨a_listed, a_greatest⟩ := mem_latestRows.mp here
  obtain ⟨b_listed, b_greatest⟩ := mem_latestRows.mp there
  have tied : a.kindOrder = b.kindOrder :=
    le_antisymm (not_lt.mp (b_greatest a a_listed same)) (not_lt.mp (a_greatest b b_listed same.symm))
  unfold EvidenceRow.kindOrder at tied
  have ids : a.evidenceId.toList = b.evidenceId.toList := OrderDual.toDual_inj.mp (Prod.mk.inj (toLex_inj.mp tied)).2
  exact List.inj_on_of_nodup_map unique a_listed b_listed (String.toList_inj.mp ids)

theorem latest_iff (agreeing : Agreeing rows now) (row : EvidenceRow) :
    row ∈ (latestRows rows).filter (!·.isAhead now) ↔ row ∈ rows ∧ row.isAhead now = false ∧
      ∀ rival ∈ rows, rival.isAhead now = false → rival.normalKind = row.normalKind → ¬ row.lastSeenAt < rival.lastSeenAt := by
  rw [List.mem_filter, mem_latestRows, Bool.not_eq_true']
  constructor
  · rintro ⟨⟨listed, greatest⟩, valid⟩
    refine ⟨listed, valid, ?_⟩
    intro rival present _ alike later
    exact greatest rival present (agreeing.normal rival present row listed alike) (Prod.Lex.toLex_lt_toLex.mpr (.inl later))
  · rintro ⟨listed, valid, greatest⟩
    refine ⟨⟨listed, ?_⟩, valid⟩
    intro b present same above
    have fresh : b.isAhead now = false := by
      by_contra ahead
      exact agreeing.unshadowed b present row listed (Bool.eq_true_of_not_eq_false ahead) valid same
    have alike := normalKind_of_rowKind same
    rcases Prod.Lex.toLex_lt_toLex.mp above with later | ⟨tied, lower⟩
    · exact greatest b present fresh alike later
    · rcases agreeing.settled row listed b present valid fresh alike.symm tied with rfl | ⟨c, member, current, own, later⟩
      · exact absurd lower (lt_irrefl _)
      · exact greatest c member current own later

theorem boundedRows_eq : boundedRows rows = (latestRows rows).filter fun row =>
    decide (standing rowOrder rowSource (latestRows rows) row < maxClassificationEvidencePerSource) := rfl

theorem mem_rankedRows : row ∈ rankedRows rows ↔ row ∈ (boundedRows rows).filter fun row =>
    decide (standing rowOrder (fun _ => ()) (boundedRows rows) row < maxClassificationEvidence) := mem_sortedDescending

theorem rankedRows_perm : (rankedRows rows).Perm ((boundedRows rows).filter fun row =>
    decide (standing rowOrder (fun _ => ()) (boundedRows rows) row < maxClassificationEvidence)) := sortedDescending_perm _

theorem latest_of_ranked (member : row ∈ rankedRows rows) : row ∈ latestRows rows :=
  List.mem_of_mem_filter (List.mem_of_mem_filter (mem_rankedRows.mp member))

theorem rowOrder_injective (unique : (rows.map (·.evidenceId)).Nodup) :
    ∀ a ∈ rows, ∀ b ∈ rows, a.rowOrder = b.rowOrder → a = b := by
  intro a here b there same
  have ids : a.evidenceId.toList = b.evidenceId.toList := OrderDual.toDual_inj.mp (Prod.mk.inj (toLex_inj.mp same)).2
  exact List.inj_on_of_nodup_map unique here there (String.toList_inj.mp ids)

theorem boundedRows_eq_contenders (agreeing : Agreeing rows now) : boundedRows rows = contenders rows := by
  rw [boundedRows_eq]
  apply List.filter_congr
  intro row member
  rw [decide_eq_decide]
  constructor
  · exact (standing_grade_le (fun _ _ => rowOrder_refines) _ _).trans_lt
  · intro within
    have fewer : standing grade rowSource ((latestRows rows).filter (!·.isAhead now)) row ≤
        standing grade rowSource (latestRows rows) row := standing_filter_le _ row
    exact (standing_lt_peers (fun _ _ => rowOrder_coarse) member).trans_le
      (agreeing.source_limit row member (fewer.trans_lt within))

theorem bounded_agree (agreeing : Agreeing rows now) :
    ((latestRows rows).filter (!·.isAhead now)).filter (fun row => decide (standing classifierOrder rowSource
      ((latestRows rows).filter (!·.isAhead now)) row < maxClassificationEvidencePerSource)) =
      (boundedRows rows).filter (!·.isAhead now) := by
  rw [boundedRows_eq, List.filter_filter, List.filter_filter]
  apply List.filter_congr
  intro row member
  have limits := within_limit_iff (fun _ _ => rowOrder_refines) (fun _ _ => rowOrder_coarse) (fun _ _ => classifierOrder_refines) (fun _ _ => classifierOrder_coarse) member (agreeing.source_limit row member)
  rw [decide_eq_decide.mpr limits, Bool.and_comm]

theorem capped_agree (agreeing : Agreeing rows now) :
    (capped ((latestRows rows).filter (!·.isAhead now))).Perm ((rankedRows rows).filter (!·.isAhead now)) := by
  refine List.Perm.trans (List.Perm.of_eq ?_) (rankedRows_perm.symm.filter _)
  unfold capped
  dsimp only
  rw [bounded_agree agreeing, List.filter_filter, List.filter_filter]
  apply List.filter_congr
  intro row member
  have contender : row ∈ contenders rows := by
    rw [← boundedRows_eq_contenders agreeing]
    exact member
  have together := agreeing.asset_limit row contender
  rw [← boundedRows_eq_contenders agreeing] at together
  have limits := within_limit_iff (fun _ _ => rowOrder_refines) (fun _ _ => rowOrder_coarse) (fun _ _ => classifierOrder_refines) (fun _ _ => classifierOrder_coarse) member together
  rw [decide_eq_decide.mpr limits, Bool.and_comm]

theorem nodup_rows (unique : (rows.map (·.evidenceId)).Nodup) : rows.Nodup := List.Nodup.of_map _ unique

theorem rankedRows_few (unique : (rows.map (·.evidenceId)).Nodup) : (rankedRows rows).length ≤ maxClassificationEvidence := by
  have bounded_unique : ((boundedRows rows).map (·.evidenceId)).Nodup := unique_filter (unique_latestRows unique)
  rw [rankedRows_perm.length_eq]
  exact length_filter_standing_le (rowOrder_injective bounded_unique) (nodup_rows bounded_unique) maxClassificationEvidence

theorem rankedRows_few_of_source (unique : (rows.map (·.evidenceId)).Nodup) (source : String × String) :
    (rankedRows rows).countP (fun row => decide (row.rowSource = source)) ≤ maxClassificationEvidencePerSource := by
  have latest_unique := unique_latestRows unique
  rw [rankedRows_perm.countP_eq]
  refine List.filter_sublist.countP_le.trans ?_
  rw [boundedRows_eq]
  exact countP_filter_standing_le (rowOrder_injective latest_unique) (nodup_rows latest_unique) _ source

theorem unique_rankedRows (unique : (rows.map (·.evidenceId)).Nodup) : ((rankedRows rows).map (·.evidenceId)).Nodup :=
  (rankedRows_perm.map _).nodup_iff.mpr (unique_filter (unique_filter (unique_latestRows unique)))

theorem capped_eq_self (few : rows.length ≤ maxClassificationEvidence)
    (few_of_source : ∀ source, rows.countP (fun row => decide (row.rowSource = source)) ≤ maxClassificationEvidencePerSource) :
    capped rows = rows := by
  have bounded : rows.filter (fun row => standing classifierOrder rowSource rows row < maxClassificationEvidencePerSource) = rows := by
    apply List.filter_eq_self.mpr
    intro row member
    exact decide_eq_true ((standing_lt_count member).trans_le (few_of_source row.rowSource))
  unfold capped
  dsimp only
  rw [bounded]
  apply List.filter_eq_self.mpr
  intro row member
  exact decide_eq_true ((standing_lt_count member).trans_le (List.countP_le_length.trans few))

variable (revoked) in
theorem select_loadEvidence (unique : (rows.map (·.evidenceId)).Nodup) (agreeing : Agreeing rows now) :
    selectEffectiveEvidence (loadEvidence revoked rows) now =
      sortedDescending evidenceRank (((rankedRows rows).filter (!·.isAhead now)).map (toEvidence revoked)) := by
  have one_of_kind : ∀ a ∈ rankedRows rows, ∀ b ∈ rankedRows rows, a.normalKind = b.normalKind → a = b := by
    intro a here b there same
    have a_latest := latest_of_ranked here
    have b_latest := latest_of_ranked there
    exact latestRows_unique unique a_latest b_latest
      (agreeing.normal a (List.mem_of_mem_filter a_latest) b (List.mem_of_mem_filter b_latest) same)
  have few := rankedRows_few unique
  have chosen_unique : (((rankedRows rows).filter (!·.isAhead now)).map (·.evidenceId)).Nodup := unique_filter (unique_rankedRows unique)
  have values : (latestEvidence ((rankedRows rows).map (toEvidence revoked)) now).values.Perm
      (((rankedRows rows).filter (!·.isAhead now)).map (toEvidence revoked)) := by
    apply values_perm (few.trans (by decide)) _ chosen_unique
    · intro row
      rw [List.mem_filter, Bool.not_eq_true']
      constructor
      · rintro ⟨listed, valid⟩
        refine ⟨listed, valid, ?_⟩
        intro rival present _ alike
        rw [one_of_kind rival present row listed alike]
        exact lt_irrefl _
      · exact fun kept => ⟨kept.1, kept.2.1⟩
    · exact settled_toEvidence fun a here b there _ _ same _ => .inl (one_of_kind a here b there same)
  rw [loadEvidence, select_of_values chosen_unique values, capped_eq_self]
  · exact (List.length_filter_le _ _).trans few
  · intro source
    exact List.filter_sublist.countP_le.trans (rankedRows_few_of_source unique source)

theorem select_agree (few : rows.length ≤ maxClassificationEvidenceInput) (unique : (rows.map (·.evidenceId)).Nodup)
    (agreeing : Agreeing rows now) :
    selectEffectiveEvidence (loadEvidence revoked rows) now = selectEffectiveEvidence (rows.map (toEvidence revoked)) now := by
  have latest_unique : (((latestRows rows).filter (!·.isAhead now)).map (·.evidenceId)).Nodup :=
    unique_filter (unique_latestRows unique)
  have values : (latestEvidence (rows.map (toEvidence revoked)) now).values.Perm
      (((latestRows rows).filter (!·.isAhead now)).map (toEvidence revoked)) :=
    values_perm few (settled_toEvidence agreeing.settled) latest_unique (latest_iff agreeing)
  have perm := capped_agree agreeing
  rw [select_loadEvidence revoked unique agreeing, select_of_values latest_unique values]
  apply sortedDescending_eq_of_perm _ (perm.symm.map _)
  exact evidenceRank_toEvidence_injective (unique_filter (unique_rankedRows unique))

/-- The query's rows are classified as all rows are, where the query and the classifier choose alike. -/
theorem classify_loadEvidence (classificationIdFor : String → String → String) (siteId assetId : String) (revoked : String → Bool)
    (rows : List EvidenceRow) (now : Time) (previous : Option Time) (few : rows.length ≤ maxClassificationEvidenceInput)
    (unique : (rows.map (·.evidenceId)).Nodup) (agreeing : Agreeing rows now) :
    let loaded := classifyAsset classificationIdFor siteId assetId (loadEvidence revoked rows) now previous
    let whole := classifyAsset classificationIdFor siteId assetId (rows.map (toEvidence revoked)) now previous
    loaded.category = whole.category ∧ loaded.status = whole.status ∧ loaded.confidence = whole.confidence ∧
      loaded.conflicts = whole.conflicts := by
  intro loaded whole
  unfold loaded whole classifyAsset
  rw [select_agree few unique agreeing]
  exact ⟨rfl, rfl, rfl, rfl⟩

end Agree

section Sample

/-- What an agent says of the category of its host, as a row of the table. -/
def sampleRow (evidenceId collectionMethod value : String) (seen : Time) : EvidenceRow where
  evidenceId := evidenceId
  sourceId := "agent"
  sourceType := "endpoint-agent"
  collectionMethod := collectionMethod
  evidenceKind := "category"
  observedValue := value
  observedAt := seen
  lastSeenAt := seen
  direct := true
  strength := .direct
  sourceConfidence := 1
  confidence_nonneg := by decide
  confidence_le_one := by decide
  sourceType_text := by decide +kernel

def sampleRows : List EvidenceRow :=
  [sampleRow "cev_1" "endpoint-inventory" "printer" 0, sampleRow "cev_2" "endpoint-inventory" "camera" 1,
    sampleRow "cev_3" "manual" "camera" 0]

theorem agreeing_sampleRows : Agreeing sampleRows 0 where
  settled := by decide +kernel
  unshadowed := by decide +kernel
  normal := by decide +kernel
  source_limit := by decide +kernel
  asset_limit := by decide +kernel

/-- The latest rows of two methods are classified as all rows of them are. -/
theorem classify_loadEvidence_sample :
    let loaded := classifyAsset (fun _ _ => "cls") "site" "asset" (loadEvidence (fun _ => false) sampleRows) 0 none
    let whole := classifyAsset (fun _ _ => "cls") "site" "asset" (sampleRows.map (toEvidence fun _ => false)) 0 none
    loaded.category = whole.category ∧ loaded.status = whole.status ∧ loaded.confidence = whole.confidence ∧
      loaded.conflicts = whole.conflicts :=
  classify_loadEvidence (fun _ _ => "cls") "site" "asset" (fun _ => false) sampleRows 0 none (by decide) (by decide +kernel)
    agreeing_sampleRows

/-- A row dated ahead hides from the query the current one of its kind. -/
theorem ahead_row_hides :
    ¬ ∀ (rows : List EvidenceRow) (now : Time), rows.length ≤ maxClassificationEvidenceInput → (rows.map (·.evidenceId)).Nodup →
      (classifyAsset (fun _ _ => "cls") "site" "asset" (loadEvidence (fun _ => false) rows) now none).category =
        (classifyAsset (fun _ _ => "cls") "site" "asset" (rows.map (toEvidence fun _ => false)) now none).category := by
  intro alike
  have same := alike [sampleRow "cev_1" "endpoint-inventory" "printer" 0,
    sampleRow "cev_2" "endpoint-inventory" "camera" (maxFutureEvidenceSkew + 1)] 0 (by decide) (by decide +kernel)
  revert same
  decide +kernel

end Sample

end OpenAssetWatch.Classification
