import OpenAssetWatch.Classification.WeakEvidence

namespace OpenAssetWatch.Classification

open Library OpenAssetWatch.Text
open Temporal (float)

section Sources

variable {value : Signal → List Char} {stronger : Signal → Signal → Bool} {items : List Signal} {kept : List Char → Bool}
  {v s : List Char}

theorem voteOf_tally_filter : voteOf (tally value stronger (items.filter fun signal => kept signal.sourceKey)) v s =
    if kept s then voteOf (tally value stronger items) v s else none := by
  induction items using List.reverseRecOn with
  | nil => exact (ite_self _).symm
  | append_singleton items last ih =>
    rw [List.filter_append, voteOf_tally_snoc]
    by_cases stays : kept last.sourceKey = true
    · have one : [last].filter (fun signal => kept signal.sourceKey) = [last] := List.filter_cons_of_pos stays
      rw [one, voteOf_tally_snoc, ih]
      by_cases own : v = value last ∧ s = last.sourceKey
      · rw [if_pos own, if_pos own, own.2, if_pos stays, if_pos stays]
      · rw [if_neg own, if_neg own]
    · have none_ : [last].filter (fun signal => kept signal.sourceKey) = [] := List.filter_cons_of_neg stays
      rw [none_, List.append_nil, ih]
      by_cases own : v = value last ∧ s = last.sourceKey
      · rw [own.2, if_neg stays, if_neg stays]
      · rw [if_neg own]

variable {ranked less : Ranked}

theorem maxWeight_mono {signals others : List Signal} (subset : others ⊆ signals) : maxWeight others ≤ maxWeight signals := by
  apply maxWeight_le (maxWeight_nonneg signals)
  intro signal member
  have listed := subset member
  rw [maxWeight_eq_foldr]
  generalize signals = all at listed
  induction all with
  | nil => cases listed
  | cons first rest ih =>
    rw [List.map_cons, List.foldr_cons]
    rcases List.mem_cons.mp listed with rfl | later
    · exact le_max_left _ _
    · exact le_max_of_le_right (ih later)

theorem agreement_mono {few many : Nat} (le : few ≤ many) : agreement few ≤ agreement many := by
  have share : (0 : ℚ) ≤ float (5 / 100) := by decide +kernel
  apply min_le_min_right
  apply float_mono (mul_nonneg (Nat.cast_nonneg _) share)
  apply mul_le_mul_of_nonneg_right _ share
  exact_mod_cast Nat.sub_le_sub_right le 1

theorem scoreOf_mono {signals others : List Signal} (subset : others ⊆ signals) (le : others.length ≤ signals.length) :
    scoreOf others ≤ scoreOf signals := by
  apply min_le_min_right
  apply float_mono (add_nonneg (maxWeight_nonneg _) (agreement_range _).1)
  exact add_le_add (maxWeight_mono subset) (agreement_mono le)

theorem signals_subset (kept : List Char → Bool) (whole : ranked ∈ rankVotes (tally value stronger items))
    (part : less ∈ rankVotes (tally value stronger (items.filter fun signal => kept signal.sourceKey)))
    (same : less.value = ranked.value) : less.signals ⊆ ranked.signals ∧ ∀ signal ∈ less.signals, kept signal.sourceKey = true := by
  obtain ⟨bySource, stored, eq⟩ := mem_rankVotes.mp whole
  obtain ⟨fewer, stored', eq'⟩ := mem_rankVotes.mp part
  have each : ∀ signal ∈ less.signals, signal ∈ ranked.signals ∧ kept signal.sourceKey = true := by
    intro signal cast
    have values : less.signals = fewer.values := by rw [eq']
    rw [values, Dict.mem_values] at cast
    obtain ⟨s, held⟩ := cast
    have vote : voteOf (tally value stronger (items.filter fun signal => kept signal.sourceKey)) less.value s = some signal := by
      rw [voteOf, stored', Option.bind_some, held]
    have source := (voteOf_tally_mem vote).2.2
    rw [voteOf_tally_filter] at vote
    split at vote
    · next stays =>
      rw [same, voteOf, stored, Option.bind_some] at vote
      have values : ranked.signals = bySource.values := by rw [eq]
      rw [values, Dict.mem_values, source]
      exact ⟨⟨s, vote⟩, stays⟩
    · cases vote
  exact ⟨fun signal cast => (each signal cast).1, fun signal cast => (each signal cast).2⟩

end Sources

section Revoked

/-- The evidence of sources that are not revoked. -/
def genuine (evidence : List ClassificationEvidence) : List ClassificationEvidence := evidence.filter (!·.sourceRevoked)

/-- How far a status goes; a conflict has no place among the others. -/
def level : ClassificationStatus → Nat
  | .unknown | .insufficientEvidence | .conflicting => 0
  | .partiallyClassified => 1
  | .classified => 2

/-- A result that stands on less evidence, where neither conflicts and both name one category. -/
def Upheld (result less : ClassificationResult) : Prop :=
  result.status ≠ .conflicting → less.status ≠ .conflicting → less.category = result.category →
    level result.status ≤ level less.status ∧ result.independentSourceCount ≤ less.independentSourceCount

/-- Sources are revoked as a whole, and without the evidence of those that are the classifier goes by the rest of what it went by. -/
structure Separable (evidence : List ClassificationEvidence) (now : Time) : Prop where
  whole : ∀ a ∈ evidence, ∀ b ∈ evidence, a.sourceKey = b.sourceKey → a.sourceRevoked = b.sourceRevoked
  bounded : selectEffectiveEvidence (genuine evidence) now = genuine (selectEffectiveEvidence evidence now)

/-- The categories in the order of their scores. -/
def rankedCategories (evidence : List ClassificationEvidence) (now : Time) : List Ranked :=
  rankVotes (categoryVotes (effectiveSignals evidence now))

/-- No revoked source is for the category with the best score. -/
def Unaided (evidence : List ClassificationEvidence) (now : Time) : Prop :=
  ∀ best, (rankedCategories evidence now).head? = some best → ∀ item ∈ selectEffectiveEvidence evidence now,
    item.sourceRevoked = true → ∀ signal ∈ signalsForEvidence item now, signal.attr = .category → signal.value ≠ best.value

variable {evidence : List ClassificationEvidence} {now : Time} {best other : Ranked}

/-- The signals that are votes for a category. -/
def categorySignals (evidence : List ClassificationEvidence) (now : Time) : List Signal :=
  (effectiveSignals evidence now).filter fun signal => signal.attr = .category && signal.value ≠ AssetCategory.unknown.text.toList

def strongerVote (signal previous : Signal) : Bool :=
  toLex (previous.direct, previous.weight) < toLex (signal.direct, signal.weight)

theorem rankedCategories_eq : rankedCategories evidence now = rankVotes (tally (·.value) strongerVote (categorySignals evidence now)) :=
  rfl

/-- Whether a source of the evidence is revoked. -/
def isRevokedSource (evidence : List ClassificationEvidence) (source : List Char) : Bool :=
  evidence.any fun item => item.sourceKey = source && item.sourceRevoked

theorem isRevokedSource_iff (separable : Separable evidence now) {item : ClassificationEvidence} (member : item ∈ evidence) :
    isRevokedSource evidence item.sourceKey = item.sourceRevoked := by
  rw [Bool.eq_iff_iff]
  unfold isRevokedSource
  rw [List.any_eq_true]
  constructor
  · rintro ⟨other, listed, both⟩
    rw [Bool.and_eq_true, decide_eq_true_eq] at both
    rw [← separable.whole other listed item member both.1]
    exact both.2
  · intro revoked
    refine ⟨item, member, ?_⟩
    rw [revoked, decide_eq_true rfl]
    rfl

theorem effectiveSignals_genuine (separable : Separable evidence now) : effectiveSignals (genuine evidence) now =
    (effectiveSignals evidence now).filter fun signal => !isRevokedSource evidence signal.sourceKey := by
  have sources : ∀ item ∈ selectEffectiveEvidence evidence now, ∀ signal ∈ signalsForEvidence item now,
      (!isRevokedSource evidence signal.sourceKey) = !item.sourceRevoked := by
    intro item effective signal given
    rw [(mem_signalsForEvidence given).sourceKey, isRevokedSource_iff separable (mem_selectEffectiveEvidence effective).1]
  unfold effectiveSignals
  rw [separable.bounded, genuine]
  generalize selectEffectiveEvidence evidence now = items at sources
  induction items with
  | nil => rfl
  | cons item rest ih =>
    rw [List.flatMap_cons, List.filter_append, ← ih fun other member => sources other (List.mem_cons_of_mem _ member),
      List.filter_congr (sources item List.mem_cons_self)]
    cases revoked : item.sourceRevoked with
    | true => rw [List.filter_cons_of_neg (by rw [revoked]; decide), Bool.not_true, List.filter_false, List.nil_append]
    | false => rw [List.filter_cons_of_pos (by rw [revoked]; decide), List.flatMap_cons, Bool.not_false, List.filter_true]

theorem categorySignals_genuine (separable : Separable evidence now) : categorySignals (genuine evidence) now =
    (categorySignals evidence now).filter fun signal => !isRevokedSource evidence signal.sourceKey := by
  unfold categorySignals
  rw [effectiveSignals_genuine separable, List.filter_filter, List.filter_filter]
  apply List.filter_congr
  intro signal _
  exact Bool.and_comm _ _

/-- What a ranking is ordered by. -/
def rankKey (ranked : Ranked) : ℚ ×ₗ Bool ×ₗ List Char := toLex (ranked.score, toLex (ranked.direct, ranked.value))

theorem rankKey_le_head (head : (rankedCategories evidence now).head? = some best) (member : other ∈ rankedCategories evidence now) :
    rankKey other ≤ rankKey best := by
  unfold rankedCategories rankVotes at head member
  exact key_le_head_sortedDescending head (mem_sortedDescending.mp member)

theorem rankKey_le (score : other.score ≤ best.score) (direct : other.direct ≤ best.direct) (value : other.value = best.value) :
    rankKey other ≤ rankKey best :=
  Prod.Lex.toLex_mono ⟨score, Prod.Lex.toLex_mono ⟨direct, value.le⟩⟩

theorem rankKey_genuine_le (separable : Separable evidence now) (part : other ∈ rankedCategories (genuine evidence) now) :
    ∃ ranked ∈ rankedCategories evidence now, ranked.value = other.value ∧ rankKey other ≤ rankKey ranked ∧
      other.signals ⊆ ranked.signals ∧ ∀ signal ∈ other.signals, isRevokedSource evidence signal.sourceKey = false := by
  rw [rankedCategories_eq, categorySignals_genuine separable] at part
  rw [rankedCategories_eq]
  have votes := ballot part
  obtain ⟨signal, cast⟩ := List.exists_mem_of_ne_nil _ votes.voted
  obtain ⟨listed, named⟩ := votes.listed signal cast
  have held : ((tally (·.value) strongerVote (categorySignals evidence now)).get? other.value).isSome = true :=
    get?_tally_isSome.mpr ⟨signal, List.mem_of_mem_filter listed, named⟩
  obtain ⟨bySource, stored⟩ := Option.isSome_iff_exists.mp held
  have whole : (⟨other.value, scoreOf bySource.values, bySource.values.any (·.direct), bySource.values⟩ : Ranked) ∈
      rankVotes (tally (·.value) strongerVote (categorySignals evidence now)) := mem_rankVotes.mpr ⟨bySource, stored, rfl⟩
  obtain ⟨subset, stays⟩ := signals_subset (fun source => !isRevokedSource evidence source) whole part rfl
  have fewer : other.signals.length ≤ bySource.values.length :=
    ((List.Nodup.of_map _ votes.sources).subperm subset).length_le
  have score : other.score ≤ scoreOf bySource.values := by
    rw [votes.score]
    exact scoreOf_mono subset fewer
  have direct : other.direct ≤ bySource.values.any (·.direct) := by
    rw [votes.direct]
    intro some_
    obtain ⟨vote, present, seen⟩ := List.any_eq_true.mp some_
    exact List.any_eq_true.mpr ⟨vote, subset present, seen⟩
  exact ⟨_, whole, rfl, rankKey_le score direct rfl, subset, fun vote present => (Bool.not_eq_true' _).mp (stays vote present)⟩

theorem head_genuine (separable : Separable evidence now) (unaided : Unaided evidence now)
    (head : (rankedCategories evidence now).head? = some best) :
    (rankedCategories (genuine evidence) now).head? = some best := by
  have member := List.mem_of_mem_head? head
  rw [rankedCategories_eq] at member
  obtain ⟨bySource, stored, same⟩ := mem_rankVotes.mp member
  have own : (categorySignals (genuine evidence) now).filter (·.value = best.value) =
      (categorySignals evidence now).filter (·.value = best.value) := by
    rw [categorySignals_genuine separable, List.filter_filter]
    apply List.filter_congr
    intro signal listed
    obtain ⟨given, category⟩ := votesOn_category.listed signal listed
    obtain ⟨item, effective, from_, -, source⟩ := mem_effectiveSignals given
    rw [source, isRevokedSource_iff separable (mem_selectEffectiveEvidence effective).1]
    cases revoked : item.sourceRevoked with
    | false => exact Bool.and_true _
    | true =>
      rw [decide_eq_false (unaided best head item effective revoked signal from_ category)]
      rfl
  have kept : best ∈ rankedCategories (genuine evidence) now := by
    rw [rankedCategories_eq, mem_rankVotes]
    refine ⟨bySource, ?_, same⟩
    rw [get?_tally, own, ← get?_tally, stored]
  have unique := rankVotes_values_nodup (categoryVotes (effectiveSignals (genuine evidence) now))
  unfold rankedCategories rankVotes at kept ⊢
  apply head_sortedDescending (mem_sortedDescending.mp kept)
  intro rival present above
  have listed : rival ∈ rankedCategories (genuine evidence) now := mem_sortedDescending.mpr present
  obtain ⟨ranked, there, named, below, -⟩ := rankKey_genuine_le separable listed
  have equal : rankKey rival = rankKey best := le_antisymm (below.trans (rankKey_le_head head there)) above
  have values : rival.value = best.value := by
    have parts := congrArg (fun key => (ofLex (ofLex key).2).2) equal
    exact parts
  exact List.inj_on_of_nodup_map unique listed (mem_sortedDescending.mpr (mem_sortedDescending.mp kept)) values

theorem verdict_clear {signals : List Signal} {ranked : List Ranked} {known : Nat} (head : ranked.head? = some best) :
    (verdict signals ranked false known).status =
        (if float (72 / 100) ≤ best.score then .classified
        else if float (45 / 100) ≤ best.score then .partiallyClassified else .insufficientEvidence) ∧
      (verdict signals ranked false known).category = if float (45 / 100) ≤ best.score then categoryOf best.value else .unknown := by
  cases ranked with
  | nil => cases head
  | cons first rest =>
    cases Option.some.inj head
    unfold verdict
    dsimp only [List.head?_cons, Option.map_some, Option.getD_some, List.isEmpty_cons]
    rw [if_neg Bool.false_ne_true, if_neg Bool.false_ne_true]
    by_cases known : float (45 / 100) ≤ best.score
    · rw [if_pos known, if_pos known]
      split
      · exact ⟨rfl, rfl⟩
      · exact ⟨rfl, rfl⟩
    · have less : ¬ float (72 / 100) ≤ best.score := fun above => known (le_trans (by decide +kernel) above)
      simp only [if_neg known, if_neg less, and_self]

theorem clear_classifyAsset {classificationIdFor : String → String → String} {siteId assetId : String} {previous : Option Time}
    (clear : (classifyAsset classificationIdFor siteId assetId evidence now previous).status ≠ .conflicting)
    (head : (rankedCategories evidence now).head? = some best) :
    (classifyAsset classificationIdFor siteId assetId evidence now previous).status =
        (if float (72 / 100) ≤ best.score then .classified
        else if float (45 / 100) ≤ best.score then .partiallyClassified else .insufficientEvidence) ∧
      (classifyAsset classificationIdFor siteId assetId evidence now previous).category =
        if float (45 / 100) ≤ best.score then categoryOf best.value else .unknown := by
  have none_ : conflictsOf (effectiveSignals evidence now) (rankVotes (categoryVotes (effectiveSignals evidence now))) = [] := by
    by_contra some_
    exact clear ((status_classifyAsset _ _ _ _).mpr some_)
  have conflicted : (!(conflictsOf (effectiveSignals evidence now)
      (rankVotes (categoryVotes (effectiveSignals evidence now)))).isEmpty) = false := by
    rw [none_]
    rfl
  obtain ⟨known, status, category⟩ := verdict_classifyAsset classificationIdFor siteId assetId evidence now previous
  rw [status, category, conflicted]
  exact verdict_clear head

theorem eraseDups_of_nodup {α : Type} [BEq α] [LawfulBEq α] {items : List α} (distinct : items.Nodup) : items.eraseDups = items := by
  induction items with
  | nil => rfl
  | cons item rest ih =>
    obtain ⟨fresh, distinct⟩ := List.nodup_cons.mp distinct
    have others : rest.filter (fun other => !other == item) = rest := by
      rw [List.filter_eq_self]
      intro other member
      rw [Bool.not_eq_true', beq_eq_false_iff_ne]
      rintro rfl
      exact fresh member
    rw [List.eraseDups_cons, others, ih distinct]

theorem independentSourceCount_eq {classificationIdFor : String → String → String} {siteId assetId : String} {previous : Option Time} :
    (classifyAsset classificationIdFor siteId assetId evidence now previous).independentSourceCount =
      (((rankedCategories evidence now).head?.map (·.signals)).getD []).length := by
  have distinct : ((((rankedCategories evidence now).head?.map (·.signals)).getD []).map (·.sourceKey)).Nodup := by
    cases head : (rankedCategories evidence now).head? with
    | none => exact List.nodup_nil
    | some best => exact (ballot (List.mem_of_mem_head? head)).sources
  have counted : (classifyAsset classificationIdFor siteId assetId evidence now previous).independentSourceCount =
      ((((rankedCategories evidence now).head?.map (·.signals)).getD []).map (·.sourceKey)).eraseDups.length := by
    unfold classifyAsset classifySelected rankedCategories effectiveSignals
    rfl
  rw [counted, eraseDups_of_nodup distinct, List.length_map]

section Upheld

variable {classificationIdFor : String → String → String} {siteId assetId : String} {previous : Option Time}

theorem upheld_of_unaided (separable : Separable evidence now) (unaided : Unaided evidence now) :
    Upheld (classifyAsset classificationIdFor siteId assetId evidence now previous)
      (classifyAsset classificationIdFor siteId assetId (genuine evidence) now previous) := by
  intro clear clear' _
  cases head : (rankedCategories evidence now).head? with
  | none =>
    have empty := List.head?_eq_none_iff.mp head
    have unclassified : Unclassified (classifyAsset classificationIdFor siteId assetId evidence now previous).category
        (classifyAsset classificationIdFor siteId assetId evidence now previous).status := by
      obtain ⟨known, status, category⟩ := verdict_classifyAsset classificationIdFor siteId assetId evidence now previous
      rw [rankedCategories] at empty
      rw [status, category, empty]
      exact verdict_nil _
    rw [independentSourceCount_eq, head]
    refine ⟨?_, Nat.zero_le _⟩
    generalize (classifyAsset classificationIdFor siteId assetId evidence now previous).status = status at unclassified
    cases status with
    | classified => exact absurd rfl unclassified.2.1
    | partiallyClassified => exact absurd rfl unclassified.2.2
    | _ => exact Nat.zero_le _
  | some best =>
    have head' := head_genuine separable unaided head
    rw [(clear_classifyAsset clear head).1, (clear_classifyAsset clear' head').1, independentSourceCount_eq,
      independentSourceCount_eq, head, head']
    exact ⟨le_rfl, le_rfl⟩

theorem count_lt_of_aided (separable : Separable evidence now) (head : (rankedCategories evidence now).head? = some best)
    (head' : (rankedCategories (genuine evidence) now).head? = some other) (same : other.value = best.value)
    (aided : ¬ Unaided evidence now) : other.signals.length < best.signals.length := by
  unfold Unaided at aided
  push Not at aided
  obtain ⟨first, head_first, item, effective, revoked, signal, from_, category, named⟩ := aided
  rw [head] at head_first
  cases Option.some.inj head_first
  obtain ⟨ranked, there, alike, -, subset, stays⟩ := rankKey_genuine_le separable (List.mem_of_mem_head? head')
  have unique := rankVotes_values_nodup (categoryVotes (effectiveSignals evidence now))
  have equal : ranked = best := List.inj_on_of_nodup_map unique there (List.mem_of_mem_head? head) (alike.trans same)
  rw [equal] at subset
  have member := List.mem_of_mem_head? head
  have votes := ballot member
  obtain ⟨first, cast_first⟩ := List.exists_mem_of_ne_nil _ votes.voted
  have known : signal.value ≠ AssetCategory.unknown.text.toList := by
    have listed := (votes.listed first cast_first).1
    rw [List.mem_filter, Bool.and_eq_true, decide_eq_true_eq, decide_eq_true_eq] at listed
    rw [named, ← (votes.listed first cast_first).2]
    exact listed.2.2
  have listed : signal ∈ categorySignals evidence now := by
    unfold categorySignals
    rw [List.mem_filter, Bool.and_eq_true, decide_eq_true_eq, decide_eq_true_eq]
    exact ⟨List.mem_flatMap.mpr ⟨item, effective, from_⟩, category, known⟩
  obtain ⟨vote, cast, source⟩ := votes.every signal listed named
  have absent : vote ∉ other.signals := by
    intro present
    have genuine_source := stays vote present
    rw [source, (mem_signalsForEvidence from_).sourceKey, isRevokedSource_iff separable (mem_selectEffectiveEvidence effective).1,
      revoked] at genuine_source
    cases genuine_source
  have distinct : (vote :: other.signals).Nodup := by
    rw [List.nodup_cons]
    exact ⟨absent, List.Nodup.of_map _ (ballot (List.mem_of_mem_head? head')).sources⟩
  have all : vote :: other.signals ⊆ best.signals := List.cons_subset.mpr ⟨cast, subset⟩
  exact (distinct.subperm all).length_le

theorem known_head (clear : (classifyAsset classificationIdFor siteId assetId evidence now previous).status ≠ .conflicting)
    (known : (classifyAsset classificationIdFor siteId assetId evidence now previous).category ≠ .unknown) :
    ∃ best, (rankedCategories evidence now).head? = some best ∧
      (classifyAsset classificationIdFor siteId assetId evidence now previous).category = categoryOf best.value := by
  cases head : (rankedCategories evidence now).head? with
  | none =>
    have empty := List.head?_eq_none_iff.mp head
    refine absurd ?_ known
    obtain ⟨known, -, category⟩ := verdict_classifyAsset classificationIdFor siteId assetId evidence now previous
    rw [rankedCategories] at empty
    rw [category, empty]
    exact (verdict_nil _).1
  | some best =>
    have category := (clear_classifyAsset clear head).2
    refine ⟨best, rfl, ?_⟩
    split at category
    · exact category
    · exact absurd category known

theorem ranked_value {evidence : List ClassificationEvidence} {ranked : Ranked} (member : ranked ∈ rankedCategories evidence now) :
    ranked.value = (categoryOf ranked.value).text.toList := by
  have votes := ballot member
  obtain ⟨signal, cast⟩ := List.exists_mem_of_ne_nil _ votes.voted
  obtain ⟨listed, same⟩ := votes.listed signal cast
  obtain ⟨given, own⟩ := votesOn_category.listed signal listed
  obtain ⟨item, -, from_, -⟩ := mem_effectiveSignals given
  obtain ⟨category, named⟩ := (mem_signalsForEvidence from_).category_value own
  rw [← same, named, categoryOf_text]

theorem unaided_of_upheld (separable : Separable evidence now)
    (known : (classifyAsset classificationIdFor siteId assetId evidence now previous).category ≠ .unknown)
    (same : (classifyAsset classificationIdFor siteId assetId (genuine evidence) now previous).category =
      (classifyAsset classificationIdFor siteId assetId evidence now previous).category)
    (clear : (classifyAsset classificationIdFor siteId assetId evidence now previous).status ≠ .conflicting)
    (clear' : (classifyAsset classificationIdFor siteId assetId (genuine evidence) now previous).status ≠ .conflicting)
    (upheld : Upheld (classifyAsset classificationIdFor siteId assetId evidence now previous)
      (classifyAsset classificationIdFor siteId assetId (genuine evidence) now previous)) : Unaided evidence now := by
  by_contra aided
  have count := (upheld clear clear' same).2
  obtain ⟨best, head, named⟩ := known_head clear known
  rw [← same] at known
  obtain ⟨other, head', named'⟩ := known_head clear' known
  rw [independentSourceCount_eq, independentSourceCount_eq, head, head'] at count
  have values : other.value = best.value := by
    rw [ranked_value (List.mem_of_mem_head? head'), ranked_value (List.mem_of_mem_head? head), ← named', same, named]
  exact absurd count (not_le.mpr (count_lt_of_aided separable head head' values aided))

end Upheld

section Sample

/-- What a sensor hears of a printer. -/
def sampleService (sourceId : String) (sourceRevoked : Bool) : ClassificationEvidence where
  evidenceId := "cev_" ++ sourceId
  sourceId := sourceId
  sourceType := "passive-sensor"
  collectionMethod := "mdns"
  kind := "mdns-service"
  value := "_ipp._tcp.local"
  observedAt := some 0
  direct := false
  strength := .medium
  sourceConfidence := some (9 / 10)
  sourceRevoked := sourceRevoked

theorem sampleService_separable : Separable [sampleService "sensor-1" false] 0 where
  whole := by decide +kernel
  bounded := by decide +kernel

end Sample

end Revoked

end OpenAssetWatch.Classification
