import OpenAssetWatch.Finding.AssetRisk

namespace OpenAssetWatch.Finding

open Library

theorem clampedConfidence_nonneg (value : Option ℚ) : 0 ≤ clampedConfidence value := by
  cases value with
  | none => exact le_rfl
  | some value => exact le_max_left _ _

theorem diminishing_nonneg (index : Nat) : 0 ≤ diminishing index := by
  have place : min index 3 = 0 ∨ min index 3 = 1 ∨ min index 3 = 2 ∨ min index 3 = 3 := by omega
  show 0 ≤ diminishingFactors.getD (min index 3) 0
  rcases place with here | here | here | here <;> rw [here] <;> norm_num [diminishingFactors]

theorem boundedScore_mono {raw raw' : ℚ} (le : raw ≤ raw') : boundedScore raw ≤ boundedScore raw' :=
  Int.toNat_le_toNat (max_le_max le_rfl (min_le_min (roundEven_mono le) le_rfl))

theorem boundedScore_le (raw : ℚ) : boundedScore raw ≤ 100 := by
  unfold boundedScore
  omega

section Category

variable {lower : String → String} {config : RiskConfig}

theorem freshnessFactor_nonneg (freshness : Option String) : 0 ≤ freshnessFactor lower freshness := by
  have listed : ∀ entry ∈ freshnessFactors.entries, 0 ≤ entry.2 := by norm_num [freshnessFactors]
  unfold freshnessFactor
  cases found : freshnessFactors.get? (lower (orText freshness "unknown")) with
  | none => norm_num
  | some factor => exact listed _ ((freshnessFactors.get?_eq_some _ factor).mp found)

theorem raw_nonneg (finding : RiskFinding) : 0 ≤ finding.raw lower config :=
  mul_nonneg (mul_nonneg (config.weight_nonneg _) (clampedConfidence_nonneg _)) (freshnessFactor_nonneg _)

theorem categoryLoop_adjusted (cap : ℚ) (index : Nat) (total : ℚ) (values : List (RiskFinding × ℚ)) :
    (categoryLoop cap index total values).1.map (·.adjusted) = clip cap total (placed diminishing index (values.map Prod.snd)) := by
  induction values generalizing index total with
  | nil => rfl
  | cons value rest ih =>
    show _ :: ((categoryLoop cap (index + 1) _ rest).1.map (·.adjusted)) = _
    rw [ih]
    rfl

theorem categoryLoop_total (cap : ℚ) (index : Nat) (total : ℚ) (values : List (RiskFinding × ℚ)) :
    (categoryLoop cap index total values).2 = total + ((categoryLoop cap index total values).1.map (·.adjusted)).sum := by
  induction values generalizing index total with
  | nil => exact (add_zero total).symm
  | cons value rest ih =>
    show (categoryLoop cap (index + 1) _ rest).2 = total + (_ + ((categoryLoop cap (index + 1) _ rest).1.map (·.adjusted)).sum)
    rw [ih, add_assoc]

/-- The weights of the findings of one category. -/
def categoryRaws (lower : String → String) (config : RiskConfig) (findings : List RiskFinding) (category : String) : List ℚ :=
  (findings.filter (·.categoryKey lower = category)).map (·.raw lower config)

theorem grouped_category (findings : List RiskFinding) (category : String) :
    ((groupedFindings lower config findings).get? category).getD [] =
      (findings.filter (·.categoryKey lower = category)).map fun finding => (finding, finding.raw lower config) := by
  have grouped := Dict.get?_foldl_append (fun item : RiskFinding × ℚ => item.1.categoryKey lower)
    (findings.map fun finding => (finding, finding.raw lower config)) Dict.empty category
  rw [List.foldl_map] at grouped
  rw [groupedFindings, grouped, List.filter_map]
  show (if (findings.filter (·.categoryKey lower = category)).map _ = [] then none else some ([] ++ _)).getD [] = _
  split_ifs with empty
  · exact empty.symm
  · rfl

/-- The weights of a category as the loop takes them. -/
def sortedRaws (lower : String → String) (config : RiskConfig) (findings : List RiskFinding) (category : String) : List ℚ :=
  ((((groupedFindings lower config findings).get? category).getD []).insertionSort
    fun a b => contributionKey a ≤ contributionKey b).map Prod.snd

theorem sortedRaws_perm (findings : List RiskFinding) (category : String) :
    (sortedRaws lower config findings category).Perm (categoryRaws lower config findings category) := by
  have perm := (List.perm_insertionSort (fun a b => contributionKey a ≤ contributionKey b)
    (((groupedFindings lower config findings).get? category).getD [])).map Prod.snd
  rw [grouped_category, List.map_map] at perm
  rw [sortedRaws, grouped_category]
  exact perm

theorem sortedRaws_sorted (findings : List RiskFinding) (category : String) :
    (sortedRaws lower config findings category).Pairwise (· ≥ ·) := by
  have total : Std.Total fun a b : RiskFinding × ℚ => contributionKey a ≤ contributionKey b := ⟨fun _ _ => le_total _ _⟩
  have trans : IsTrans (RiskFinding × ℚ) fun a b => contributionKey a ≤ contributionKey b := ⟨fun _ _ _ => le_trans⟩
  apply List.pairwise_map.mpr
  apply (List.pairwise_insertionSort (fun a b => contributionKey a ≤ contributionKey b) _).imp
  intro a b le
  exact neg_le_neg_iff.mp (Prod.Lex.monotone_fst _ _ le)

theorem sortedRaws_nonneg (findings : List RiskFinding) (category : String) :
    ∀ raw ∈ sortedRaws lower config findings category, 0 ≤ raw := by
  intro raw member
  obtain ⟨finding, -, rfl⟩ := List.mem_map.mp ((sortedRaws_perm findings category).mem_iff.mp member)
  exact raw_nonneg finding

theorem category_adjusted (findings : List RiskFinding) (category : String) :
    ((categoryContributions lower config findings category).1.map (·.adjusted)).sum =
      min (config.cap category) (placed diminishing 0 (sortedRaws lower config findings category)).sum := by
  have weights : ∀ weight ∈ placed diminishing 0 (sortedRaws lower config findings category), 0 ≤ weight :=
    placed_nonneg diminishing_nonneg (sortedRaws_nonneg findings category) 0
  have sum := sum_clip weights (config.cap_nonneg category)
  rw [zero_add, zero_add] at sum
  rw [categoryContributions, categoryLoop_adjusted]
  exact sum

theorem category_total (findings : List RiskFinding) (category : String) :
    (categoryContributions lower config findings category).2 =
      min (config.cap category) (placed diminishing 0 (sortedRaws lower config findings category)).sum := by
  have total : (categoryContributions lower config findings category).2 = 0 + _ := categoryLoop_total _ _ _ _
  rw [total, zero_add]
  exact category_adjusted findings category

theorem category_total_unlisted {findings : List RiskFinding} {category : String}
    (unlisted : category ∉ riskCategories lower config findings) :
    (categoryContributions lower config findings category).2 = 0 := by
  have absent : (groupedFindings lower config findings).get? category = none := by
    cases found : (groupedFindings lower config findings).get? category with
    | none => rfl
    | some values =>
      apply (unlisted _).elim
      apply (List.perm_insertionSort (· ≤ ·) _).mem_iff.mpr
      exact List.mem_map.mpr ⟨_, (Dict.get?_eq_some _ category values).mp found, rfl⟩
  rw [categoryContributions, absent]
  rfl

variable {config' : RiskConfig} {findings findings' : List RiskFinding}

theorem categories_sum_le
    (le : ∀ category, (categoryContributions lower config findings category).2 ≤ (categoryContributions lower config' findings' category).2) :
    ((riskCategories lower config findings).map fun category => (categoryContributions lower config findings category).2).sum ≤
      ((riskCategories lower config' findings').map fun category => (categoryContributions lower config' findings' category).2).sum := by
  have distinct (config : RiskConfig) (findings : List RiskFinding) : (riskCategories lower config findings).Nodup :=
    (List.perm_insertionSort (· ≤ ·) _).nodup_iff.mpr (groupedFindings lower config findings).nodup
  have extended (config : RiskConfig) (findings : List RiskFinding) {all : Finset String}
      (within : (riskCategories lower config findings).toFinset ⊆ all) :
      ((riskCategories lower config findings).map fun category => (categoryContributions lower config findings category).2).sum =
        ∑ category ∈ all, (categoryContributions lower config findings category).2 := by
    rw [← List.sum_toFinset _ (distinct config findings)]
    apply Finset.sum_subset within
    intro category _ unlisted
    exact category_total_unlisted fun listed => unlisted (List.mem_toFinset.mpr listed)
  rw [extended config findings Finset.subset_union_left, extended config' findings' Finset.subset_union_right]
  exact Finset.sum_le_sum fun category _ => le category

/-- No level has fewer findings of a category above it. -/
def LevelsRise (lower : String → String) (config config' : RiskConfig) (findings findings' : List RiskFinding) : Prop :=
  ∀ category level,
    (categoryRaws lower config findings category).countP (level ≤ ·) ≤ (categoryRaws lower config' findings' category).countP (level ≤ ·)

theorem finding_score_le (caps : config'.categoryCaps = config.categoryCaps) (levels : LevelsRise lower config config' findings findings') :
    (findingContributions lower config findings).2 ≤ (findingContributions lower config' findings').2 := by
  apply min_le_min _ le_rfl
  apply categories_sum_le
  intro category
  rw [category_total, category_total, show config'.cap category = config.cap category by rw [RiskConfig.cap, caps]; rfl]
  apply min_le_min le_rfl
  apply sum_placed_le diminishing_nonneg (sortedRaws_sorted findings category) (sortedRaws_sorted findings' category)
    (sortedRaws_nonneg findings' category)
  intro level
  rw [(sortedRaws_perm findings category).countP_eq, (sortedRaws_perm findings' category).countP_eq]
  exact levels category level

end Category

section Kev

variable {lower : String → String}

/-- The keys of the KEV evidence in a list of evidence. -/
def kevKeys (items : List (RiskFinding × RiskEvidence)) : List (String × String) :=
  (items.filter fun item => (kevWeight item.2.evidenceType).isSome && (kevKey item.1 item.2).2 ≠ "").map fun item => kevKey item.1 item.2

/-- The sum of the weights of the KEV evidence whose keys have not been seen. -/
def kevSum (lower : String → String) (seen : List (String × String)) (items : List (RiskFinding × RiskEvidence)) : ℚ :=
  ((kevCandidates lower seen items).map (·.raw)).sum

theorem kevWeight_nonneg {evidenceType : Option String} {weight : ℚ} (weighs : kevWeight evidenceType = some weight) : 0 ≤ weight := by
  unfold kevWeight at weighs
  split at weighs
  · cases weighs
    norm_num [kevRansomwareBaseWeight]
  · cases weighs
    norm_num [kevBaseWeight]
  · cases weighs

theorem kevCandidates_nonneg (seen : List (String × String)) (items : List (RiskFinding × RiskEvidence)) :
    ∀ candidate ∈ kevCandidates lower seen items, 0 ≤ candidate.raw := by
  induction items generalizing seen with
  | nil =>
    intro candidate member
    cases member
  | cons item rest ih =>
    obtain ⟨finding, evidence⟩ := item
    rw [kevCandidates]
    cases weighs : kevWeight evidence.evidenceType with
    | none => exact ih seen
    | some weight =>
      intro candidate member
      dsimp only at member
      split_ifs at member with skipped
      · exact ih seen candidate member
      · rcases List.mem_cons.mp member with rfl | later
        · exact mul_nonneg (mul_nonneg (kevWeight_nonneg weighs) (clampedConfidence_nonneg _)) (freshnessFactor_nonneg _)
        · exact ih _ candidate later

theorem kevSum_nonneg (seen : List (String × String)) (items : List (RiskFinding × RiskEvidence)) : 0 ≤ kevSum lower seen items := by
  apply List.sum_nonneg
  intro raw member
  obtain ⟨candidate, listed, rfl⟩ := List.mem_map.mp member
  exact kevCandidates_nonneg seen items candidate listed

theorem kevLoop_total {total : ℚ} (within : total ≤ kevCategoryCap) {candidates : List KevCandidate}
    (nonneg : ∀ candidate ∈ candidates, 0 ≤ candidate.raw) (ordinal : Nat) :
    (kevLoop ordinal total candidates).2 = min kevCategoryCap (total + (candidates.map (·.raw)).sum) := by
  induction candidates generalizing total ordinal with
  | nil => simp [kevLoop, within]
  | cons candidate rest ih =>
    have others : ∀ other ∈ rest, 0 ≤ other.raw := fun other member => nonneg other (List.mem_cons_of_mem _ member)
    have restNonneg : 0 ≤ (rest.map (·.raw)).sum := by
      apply List.sum_nonneg
      intro raw member
      obtain ⟨other, listed, rfl⟩ := List.mem_map.mp member
      exact others other listed
    have next := clip_step candidate.raw within
    rw [kevLoop, List.map_cons, List.sum_cons, ← add_assoc]
    dsimp only
    rw [next]
    split_ifs with reached
    · show min kevCategoryCap (total + candidate.raw) = _
      have full : kevCategoryCap ≤ total + candidate.raw := (le_min_iff.mp reached).2
      rw [min_eq_left full, min_eq_left (le_add_of_le_of_nonneg full restNonneg)]
    · show (kevLoop (ordinal + 1) _ rest).2 = _
      rw [ih (min_le_left _ _) others]
      have below : total + candidate.raw < kevCategoryCap := by
        by_contra full
        exact reached (le_min le_rfl (not_lt.mp full))
      rw [min_eq_right below.le]

theorem kevLoop_adjusted {total : ℚ} (candidates : List KevCandidate) (ordinal : Nat) :
    total + ((kevLoop ordinal total candidates).1.map (·.adjusted)).sum = (kevLoop ordinal total candidates).2 := by
  induction candidates generalizing total ordinal with
  | nil => exact add_zero total
  | cons candidate rest ih =>
    rw [kevLoop]
    dsimp only
    split_ifs
    · simp
    · rw [List.map_cons, List.sum_cons, ← add_assoc]
      exact ih _

theorem kev_score (findings : List RiskFinding) :
    (kevContributions lower findings).2 = min kevCategoryCap (kevSum lower [] (findings.flatMap kevItems)) := by
  have perm := List.perm_insertionSort (fun a b => candidateKey a ≤ candidateKey b) (kevCandidates lower [] (findings.flatMap kevItems))
  have empty : (0 : ℚ) ≤ kevCategoryCap := by norm_num [kevCategoryCap]
  have total := kevLoop_total empty
    (fun candidate member => kevCandidates_nonneg [] (findings.flatMap kevItems) candidate (perm.mem_iff.mp member)) 1
  rw [zero_add, (perm.map _).sum_eq] at total
  exact total

theorem kevCandidates_congr {seen seen' : List (String × String)} {items : List (RiskFinding × RiskEvidence)}
    (same : ∀ key ∈ kevKeys items, key ∈ seen ↔ key ∈ seen') : kevCandidates lower seen items = kevCandidates lower seen' items := by
  induction items generalizing seen seen' with
  | nil => rfl
  | cons item rest ih =>
    obtain ⟨finding, evidence⟩ := item
    rw [kevCandidates, kevCandidates]
    cases weighs : kevWeight evidence.evidenceType with
    | none =>
      apply ih
      intro key member
      exact same key (by simpa [kevKeys, weighs] using member)
    | some weight =>
      dsimp only
      by_cases blank : (kevKey finding evidence).2 = ""
      · rw [if_pos (Or.inl blank), if_pos (Or.inl blank)]
        apply ih
        intro key member
        exact same key (by simpa [kevKeys, weighs, blank] using member)
      · have keys : kevKeys ((finding, evidence) :: rest) = kevKey finding evidence :: kevKeys rest := by
          simp [kevKeys, weighs, blank]
        rw [keys] at same
        have here := same _ List.mem_cons_self
        by_cases before : kevKey finding evidence ∈ seen
        · rw [if_pos (Or.inr before), if_pos (Or.inr (here.mp before))]
          exact ih fun key member => same key (List.mem_cons_of_mem _ member)
        · rw [if_neg (by simp [blank, before]), if_neg (by simp [blank, mt here.mpr before])]
          congr 1
          apply ih
          intro key member
          simp only [List.mem_cons, same key (List.mem_cons_of_mem _ member)]

theorem kevCandidates_append (seen : List (String × String)) (first second : List (RiskFinding × RiskEvidence)) :
    kevCandidates lower seen (first ++ second) = kevCandidates lower seen first ++ kevCandidates lower (kevKeys first ++ seen) second := by
  induction first generalizing seen with
  | nil => rfl
  | cons item rest ih =>
    obtain ⟨finding, evidence⟩ := item
    rw [List.cons_append, kevCandidates, kevCandidates]
    cases weighs : kevWeight evidence.evidenceType with
    | none =>
      have keys : kevKeys ((finding, evidence) :: rest) = kevKeys rest := by simp [kevKeys, weighs]
      rw [keys]
      exact ih seen
    | some weight =>
      dsimp only
      by_cases blank : (kevKey finding evidence).2 = ""
      · have keys : kevKeys ((finding, evidence) :: rest) = kevKeys rest := by simp [kevKeys, weighs, blank]
        rw [if_pos (Or.inl blank), if_pos (Or.inl blank), keys]
        exact ih seen
      · have keys : kevKeys ((finding, evidence) :: rest) = kevKey finding evidence :: kevKeys rest := by
          simp [kevKeys, weighs, blank]
        rw [keys]
        by_cases before : kevKey finding evidence ∈ seen
        · rw [if_pos (Or.inr before), if_pos (Or.inr before), ih]
          congr 1
          apply kevCandidates_congr
          intro key _
          simp only [List.mem_append, List.mem_cons, List.cons_append]
          constructor
          · intro known
            exact .inr known
          · intro known
            rcases known with rfl | known
            · exact .inr before
            · exact known
        · rw [if_neg (by simp [blank, before]), if_neg (by simp [blank, before]), ih, List.cons_append]
          congr 2
          apply kevCandidates_congr
          intro key _
          simp only [List.mem_append, List.mem_cons, List.cons_append]
          tauto

theorem kevSum_append (seen : List (String × String)) (first second : List (RiskFinding × RiskEvidence)) :
    kevSum lower seen (first ++ second) = kevSum lower seen first + kevSum lower (kevKeys first ++ seen) second := by
  rw [kevSum, kevCandidates_append, List.map_append, List.sum_append]
  rfl

theorem kevSum_congr {seen seen' : List (String × String)} {items : List (RiskFinding × RiskEvidence)}
    (same : ∀ key ∈ kevKeys items, key ∈ seen ↔ key ∈ seen') : kevSum lower seen items = kevSum lower seen' items := by
  rw [kevSum, kevCandidates_congr same]
  rfl

theorem kevKeys_append (first second : List (RiskFinding × RiskEvidence)) : kevKeys (first ++ second) = kevKeys first ++ kevKeys second := by
  simp [kevKeys]

theorem kevSum_insert {front extra rest : List (RiskFinding × RiskEvidence)} (unrepeated : ∀ key ∈ kevKeys extra, key ∉ kevKeys rest) :
    kevSum lower [] (front ++ rest) ≤ kevSum lower [] (front ++ (extra ++ rest)) := by
  have same : kevSum lower (kevKeys extra ++ (kevKeys front ++ [])) rest = kevSum lower (kevKeys front ++ []) rest := by
    apply kevSum_congr
    intro key later
    rw [List.mem_append, or_iff_right fun early => unrepeated key early later]
  have added : 0 ≤ kevSum lower (kevKeys front ++ []) extra := kevSum_nonneg _ extra
  rw [kevSum_append, kevSum_append, kevSum_append, same]
  linarith

theorem kevSum_perm {items others : List (RiskFinding × RiskEvidence)} (perm : items.Perm others) (distinct : (kevKeys items).Nodup)
    (seen : List (String × String)) : kevSum lower seen items = kevSum lower seen others := by
  induction perm generalizing seen with
  | nil => rfl
  | cons item perm ih =>
    rename_i rest rest'
    have later : (kevKeys rest).Nodup := by
      rw [← List.singleton_append, kevKeys_append] at distinct
      exact distinct.of_append_right
    rw [← List.singleton_append, ← List.singleton_append (x := item) (l := rest'), kevSum_append, kevSum_append, ih later]
  | swap item other rest =>
    have apart : List.Disjoint (kevKeys [other]) (kevKeys [item]) := by
      rw [show other :: item :: rest = [other] ++ ([item] ++ rest) from rfl, kevKeys_append, kevKeys_append, ← List.append_assoc] at distinct
      exact List.disjoint_of_nodup_append distinct.of_append_left
    rw [show other :: item :: rest = [other] ++ ([item] ++ rest) from rfl, show item :: other :: rest = [item] ++ ([other] ++ rest) from rfl,
      kevSum_append, kevSum_append, kevSum_append, kevSum_append]
    have first : kevSum lower (kevKeys [other] ++ seen) [item] = kevSum lower seen [item] := by
      apply kevSum_congr
      intro key here
      rw [List.mem_append, or_iff_right fun early => apart early here]
    have second : kevSum lower (kevKeys [item] ++ seen) [other] = kevSum lower seen [other] := by
      apply kevSum_congr
      intro key here
      rw [List.mem_append, or_iff_right fun early => apart here early]
    have last : kevSum lower (kevKeys [item] ++ (kevKeys [other] ++ seen)) rest =
        kevSum lower (kevKeys [other] ++ (kevKeys [item] ++ seen)) rest := by
      apply kevSum_congr
      intro key _
      simp only [List.mem_append]
      tauto
    rw [first, second, last]
    ring
  | trans perm _ ih ih' =>
    rw [ih distinct, ih']
    exact ((perm.filter _).map _).nodup_iff.mp distinct

/-- Evidence of the same key and kind whose weight is no less. -/
def KevRaised (lower : String → String) (item item' : RiskFinding × RiskEvidence) : Prop :=
  item'.2.evidenceType = item.2.evidenceType ∧ kevKey item'.1 item'.2 = kevKey item.1 item.2 ∧
    clampedConfidence item.1.confidence ≤ clampedConfidence item'.1.confidence ∧
      freshnessFactor lower item.2.freshness ≤ freshnessFactor lower item'.2.freshness

theorem kevSum_raised {items raised : List (RiskFinding × RiskEvidence)} (rise : List.Forall₂ (KevRaised lower) items raised)
    (seen : List (String × String)) : kevSum lower seen items ≤ kevSum lower seen raised := by
  induction rise generalizing seen with
  | nil => exact le_rfl
  | cons head _ ih =>
    rename_i item item' _ _ _
    obtain ⟨finding, evidence⟩ := item
    obtain ⟨finding', evidence'⟩ := item'
    obtain ⟨kind, key, confidence, freshness⟩ := head
    dsimp only at kind key confidence freshness
    unfold kevSum
    rw [kevCandidates, kevCandidates, kind, key]
    cases weighs : kevWeight evidence.evidenceType with
    | none => exact ih seen
    | some weight =>
      dsimp only
      split_ifs
      · exact ih seen
      · rw [List.map_cons, List.map_cons, List.sum_cons, List.sum_cons]
        apply add_le_add _ (ih _)
        exact mul_le_mul (mul_le_mul_of_nonneg_left confidence (kevWeight_nonneg weighs)) freshness (freshnessFactor_nonneg _)
          (mul_nonneg (kevWeight_nonneg weighs) (clampedConfidence_nonneg _))

end Kev

end OpenAssetWatch.Finding
