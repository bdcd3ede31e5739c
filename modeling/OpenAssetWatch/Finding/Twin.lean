import OpenAssetWatch.Finding.CommitOrder
import OpenAssetWatch.Finding.RiskOrder
import OpenAssetWatch.Finding.TwinRows

namespace OpenAssetWatch.Finding

open Library Library.Run

section

variable {κ α : Type} [DecidableEq κ] {evaluation : RiskEvaluation} {startedAt : String → Time}

theorem replaced_risk (scope : Option String) (site : κ → String) (key : α → κ) (named : scope ≠ some "")
    {scores : List α} (distinct : (scores.map key).Nodup) (risk : Dict κ α) (k : κ) :
    (scores.foldl (fun risk score => risk.set (key score) score)
        (if isGiven scope then risk.filter fun k => some (site k) ≠ scope else .empty)).get? k =
      (scores.find? fun score => key score = k).or (if siteCovers scope (site k) then none else risk.get? k) := by
  have kept : (if isGiven scope then risk.filter fun k => some (site k) ≠ scope else .empty).get? k =
      if siteCovers scope (site k) then none else risk.get? k := by
    cases scope with
    | none => rfl
    | some id =>
      have filled : id ≠ "" := fun empty => named (congrArg some empty)
      have turned : (id = site k) = (site k = id) := propext eq_comm
      simp only [turned, isGiven, Option.any_some, decide_eq_true filled, if_true, Dict.get?_filter, siteCovers,
        Option.all_some, beq_iff_eq, decide_eq_true_eq, ne_eq, Option.some.injEq, ite_not]
  rw [Dict.get?_foldl_set, filter_key_eq_find? key distinct, kept]
  cases scores.find? fun score => key score = k <;> rfl

theorem replaced_rows (scope : Option String) (site : κ → String) (key : α → κ) {scores : List α}
    (inside : ∀ score ∈ scores, siteCovers scope (site (key score)) = true) {calculated : α → Calculated α}
    (same : ∀ score, (calculated score).score = score) (stored : List (Calculated α)) (k : κ) :
    ((stored.filter (fun row => !siteCovers scope (site (key row.score))) ++ scores.map calculated).find?
        fun row => key row.score = k).map (·.score) =
      (scores.find? fun score => key score = k).or (if siteCovers scope (site k) then none
        else (stored.find? fun row => key row.score = k).map (·.score)) := by
  have inserted : ((scores.map calculated).find? fun row => key row.score = k).map (·.score) =
      scores.find? fun score => key score = k := by
    rw [List.find?_map, Option.map_map]
    simp only [Function.comp_def, same, Option.map_id']
  have kept : (stored.filter fun row => !siteCovers scope (site (key row.score))).find? (fun row => key row.score = k) =
      if siteCovers scope (site k) then none else stored.find? fun row => key row.score = k := by
    rw [List.find?_filter]
    split
    · rename_i covers
      rw [List.find?_eq_none]
      intro row _ both
      simp only [Bool.not_eq_true', decide_eq_true_eq] at both
      rw [both.2, covers] at both
      exact Bool.false_ne_true both.1.symm
    · rename_i uncovered
      congr 1
      funext row
      by_cases here : key row.score = k
      · simp [here, uncovered]
      · simp [here]
  rw [List.find?_append, kept]
  split
  · rw [Option.none_or, inserted, Option.or_none]
  · rename_i uncovered
    have absent : scores.find? (fun score => key score = k) = none := by
      rw [List.find?_eq_none]
      intro score member here
      have covers := inside score member
      rw [of_decide_eq_true here] at covers
      exact uncovered covers
    have none_inserted : (scores.map calculated).find? (fun row => key row.score = k) = none := by
      rw [absent, Option.map_eq_none_iff] at inserted
      exact inserted
    rw [absent, none_inserted, Option.or_none]
    rfl

theorem inserted_factors {key : α → String × Option String} {factors : α → List RiskFactor} {scores : List α}
    (distinct : (scores.map key).Nodup) (subject : String × Option String) :
    ((scores.flatMap fun score => evaluation.factorRows (key score).1 (key score).2 (factors score)).filter
        fun row => (row.siteId, row.assetId) = subject).map (·.factor) =
      (scores.find? fun score => key score = subject).elim [] factors := by
  have one (score : α) : ((evaluation.factorRows (key score).1 (key score).2 (factors score)).filter
      fun row => (row.siteId, row.assetId) = subject).map (·.factor) = if key score = subject then factors score else [] := by
    simp only [RiskEvaluation.factorRows, List.filter_map, Function.comp_def, List.map_map]
    by_cases here : key score = subject <;> simp [here]
  have chosen : (scores.filter fun score => key score = subject).flatMap factors =
      (scores.find? fun score => key score = subject).elim [] factors := by
    rw [filter_key_eq_find? key distinct]
    cases scores.find? fun score => key score = subject <;> simp
  rw [← chosen, List.filter_flatMap, List.map_flatMap]
  simp only [one]
  clear chosen distinct
  induction scores with
  | nil => rfl
  | cons score rest ih =>
    rw [List.flatMap_cons, ih]
    by_cases here : key score = subject <;> simp [here]

theorem replaced_factors (tables : RiskTables) (subject : String × Option String) :
    ((((tables.select (!siteCovers evaluation.siteId ·)).append evaluation.rows).factors.filter
        fun row => (row.siteId, row.assetId) = subject).map (·.factor)) =
      (if siteCovers evaluation.siteId subject.1 then []
        else (tables.factors.filter fun row => (row.siteId, row.assetId) = subject).map (·.factor)) ++
      ((evaluation.assetScores.find? fun score => (score.siteId, some score.assetId) = subject).elim [] (·.factors) ++
        (evaluation.siteScores.find? fun score => (score.siteId, none) = subject).elim [] (·.factors)) := by
  have assets : (evaluation.assetScores.map fun score => (score.siteId, some score.assetId)).Nodup := by
    have pairs := evaluation.assetsDistinct.map (f := fun pair : String × String => (pair.1, some pair.2)) fun _ _ same => by
      simpa [Prod.ext_iff] using same
    rw [List.map_map] at pairs
    exact pairs
  have sites : (evaluation.siteScores.map fun score => (score.siteId, (none : Option String))).Nodup := by
    have pairs := evaluation.sitesDistinct.map (f := fun site : String => (site, (none : Option String))) fun _ _ same =>
      congrArg Prod.fst same
    rw [List.map_map] at pairs
    exact pairs
  have kept : ((tables.factors.filter (!siteCovers evaluation.siteId ·.siteId)).filter
      fun row => (row.siteId, row.assetId) = subject) =
        if siteCovers evaluation.siteId subject.1 then []
        else tables.factors.filter fun row => (row.siteId, row.assetId) = subject := by
    rw [List.filter_filter]
    split
    · rename_i covers
      rw [List.filter_eq_nil_iff]
      intro row _ both
      simp only [Bool.and_eq_true, decide_eq_true_eq, Bool.not_eq_true'] at both
      rw [← both.1, both.2] at covers
      cases covers
    · rename_i uncovered
      refine List.filter_congr fun row _ => ?_
      by_cases here : (row.siteId, row.assetId) = subject
      · have outside : siteCovers evaluation.siteId row.siteId = false := by
          rw [← here] at uncovered
          exact Bool.eq_false_iff.mpr uncovered
        simp [here, outside]
      · simp [here]
  rw [← inserted_factors assets, ← inserted_factors sites]
  simp only [RiskTables.append, RiskTables.select, RiskEvaluation.rows, List.filter_append, List.map_append, kept]
  congr 1
  split <;> rfl

omit [DecidableEq κ] in
theorem factors_or {found : Option α} {covers : Bool} (inside : ∀ score, found = some score → covers = true)
    (old : Option α) (factors : α → List RiskFactor) :
    (found.or (if covers then none else old)).elim [] factors =
      (if covers then [] else old.elim [] factors) ++ found.elim [] factors := by
  cases found with
  | none => cases covers <;> simp
  | some score => simp [inside score rfl]

variable {sql : SqlFindingStore} {memory : InMemoryFindingStore} {subjects : Subjects}

theorem replaceRisk_alike (same : Same sql memory) (named : evaluation.siteId ≠ some "")
    (newest : ∀ row ∈ sql.risk.siteScores, siteCovers evaluation.siteId row.score.siteId = true →
      startedAt row.evaluationRunId ≤ evaluation.snapshotAt) :
    Same { sql with risk := replaceRisk startedAt evaluation sql.risk }
      (InMemoryFindingStore.replaceRisk evaluation memory) := by
  have written : replaceRisk startedAt evaluation sql.risk =
      (sql.risk.select (!siteCovers evaluation.siteId ·)).append evaluation.rows := by
    rw [replaceRisk, if_neg]
    intro discarded
    obtain ⟨site, covers, row, stored, place, later⟩ := discarded_iff.mp discarded
    exact absurd (newest row stored (place ▸ covers)) (not_le.mpr later)
  have assets (key : String × String) := replaced_risk evaluation.siteId Prod.fst
    (fun score : AssetRiskScore => (score.siteId, score.assetId)) named evaluation.assetsDistinct memory.assetRisk key
  have sites (site : String) := replaced_risk evaluation.siteId id (fun score : SiteRiskScore => score.siteId) named
    evaluation.sitesDistinct memory.siteRisk site
  rw [written]
  refine ⟨same.findings, fun key => ?_, fun site => ?_, fun site asset => ?_, fun site => ?_⟩
  · have rows := replaced_rows evaluation.siteId Prod.fst (fun score : AssetRiskScore => (score.siteId, score.assetId))
      evaluation.assetsInScope (fun _ => rfl : ∀ score, (evaluation.calculated score).score = score)
      sql.risk.assetScores key
    rw [← same.assetScores] at rows
    exact (assets key).trans rows.symm
  · have rows := replaced_rows evaluation.siteId id (fun score : SiteRiskScore => score.siteId) evaluation.sitesInScope
      (fun _ => rfl : ∀ score, (evaluation.calculated score).score = score) sql.risk.siteScores site
    rw [← same.siteScores] at rows
    exact (sites site).trans rows.symm
  · have no_site : evaluation.siteScores.find? (fun score => (score.siteId, none) = (site, some asset)) = none := by
      simp [List.find?_eq_none]
    have same_key : (fun score : AssetRiskScore => decide ((score.siteId, some score.assetId) = (site, some asset))) =
        fun score => decide ((score.siteId, score.assetId) = (site, asset)) := by
      funext score
      simp only [Prod.mk.injEq, Option.some.injEq]
    have inside : ∀ score, evaluation.assetScores.find? (fun score => (score.siteId, score.assetId) = (site, asset)) = some score →
        siteCovers evaluation.siteId site = true := by
      intro score found
      have here : (score.siteId, score.assetId) = (site, asset) := by simpa using List.find?_some found
      have place : score.siteId = site := congrArg Prod.fst here
      rw [← place]
      exact evaluation.assetsInScope score (List.mem_of_find?_eq_some found)
    rw [replaced_factors, no_site, same_key, ← same.assetFactors, Option.elim_none, List.append_nil, ← factors_or inside]
    exact congrArg (·.elim [] (·.factors)) (assets (site, asset))
  · have no_asset : evaluation.assetScores.find? (fun score => (score.siteId, some score.assetId) = (site, none)) = none := by
      simp [List.find?_eq_none]
    have same_key : (fun score : SiteRiskScore => decide ((score.siteId, (none : Option String)) = (site, none))) =
        fun score => decide (score.siteId = site) := by
      funext score
      simp only [Prod.mk.injEq, and_true]
    have inside : ∀ score, evaluation.siteScores.find? (fun score => score.siteId = site) = some score →
        siteCovers evaluation.siteId site = true := by
      intro score found
      have here : score.siteId = site := by simpa using List.find?_some found
      rw [← here]
      exact evaluation.sitesInScope score (List.mem_of_find?_eq_some found)
    rw [replaced_factors, no_asset, same_key, ← same.siteFactors, Option.elim_none, List.nil_append, ← factors_or inside]
    exact congrArg (·.elim [] (·.factors)) (sites site)

theorem update_alike {allowed : FindingStatus → Bool} {change : FindingRow → FindingRow}
    {update : MemoryFinding → MemoryFinding} (matched : ∀ finding, (update finding).toFindingRow = change finding.toFindingRow)
    (same : Same sql memory) (key : String) :
    (updateWhere allowed change key sql.findings).2 =
        (InMemoryFindingStore.updateFinding allowed update key memory).2.map (·.toFindingRow) ∧
      Same { sql with findings := (updateWhere allowed change key sql.findings).1 }
        (InMemoryFindingStore.updateFinding allowed update key memory).1 := by
  have here := same.findings key
  cases held : memory.findings.get? key with
  | none =>
    rw [held] at here
    simp only [updateWhere, InMemoryFindingStore.updateFinding, held, ← here, Option.map_none, true_and]
    exact same
  | some finding =>
    rw [held] at here
    simp only [updateWhere, InMemoryFindingStore.updateFinding, held, ← here, Option.map_some]
    split
    · refine ⟨congrArg some (matched finding).symm, ?_, same.assetScores, same.siteScores, same.assetFactors, same.siteFactors⟩
      intro other
      simp only [Dict.set, Dict.get?_update]
      split
      · exact congrArg some (matched finding)
      · exact same.findings other
    · exact ⟨rfl, same⟩

theorem update_sound {store : FindingStore} (sound : Sound subjects store) {allowed : FindingStatus → Bool}
    {change : FindingRow → FindingRow} (key : String)
    (changed : ∀ row, allowed row.status = true → RowSound subjects key row → RowSound subjects key (change row)) :
    Sound subjects (updateWhere allowed change key store).1 := by
  cases stored : store.findings.get? key with
  | none =>
    simp only [updateWhere, stored]
    exact sound
  | some row =>
    simp only [updateWhere, stored]
    split
    · rename_i selected
      intro other row'
      simp only [Dict.set, Dict.get?_update]
      split
      · rename_i here
        intro same
        cases same
        rw [here]
        exact changed row selected (sound key row stored)
      · exact sound other row'
    · exact sound

def Related (subjects : Subjects) (sql : SqlFindingStore) (memory : InMemoryFindingStore) : Prop :=
  Same sql memory ∧ Sound subjects sql.findings

theorem act_alike {action : FindingAction} (related : Related subjects sql memory)
    (alike : Alike subjects startedAt sql action) :
    TwinsAgree startedAt (sql, memory) action ∧
      Related subjects (sql.act startedAt action).1 (memory.act action).1 := by
  obtain ⟨same, sound⟩ := related
  cases action with
  | reconcile call =>
    obtain ⟨result, same', sound'⟩ := reconcile_alike sound same alike
    have commits : Finding.reconcile call sql.findings = .ok (reconcileRows call sql.findings) := by
      rw [Finding.reconcile, require_bind_eq_ok]
      exact ⟨decide_eq_true alike.within, rfl⟩
    simp only [Related, TwinsAgree, SqlFindingStore.act, InMemoryFindingStore.act, commits, result]
    exact ⟨⟨trivial, same'⟩, same', sound'⟩
  | acknowledge key actor time =>
    obtain ⟨row, same'⟩ : (acknowledge key actor time sql.findings).2 =
          (InMemoryFindingStore.acknowledge key actor time memory).2.map (·.toFindingRow) ∧
        Same { sql with findings := (acknowledge key actor time sql.findings).1 }
          (InMemoryFindingStore.acknowledge key actor time memory).1 := update_alike (fun _ => rfl) same key
    have sound' : Sound subjects (acknowledge key actor time sql.findings).1 :=
      update_sound sound key fun row selected row_sound =>
        ⟨row_sound.subject, fun _ => row_sound.unresolved (by intro settled; simp [settled, isActive] at selected)⟩
    exact ⟨⟨congrArg FindingReply.finding row, same'⟩, same', sound'⟩
  | suppress key actor reason until? time =>
    obtain ⟨row, same'⟩ : (suppress key actor reason until? time sql.findings).2 =
          (InMemoryFindingStore.suppress key actor reason until? time memory).2.map (·.toFindingRow) ∧
        Same { sql with findings := (suppress key actor reason until? time sql.findings).1 }
          (InMemoryFindingStore.suppress key actor reason until? time memory).1 := update_alike (fun _ => rfl) same key
    have sound' : Sound subjects (suppress key actor reason until? time sql.findings).1 :=
      update_sound sound key fun row selected row_sound =>
        ⟨row_sound.subject, fun _ => row_sound.unresolved (by intro settled; simp [settled, isActive] at selected)⟩
    exact ⟨⟨congrArg FindingReply.finding row, same'⟩, same', sound'⟩
  | replaceRisk evaluation =>
    have same' := replaceRisk_alike same alike.1 alike.2
    exact ⟨⟨rfl, same'⟩, same', sound⟩

end

/-- Both stores side by side. -/
def twinStep (startedAt : String → Time) : SqlFindingStore × InMemoryFindingStore → FindingAction →
    SqlFindingStore × InMemoryFindingStore :=
  both (fun sql action => (sql.act startedAt action).1) fun memory action => (memory.act action).1

def laterEvaluation : RiskEvaluation :=
  { siteEvaluation with
    runId := "other-run"
    siteScores := [{ sampleScore "a" with score := 40 }]
    sitesInScope := by decide
    sitesDistinct := by decide
    snapshotAt := 1 }

/-- One run of each kind of action. -/
def alikeActions : List FindingAction :=
  [.reconcile (reportingCall 1), .acknowledge "fdk" "admin" 2, .suppress "fdk" "admin" "maintenance" (some 5) 3,
    .reconcile (clearingCall 4), .replaceRisk siteEvaluation]

end OpenAssetWatch.Finding
