import OpenAssetWatch.Library.Newest
import OpenAssetWatch.Library.Run
import OpenAssetWatch.Finding.Risk

namespace OpenAssetWatch.Finding

open Library Library.Run

/-- The tables, and the evaluations that have committed their scores so far. -/
structure RiskState where
  tables : RiskTables
  committed : List RiskEvaluation := []

def Covers (evaluation : RiskEvaluation) (site : String) : Prop := siteCovers evaluation.siteId site = true

instance (evaluation : RiskEvaluation) (site : String) : Decidable (Covers evaluation site) := by
  unfold Covers; infer_instance

/-- The evaluation that started last among the committed ones whose scope covers the site. -/
abbrev NewestEvaluation : List RiskEvaluation → String → RiskEvaluation → Prop :=
  Newest Covers (·.snapshotAt)

def RiskTables.ofSite (tables : RiskTables) (site : String) : RiskTables := tables.select (· == site)

section

variable (startedAt : String → Time) (sites : List String) (start : Time)

def commitRisk (state : RiskState) (evaluation : RiskEvaluation) : RiskState :=
  { tables := replaceRisk startedAt evaluation state.tables, committed := state.committed ++ [evaluation] }

/-- Every site's rows are those of the newest evaluation that covers it. -/
def NewestScores (state : RiskState) : Prop :=
  ∀ site ∈ sites, ∀ evaluation, NewestEvaluation state.committed site evaluation →
    state.tables.ofSite site = evaluation.rows.ofSite site

def NewerStored (tables : RiskTables) (evaluation : RiskEvaluation) (site : String) : Prop :=
  ∃ row ∈ tables.siteScores, row.score.siteId = site ∧ evaluation.snapshotAt < startedAt row.evaluationRunId

/-- When one site in the scope already has newer scores, all of them have. -/
def AllOrNone (state : RiskState) (evaluation : RiskEvaluation) : Prop :=
  ∀ site ∈ sites, Covers evaluation site → NewerStored startedAt state.tables evaluation site →
    ∀ other ∈ sites, Covers evaluation other → NewerStored startedAt state.tables evaluation other

/-- What the service gives `replace_risk`: its own start, and a score for each site of its scope. -/
structure WellFormedEvaluation (state : RiskState) (evaluation : RiskEvaluation) : Prop where
  fresh : ∀ other ∈ state.committed, other.snapshotAt ≠ evaluation.snapshotAt
  later : start < evaluation.snapshotAt
  begun : startedAt evaluation.runId = evaluation.snapshotAt
  complete : ∀ site ∈ sites, Covers evaluation site → ∃ score ∈ evaluation.siteScores, score.siteId = site
  known : ∀ score ∈ evaluation.siteScores, score.siteId ∈ sites

/-- The stored site scores against the evaluations that have committed. -/
structure Recorded (state : RiskState) : Prop where
  known : ∀ row ∈ state.tables.siteScores, row.score.siteId ∈ sites
  initial : ∀ row ∈ state.tables.siteScores, (∀ other ∈ state.committed, ¬ Covers other row.score.siteId) →
    startedAt row.evaluationRunId ≤ start
  begun : ∀ other ∈ state.committed, startedAt other.runId = other.snapshotAt
  complete : ∀ other ∈ state.committed, ∀ site ∈ sites, Covers other site →
    ∃ score ∈ other.siteScores, score.siteId = site

end

section

variable {startedAt : String → Time} {sites : List String} {start : Time} {state : RiskState}
  {evaluation : RiskEvaluation} {site : String}

theorem max?_any_lt {values : List Time} {time : Time} :
    values.max?.any (time < ·) = true ↔ ∃ value ∈ values, time < value := by
  cases newest : values.max? with
  | none => simp [List.max?_eq_none_iff.mp newest]
  | some value =>
    obtain ⟨member, bound⟩ := List.max?_eq_some_iff.mp newest
    simp only [Option.any_some, decide_eq_true_eq]
    exact ⟨fun later => ⟨value, member, later⟩, fun ⟨other, hother, later⟩ => later.trans_le (bound other hother)⟩

theorem discarded_iff {tables : RiskTables} :
    (newestStart startedAt evaluation tables).any (evaluation.snapshotAt < ·) = true ↔
      ∃ site, Covers evaluation site ∧ NewerStored startedAt tables evaluation site := by
  rw [newestStart, max?_any_lt]
  simp only [RiskTables.select, List.mem_map, List.mem_filter]
  constructor
  · intro ⟨_, ⟨row, ⟨stored, covers⟩, started⟩, later⟩
    exact ⟨row.score.siteId, covers, row, stored, rfl, started ▸ later⟩
  · intro ⟨site, covers, row, stored, place, later⟩
    exact ⟨_, ⟨row, ⟨stored, place ▸ covers⟩, rfl⟩, later⟩

variable (site) in
theorem filter_key {α : Type} (key : α → String) (p : String → Bool) (rows : List α) :
    (rows.filter (p <| key ·)).filter (key · == site) =
      if p site then rows.filter (key · == site) else [] := by
  rw [List.filter_filter]
  by_cases selected : p site = true
  · rw [if_pos selected]
    refine List.filter_congr fun row _ => ?_
    by_cases here : key row = site
    · simp [here, selected]
    · simp [here]
  · rw [if_neg selected, List.filter_eq_nil_iff]
    intro row _ both
    simp only [Bool.and_eq_true, beq_iff_eq] at both
    exact selected (both.1 ▸ both.2)

theorem select_ofSite (tables : RiskTables) (p : String → Bool) :
    (tables.select p).ofSite site = if p site then tables.ofSite site else {} := by
  have factors := filter_key site (fun row : RiskFactorRow => row.siteId) p tables.factors
  have assets := filter_key site (fun row : Calculated AssetRiskScore => row.score.siteId) p tables.assetScores
  have sites := filter_key site (fun row : Calculated SiteRiskScore => row.score.siteId) p tables.siteScores
  simp only [RiskTables.ofSite, RiskTables.select, factors, assets, sites]
  split <;> rfl

theorem rows_select (evaluation : RiskEvaluation) :
    evaluation.rows.select (siteCovers evaluation.siteId) = evaluation.rows := by
  have factors : ∀ row ∈ evaluation.rows.factors, siteCovers evaluation.siteId row.siteId = true := by
    intro row member
    rcases List.mem_append.mp member with member | member
    · obtain ⟨score, hscore, inserted⟩ := List.mem_flatMap.mp member
      obtain ⟨factor, -, rfl⟩ := List.mem_map.mp inserted
      exact evaluation.assetsInScope score hscore
    · obtain ⟨score, hscore, inserted⟩ := List.mem_flatMap.mp member
      obtain ⟨factor, -, rfl⟩ := List.mem_map.mp inserted
      exact evaluation.sitesInScope score hscore
  have assets : ∀ row ∈ evaluation.rows.assetScores, siteCovers evaluation.siteId row.score.siteId = true := by
    intro row member
    obtain ⟨score, hscore, rfl⟩ := List.mem_map.mp member
    exact evaluation.assetsInScope score hscore
  have sites : ∀ row ∈ evaluation.rows.siteScores, siteCovers evaluation.siteId row.score.siteId = true := by
    intro row member
    obtain ⟨score, hscore, rfl⟩ := List.mem_map.mp member
    exact evaluation.sitesInScope score hscore
  simp only [RiskTables.select, List.filter_eq_self.mpr factors, List.filter_eq_self.mpr assets,
    List.filter_eq_self.mpr sites]

theorem append_ofSite (first second : RiskTables) :
    (first.append second).ofSite site = (first.ofSite site).append (second.ofSite site) := by
  simp only [RiskTables.ofSite, RiskTables.select, RiskTables.append, List.filter_append]

theorem replaced_covered (tables : RiskTables) (covers : Covers evaluation site) :
    ((tables.select (!siteCovers evaluation.siteId ·)).append evaluation.rows).ofSite site =
      evaluation.rows.ofSite site := by
  have inside : siteCovers evaluation.siteId site = true := covers
  simp only [append_ofSite, select_ofSite, inside, Bool.not_true, Bool.false_eq_true, if_false]
  rfl

theorem replaced_uncovered (tables : RiskTables) (uncovered : ¬ Covers evaluation site) :
    ((tables.select (!siteCovers evaluation.siteId ·)).append evaluation.rows).ofSite site = tables.ofSite site := by
  have outside : siteCovers evaluation.siteId site = false := Bool.eq_false_iff.mpr uncovered
  have nothing : evaluation.rows.ofSite site = {} := by
    rw [← rows_select, select_ofSite, outside]
    rfl
  simp only [append_ofSite, select_ofSite, outside, Bool.not_false, if_true, nothing]
  simp only [RiskTables.append, List.append_nil]

theorem mem_ofSite {tables : RiskTables} {row : Calculated SiteRiskScore} :
    row ∈ (tables.ofSite site).siteScores ↔ row ∈ tables.siteScores ∧ row.score.siteId = site := by
  simp only [RiskTables.ofSite, RiskTables.select, List.mem_filter, beq_iff_eq]

theorem inserted_start {row : Calculated SiteRiskScore} (begun : startedAt evaluation.runId = evaluation.snapshotAt)
    (inserted : row ∈ evaluation.rows.siteScores) : startedAt row.evaluationRunId = evaluation.snapshotAt := by
  obtain ⟨score, -, rfl⟩ := List.mem_map.mp inserted
  exact begun

theorem stored_start (scores : NewestScores sites state) (recorded : Recorded startedAt sites start state)
    {row : Calculated SiteRiskScore} (stored : row ∈ state.tables.siteScores) :
    (∃ newest, NewestEvaluation state.committed row.score.siteId newest ∧
      startedAt row.evaluationRunId = newest.snapshotAt) ∨ startedAt row.evaluationRunId ≤ start := by
  by_cases covered : ∃ other ∈ state.committed, Covers other row.score.siteId
  · obtain ⟨other, member, covers⟩ := covered
    obtain ⟨newest, hnewest⟩ := exists_newest (·.snapshotAt) member covers
    have here := mem_ofSite.mpr ⟨stored, rfl⟩
    rw [scores _ (recorded.known row stored) newest hnewest] at here
    exact .inl ⟨newest, hnewest, inserted_start (recorded.begun newest hnewest.1) (mem_ofSite.mp here).1⟩
  · right
    exact recorded.initial row stored fun other member covers => covered ⟨other, member, covers⟩

variable (evaluation) in
theorem newer_iff (scores : NewestScores sites state) (recorded : Recorded startedAt sites start state)
    (later : start < evaluation.snapshotAt) (hsite : site ∈ sites) :
    NewerStored startedAt state.tables evaluation site ↔
      ∃ newest, NewestEvaluation state.committed site newest ∧ evaluation.snapshotAt < newest.snapshotAt := by
  constructor
  · intro ⟨row, stored, place, newer⟩
    rcases stored_start scores recorded stored with ⟨newest, hnewest, started⟩ | old
    · exact ⟨newest, place ▸ hnewest, started ▸ newer⟩
    · exact absurd (later.trans newer) (not_lt.mpr old)
  · intro ⟨newest, hnewest, newer⟩
    obtain ⟨score, hscore, place⟩ := recorded.complete newest hnewest.1 site hsite hnewest.2.1
    have inserted : newest.calculated score ∈ newest.rows.siteScores := List.mem_map_of_mem hscore
    have here := mem_ofSite.mpr ⟨inserted, place⟩
    rw [← scores site hsite newest hnewest] at here
    obtain ⟨stored, -⟩ := mem_ofSite.mp here
    exact ⟨_, stored, place, (inserted_start (recorded.begun newest hnewest.1) inserted).symm ▸ newer⟩

theorem recorded_commit (recorded : Recorded startedAt sites start state)
    (wellFormed : WellFormedEvaluation startedAt sites start state evaluation) :
    Recorded startedAt sites start (commitRisk startedAt state evaluation) := by
  have source : ∀ row ∈ (commitRisk startedAt state evaluation).tables.siteScores,
      row ∈ state.tables.siteScores ∨ row ∈ evaluation.rows.siteScores := by
    intro row member
    simp only [commitRisk, replaceRisk] at member
    split at member
    · exact .inl member
    · rcases List.mem_append.mp member with kept | inserted
      · exact .inl (List.mem_filter.mp kept).1
      · exact .inr inserted
  have committed : ∀ other ∈ (commitRisk startedAt state evaluation).committed,
      other ∈ state.committed ∨ other = evaluation := fun other member => by
    simpa [commitRisk] using member
  refine ⟨?_, ?_, ?_, ?_⟩
  · intro row member
    rcases source row member with kept | inserted
    · exact recorded.known row kept
    · obtain ⟨score, hscore, rfl⟩ := List.mem_map.mp inserted
      exact wellFormed.known score hscore
  · intro row member none_covers
    rcases source row member with kept | inserted
    · exact recorded.initial row kept fun other h => none_covers other (List.mem_append_left _ h)
    · obtain ⟨score, hscore, rfl⟩ := List.mem_map.mp inserted
      exact absurd (evaluation.sitesInScope score hscore)
        (none_covers evaluation (List.mem_append_right _ (List.mem_singleton.mpr rfl)))
  · intro other member
    rcases committed other member with old | rfl
    · exact recorded.begun other old
    · exact wellFormed.begun
  · intro other member
    rcases committed other member with old | rfl
    · exact recorded.complete other old
    · exact wellFormed.complete

theorem newest_scores_iff (scores : NewestScores sites state) (recorded : Recorded startedAt sites start state)
    (wellFormed : WellFormedEvaluation startedAt sites start state evaluation) :
    NewestScores sites (commitRisk startedAt state evaluation) ↔ AllOrNone startedAt sites state evaluation := by
  have newer (site : String) (hsite : site ∈ sites) :=
    newer_iff evaluation scores recorded wellFormed.later hsite
  constructor
  · intro after site hsite covers stored other hother hcovers
    by_contra older
    have discarded := discarded_iff.mpr ⟨site, covers, stored⟩
    have last : NewestEvaluation (state.committed ++ [evaluation]) other evaluation := by
      refine newest_append.mpr (.inl ⟨rfl, hcovers, fun run member hrun => ?_⟩)
      obtain ⟨newest, hnewest⟩ := exists_newest (·.snapshotAt) member hrun
      refine (hnewest.2.2 run member hrun).trans (not_lt.mp fun above => older ?_)
      exact (newer other hother).mpr ⟨newest, hnewest, above⟩
    have lost := after other hother evaluation last
    simp only [commitRisk, replaceRisk, if_pos discarded] at lost
    obtain ⟨score, hscore, place⟩ := wellFormed.complete other hother hcovers
    have inserted : evaluation.calculated score ∈ evaluation.rows.siteScores := List.mem_map_of_mem hscore
    have here := mem_ofSite.mpr ⟨inserted, place⟩
    rw [← lost] at here
    have begun := inserted_start wellFormed.begun inserted
    rcases stored_start scores recorded (mem_ofSite.mp here).1 with ⟨newest, hnewest, started⟩ | old
    · exact wellFormed.fresh newest hnewest.1 (started.symm.trans begun)
    · exact absurd wellFormed.later (not_lt.mpr (begun ▸ old))
  · intro whole site hsite newest hnewest
    by_cases discarded : (newestStart startedAt evaluation state.tables).any (evaluation.snapshotAt < ·) = true
    · simp only [commitRisk, replaceRisk, if_pos discarded]
      rcases newest_append.mp hnewest with ⟨rfl, covers, bound⟩ | ⟨before, -⟩
      · obtain ⟨first, hfirst, row, stored, place, later⟩ := discarded_iff.mp discarded
        have known : first ∈ sites := place ▸ recorded.known row stored
        obtain ⟨other, hother, above⟩ := (newer site hsite).mp
          (whole first known hfirst ⟨row, stored, place, later⟩ site hsite covers)
        exact absurd (bound other hother.1 hother.2.1) (not_le.mpr above)
      · exact scores site hsite newest before
    · simp only [commitRisk, replaceRisk, if_neg discarded]
      by_cases covers : Covers evaluation site
      · rw [replaced_covered _ covers]
        rcases newest_append.mp hnewest with ⟨rfl, -⟩ | ⟨before, last⟩
        · rfl
        · have above := lt_of_le_of_ne (last covers) (wellFormed.fresh newest before.1).symm
          exact absurd (discarded_iff.mpr ⟨site, covers, (newer site hsite).mpr ⟨newest, before, above⟩⟩) discarded
      · rw [replaced_uncovered _ covers]
        rcases newest_append.mp hnewest with ⟨rfl, impossible, -⟩ | ⟨before, -⟩
        · exact absurd impossible covers
        · exact scores site hsite newest before

end

/-- In any order of the commits every site keeps its newest scores after each of them exactly when no evaluation meets
newer scores in a part of its sites only. -/
theorem risk_order_iff (startedAt : String → Time) (sites : List String) (start : Time) (tables : RiskTables)
    (initial : ∀ row ∈ tables.siteScores, row.score.siteId ∈ sites ∧ startedAt row.evaluationRunId ≤ start)
    (evaluations : List RiskEvaluation)
    (wellFormed : Along (commitRisk startedAt) (WellFormedEvaluation startedAt sites start) { tables } evaluations) :
    Along (commitRisk startedAt) (fun state evaluation => NewestScores sites (commitRisk startedAt state evaluation))
        { tables } evaluations ↔
      Along (commitRisk startedAt) (AllOrNone startedAt sites) { tables } evaluations := by
  refine along_congr (fun state => NewestScores sites state ∧ Recorded startedAt sites start state) ?_ ?_ ?_ wellFormed
  · intro state evaluation good admitted
    exact newest_scores_iff good.1 good.2 admitted
  · intro state evaluation good admitted scores
    exact ⟨scores, recorded_commit good.2 admitted⟩
  · refine ⟨?_, fun row stored => (initial row stored).1, fun row stored _ => (initial row stored).2, ?_, ?_⟩
    · intro site _ evaluation newest
      cases newest.1
    · intro other impossible
      cases impossible
    · intro other impossible
      cases impossible

def sampleScore (siteId : String) : SiteRiskScore :=
  { siteId, score := 0, band := "minimal", formulaVersion := "oaw.risk.v1", assetCount := 0, findingCount := 0
    dataAsOf := none, factors := [] }

def siteEvaluation : RiskEvaluation where
  runId := "site-run"
  assetScores := []
  siteScores := [sampleScore "a"]
  calculatedAt := 3
  snapshotAt := 2
  siteId := some "a"
  assetsInScope := by decide
  sitesInScope := by decide
  assetsDistinct := by decide
  sitesDistinct := by decide

def globalEvaluation : RiskEvaluation where
  runId := "global-run"
  assetScores := []
  siteScores := [sampleScore "a", sampleScore "b"]
  calculatedAt := 4
  snapshotAt := 1
  siteId := none
  assetsInScope := by decide
  sitesInScope := by decide
  assetsDistinct := by decide
  sitesDistinct := by decide

def sampleStarts (runId : String) : Time := if runId = "site-run" then 2 else 1

theorem risk_order_iff_sites :
    Along (commitRisk sampleStarts)
        (fun state evaluation => NewestScores ["a", "b"] (commitRisk sampleStarts state evaluation))
        { tables := {} } [siteEvaluation, globalEvaluation] ↔
      Along (commitRisk sampleStarts) (AllOrNone sampleStarts ["a", "b"])
        { tables := {} } [siteEvaluation, globalEvaluation] := by
  refine risk_order_iff sampleStarts ["a", "b"] 0 {} (fun _ impossible => by cases impossible) _ ?_
  refine ⟨⟨?_, by decide, by decide, by decide, by decide⟩, ⟨?_, by decide, by decide, by decide, by decide⟩, trivial⟩
  · intro other impossible
    cases impossible
  · intro other member
    rw [List.mem_singleton.mp member]
    decide

/-- The global evaluation finds newer scores of site `a` and leaves site `b` without any. -/
theorem other_site_discarded :
    ¬ Along (commitRisk sampleStarts)
        (fun state evaluation => NewestScores ["a", "b"] (commitRisk sampleStarts state evaluation))
        { tables := {} } [siteEvaluation, globalEvaluation] := by
  intro run
  have newest : NewestEvaluation [siteEvaluation, globalEvaluation] "b" globalEvaluation := by
    refine ⟨by simp, rfl, fun other member covers => ?_⟩
    simp only [List.mem_cons, List.not_mem_nil, or_false] at member
    rcases member with rfl | rfl
    · exact absurd covers (by decide)
    · exact le_refl _
  have scores := run.2.1 "b" (by decide) globalEvaluation newest
  revert scores
  decide

end OpenAssetWatch.Finding
