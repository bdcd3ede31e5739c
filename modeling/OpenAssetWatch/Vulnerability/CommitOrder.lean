import OpenAssetWatch.Library.Newest
import OpenAssetWatch.Vulnerability.History

namespace OpenAssetWatch.Vulnerability

open Library Library.Run

/-- The site and asset that a component belongs to. -/
abbrev Placement := String → String × String

section

variable (place : Placement)

def Reports (run : ReconcileStep) (key : MatchId) : Prop := ∃ m ∈ run.2.found, m.matchId = key

def keyInScope (call : ReconcileCall) (key : MatchId) : Bool :=
  call.scopeAdvisoryIds.contains key.advisoryId &&
    call.scopeSiteId.all (· == (place key.componentId).1) &&
    call.scopeAssetId.all (· == (place key.componentId).2) &&
    call.scopeComponentId.all (· == key.componentId)

/-- The run decides the pair: it reports it, or it retires it should it be stored. -/
def Covers (run : ReconcileStep) (key : MatchId) : Prop :=
  Reports run key ∨ keyInScope place run.2 key = true

/-- The status the run derives for a pair it covers. -/
def derivedStatus (run : ReconcileStep) (key : MatchId) : MatchStatus :=
  match run.2.found.find? (·.matchId = key) with
  | some m => m.matchStatus
  | none => retireStatus (run.1 key.advisoryId)

def MatchRow.Placed (row : MatchRow) (key : MatchId) : Prop := (row.siteId, row.assetId) = place key.componentId

/-- The tables, and the runs that have committed so far. -/
structure CommitState where
  store : MatchStore
  committed : List ReconcileStep := []

def commit (state : CommitState) (run : ReconcileStep) : CommitState :=
  { store := reconcileStep state.store run, committed := state.committed ++ [run] }

/-- The newest of the committed runs that cover the pair. -/
abbrev NewestRun : List ReconcileStep → MatchId → ReconcileStep → Prop :=
  Newest (Covers place) (·.2.evaluatedAt)

/-- Every stored status is the one that the newest covering run derived. -/
def NewestVerdicts (state : CommitState) : Prop :=
  ∀ key run, NewestRun place state.committed key run →
    ∀ row, state.store.rows.get? key = some row → row.matchStatus = derivedStatus run key

/-- A run that commits after a newer one finds a newer row, or nothing to write, or the same status. -/
def LateHarmless (state : CommitState) (run : ReconcileStep) : Prop :=
  ∀ key newest, Covers place run key → NewestRun place state.committed key newest →
    run.2.evaluatedAt < newest.2.evaluatedAt →
    (∃ row, state.store.rows.get? key = some row ∧ run.2.evaluatedAt < row.evaluatedAt) ∨
      (state.store.rows.get? key = none ∧ ¬ Reports run key) ∨
      derivedStatus run key = derivedStatus newest key

/-- What the service gives `reconcile`: a time of its own, on every match, no earlier than the stored rows. -/
structure WellFormedRun (start : Time) (state : CommitState) (run : ReconcileStep) : Prop where
  fresh : ∀ other ∈ state.committed, other.2.evaluatedAt ≠ run.2.evaluatedAt
  later : start ≤ run.2.evaluatedAt
  stamped : ∀ m ∈ run.2.found, m.evaluatedAt = run.2.evaluatedAt
  placed : ∀ m ∈ run.2.found, (m.siteId, m.assetId) = place m.componentId

end

theorem reports_iff {run : ReconcileStep} {key : MatchId} :
    Reports run key ↔ (run.2.found.find? (·.matchId = key)).isSome := by
  rw [List.find?_isSome]
  simp [Reports]

section

variable {place : Placement} {start : Time} {state : CommitState} {run : ReconcileStep} {key : MatchId}

theorem inScope_placed {row : MatchRow} (placed : row.Placed place key) :
    inScope run.2 key row = keyInScope place run.2 key := by
  simp only [MatchRow.Placed, Prod.ext_iff] at placed
  simp only [inScope, keyInScope, placed.1, placed.2]

theorem uncovered_row (uncovered : ¬ Covers place run key)
    (placed : ∀ row, state.store.rows.get? key = some row → row.Placed place key) :
    (reconcileStep state.store run).rows.get? key = state.store.rows.get? key := by
  apply reconcile_outside
  · rw [← Option.not_isSome_iff_eq_none, ← reports_iff]
    exact fun reports => uncovered (.inl reports)
  · intro row stored
    rw [inScope_placed (placed row stored), ← Bool.not_eq_true]
    exact fun inside => uncovered (.inr inside)

theorem covered_absent (wellFormed : WellFormedRun place start state run)
    (absent : state.store.rows.get? key = none) :
    (¬ Reports run key ∧ (reconcileStep state.store run).rows.get? key = none) ∨
      (Reports run key ∧ ∃ row, (reconcileStep state.store run).rows.get? key = some row ∧
        row.matchStatus = derivedStatus run key ∧ row.evaluatedAt = run.2.evaluatedAt ∧
        row.Placed place key) := by
  rw [reports_iff, derivedStatus]
  cases reported : run.2.found.find? (·.matchId = key) with
  | none =>
    left
    refine ⟨by simp, (reconcile_outside reported fun row stored => ?_).trans absent⟩
    rw [absent] at stored
    cases stored
  | some m =>
    right
    have member := List.mem_of_find?_eq_some reported
    have same := reported_matchId reported
    obtain ⟨row, after, status, time, place'⟩ :=
      reconcile_reported run.1 state.store reported fun row stored => by
        rw [absent] at stored
        cases stored
    refine ⟨rfl, row, after, status, time.trans (wellFormed.stamped m member), ?_⟩
    rw [absent] at place'
    rw [MatchRow.Placed, place', ← same]
    exact wellFormed.placed m member

theorem covered_older (wellFormed : WellFormedRun place start state run) (covers : Covers place run key)
    {row : MatchRow} (stored : state.store.rows.get? key = some row) (placed : row.Placed place key)
    (older : row.evaluatedAt ≤ run.2.evaluatedAt) :
    ∃ after, (reconcileStep state.store run).rows.get? key = some after ∧
      after.matchStatus = derivedStatus run key ∧ after.evaluatedAt ≤ run.2.evaluatedAt ∧
      after.Placed place key := by
  rw [derivedStatus]
  cases reported : run.2.found.find? (·.matchId = key) with
  | some m =>
    have stamp := wellFormed.stamped m (List.mem_of_find?_eq_some reported)
    obtain ⟨after, same, status, time, place'⟩ :=
      reconcile_reported run.1 state.store reported fun other here => by
        rw [stored] at here
        cases here
        exact older.trans stamp.ge
    refine ⟨after, same, status, (time.trans stamp).le, ?_⟩
    rw [stored] at place'
    exact place'.trans placed
  | none =>
    have inside : inScope run.2 key row = true := by
      rw [inScope_placed placed]
      rcases covers with reports | inside
      · rw [reports_iff, reported] at reports
        cases reports
      · exact inside
    obtain ⟨after, same, status, time, place'⟩ :=
      reconcile_retired run.1 reported stored inside older
    exact ⟨after, same, status, time, place'.trans placed⟩

theorem newer_kept (wellFormed : WellFormedRun place start state run) {row : MatchRow}
    (stored : state.store.rows.get? key = some row) (newer : run.2.evaluatedAt < row.evaluatedAt) :
    (reconcileStep state.store run).rows.get? key = some row :=
  reconcile_newer wellFormed.stamped stored newer

end

/-- The stored row of a pair against the runs that have committed. -/
structure Recent (place : Placement) (start : Time) (state : CommitState) (key : MatchId) : Prop where
  placed : ∀ row, state.store.rows.get? key = some row → row.Placed place key
  initial : (∀ run ∈ state.committed, ¬ Covers place run key) →
    ∀ row, state.store.rows.get? key = some row → row.evaluatedAt ≤ start
  bounded : ∀ run, NewestRun place state.committed key run →
    ∀ row, state.store.rows.get? key = some row → row.evaluatedAt ≤ run.2.evaluatedAt
  reported : ∀ run, NewestRun place state.committed key run → Reports run key →
    state.store.rows.get? key ≠ none

section

variable {place : Placement} {start : Time} {state : CommitState} {run : ReconcileStep} {key : MatchId}

theorem Recent.older (recent : Recent place start state key) (wellFormed : WellFormedRun place start state run)
    (first : ∀ newest, NewestRun place state.committed key newest → newest.2.evaluatedAt < run.2.evaluatedAt)
    {row : MatchRow} (stored : state.store.rows.get? key = some row) : row.evaluatedAt ≤ run.2.evaluatedAt := by
  by_cases covered : ∃ other ∈ state.committed, Covers place other key
  · obtain ⟨other, member, covers⟩ := covered
    obtain ⟨newest, hnewest⟩ := exists_newest (·.2.evaluatedAt) member covers
    exact (recent.bounded newest hnewest row stored).trans (first newest hnewest).le
  · have none_covers : ∀ other ∈ state.committed, ¬ Covers place other key :=
      fun other member covers => covered ⟨other, member, covers⟩
    exact (recent.initial none_covers row stored).trans wellFormed.later

theorem commit_row_cases (recent : Recent place start state key)
    (wellFormed : WellFormedRun place start state run) :
    (¬ Covers place run key ∧ (commit state run).store.rows.get? key = state.store.rows.get? key) ∨
    (state.store.rows.get? key = none ∧ ¬ Reports run key ∧ (commit state run).store.rows.get? key = none) ∨
    (Covers place run key ∧ (state.store.rows.get? key = none → Reports run key) ∧
      (∀ row, state.store.rows.get? key = some row → row.evaluatedAt ≤ run.2.evaluatedAt) ∧
      ∃ after, (commit state run).store.rows.get? key = some after ∧
        after.matchStatus = derivedStatus run key ∧ after.evaluatedAt ≤ run.2.evaluatedAt ∧
        after.Placed place key) ∨
    (∃ row, state.store.rows.get? key = some row ∧ run.2.evaluatedAt < row.evaluatedAt ∧
      (commit state run).store.rows.get? key = some row) := by
  by_cases covers : Covers place run key
  · right
    cases stored : state.store.rows.get? key with
    | none =>
      rcases covered_absent wellFormed stored with ⟨unreported, after⟩ | ⟨reports, row, after, status, time, placed⟩
      · exact .inl ⟨rfl, unreported, after⟩
      · refine .inr (.inl ⟨covers, fun _ => reports, ?_, row, after, status, time.le, placed⟩)
        intro row impossible
        cases impossible
    | some row =>
      right
      by_cases older : row.evaluatedAt ≤ run.2.evaluatedAt
      · left
        refine ⟨covers, ?_, ?_, ?_⟩
        · intro impossible
          cases impossible
        · intro other same
          cases same
          exact older
        · exact covered_older wellFormed covers stored (recent.placed row stored) older
      · right
        exact ⟨row, rfl, not_le.mp older, newer_kept wellFormed stored (not_le.mp older)⟩
  · exact .inl ⟨covers, uncovered_row covers recent.placed⟩

theorem recent_commit (recent : Recent place start state key)
    (wellFormed : WellFormedRun place start state run) : Recent place start (commit state run) key := by
  rcases commit_row_cases recent wellFormed with
    ⟨uncovered, same⟩ | ⟨absent, unreported, same⟩ | ⟨covers, reports, older, after, same, -, time, placed⟩ |
    ⟨row, stored, newer, same⟩
  · refine ⟨?_, ?_, ?_, ?_⟩ <;> rw [same]
    · exact recent.placed
    · exact fun none_covers => recent.initial fun other member => none_covers other (List.mem_append_left _ member)
    · intro newest hnewest
      rcases newest_append.mp hnewest with ⟨-, covers, -⟩ | ⟨hnewest, -⟩
      · exact absurd covers uncovered
      · exact recent.bounded newest hnewest
    · intro newest hnewest
      rcases newest_append.mp hnewest with ⟨-, covers, -⟩ | ⟨hnewest, -⟩
      · exact absurd covers uncovered
      · exact recent.reported newest hnewest
  · refine ⟨?_, ?_, ?_, ?_⟩
    · intro row stored
      rw [same] at stored
      cases stored
    · intro _ row stored
      rw [same] at stored
      cases stored
    · intro _ _ row stored
      rw [same] at stored
      cases stored
    · intro newest hnewest reports
      rcases newest_append.mp hnewest with ⟨rfl, -⟩ | ⟨hnewest, -⟩
      · exact absurd reports unreported
      · exact absurd absent (recent.reported newest hnewest reports)
  · refine ⟨?_, ?_, ?_, ?_⟩
    · intro row stored
      rw [same] at stored
      cases stored
      exact placed
    · intro none_covers
      exact absurd covers (none_covers run (List.mem_append_right _ (List.mem_singleton.mpr rfl)))
    · intro newest hnewest row stored
      rw [same] at stored
      cases stored
      rcases newest_append.mp hnewest with ⟨rfl, -⟩ | ⟨-, last⟩
      · exact time
      · exact time.trans (last covers)
    · intro _ _ _ impossible
      rw [same] at impossible
      cases impossible
  · refine ⟨?_, ?_, ?_, ?_⟩
    · rw [same, ← stored]
      exact recent.placed
    · intro none_covers
      rw [same, ← stored]
      exact recent.initial fun other member => none_covers other (List.mem_append_left _ member)
    · intro newest hnewest
      rw [same, ← stored]
      rcases newest_append.mp hnewest with ⟨-, -, bound⟩ | ⟨hnewest, -⟩
      · exact absurd (recent.older wellFormed (fun _ => Newest.lt_fresh wellFormed.fresh bound) stored) (not_le.mpr newer)
      · exact recent.bounded newest hnewest
    · intro _ _ _ impossible
      rw [same] at impossible
      cases impossible

theorem newest_verdicts_iff (recent : ∀ key, Recent place start state key)
    (verdicts : NewestVerdicts place state) (wellFormed : WellFormedRun place start state run) :
    NewestVerdicts place (commit state run) ↔ LateHarmless place state run := by
  constructor
  · intro after key newest covers hnewest late
    have still : NewestRun place (commit state run).committed key newest :=
      newest_append.mpr (.inr ⟨hnewest, fun _ => late.le⟩)
    rcases commit_row_cases (recent key) wellFormed with
      ⟨uncovered, -⟩ | ⟨absent, unreported, -⟩ | ⟨-, -, -, row, same, status, -⟩ | ⟨row, stored, newer, -⟩
    · exact absurd covers uncovered
    · exact .inr (.inl ⟨absent, unreported⟩)
    · exact .inr (.inr (status.symm.trans (after key newest still row same)))
    · exact .inl ⟨row, stored, newer⟩
  · intro harmless key newest hnewest row stored
    rcases newest_append.mp hnewest with ⟨rfl, covers, bound⟩ | ⟨hnewest, last⟩
    · rcases commit_row_cases (recent key) wellFormed with
        ⟨uncovered, -⟩ | ⟨-, -, same⟩ | ⟨-, -, -, after, same, status, -⟩ | ⟨before, here, newer, -⟩
      · exact absurd covers uncovered
      · rw [same] at stored
        cases stored
      · rw [same] at stored
        cases stored
        exact status
      · exact absurd ((recent key).older wellFormed (fun _ => Newest.lt_fresh wellFormed.fresh bound) here) (not_le.mpr newer)
    · rcases commit_row_cases (recent key) wellFormed with
        ⟨-, same⟩ | ⟨-, -, same⟩ | ⟨covers, reports, older, after, same, status, -⟩ | ⟨before, here, -, same⟩
      · rw [same] at stored
        exact verdicts key newest hnewest row stored
      · rw [same] at stored
        cases stored
      · rw [same] at stored
        cases stored
        have late := lt_of_le_of_ne (last covers) (wellFormed.fresh newest hnewest.1).symm
        rcases harmless key newest covers hnewest late with ⟨before, here, newer⟩ | ⟨absent, unreported⟩ | equal
        · exact absurd (older before here) (not_le.mpr newer)
        · exact absurd (reports absent) unreported
        · exact status.trans equal
      · rw [same, ← here] at stored
        exact verdicts key newest hnewest row stored

end

/-- Whatever the order of the commits, the newest verdicts stand after each of them exactly when no late one harms. -/
theorem commit_order_iff (place : Placement) (start : Time) (store : MatchStore)
    (initial : ∀ key row, store.rows.get? key = some row → row.evaluatedAt ≤ start ∧ row.Placed place key)
    (runs : List ReconcileStep) (wellFormed : Along commit (WellFormedRun place start) { store } runs) :
    Along commit (fun state run => NewestVerdicts place (commit state run)) { store } runs ↔
      Along commit (LateHarmless place) { store } runs := by
  refine along_congr
    (fun state => (∀ key, Recent place start state key) ∧ NewestVerdicts place state) ?_ ?_ ?_ wellFormed
  · intro state run good admitted
    exact newest_verdicts_iff good.1 good.2 admitted
  · intro state run good admitted verdicts
    exact ⟨fun key => recent_commit (good.1 key) admitted, verdicts⟩
  · refine ⟨fun key => ⟨fun row h => (initial key row h).2, fun _ row h => (initial key row h).1, ?_, ?_⟩, ?_⟩
    · rintro run ⟨impossible, -⟩
      cases impossible
    · rintro run ⟨impossible, -⟩
      cases impossible
    · rintro key run ⟨impossible, -⟩
      cases impossible

/-- A run that reports nothing and may retire what is stored for the advisory. -/
def sweepStep (evaluatedAt : Time) : ReconcileStep :=
  (fun _ => ⟨true, "checksum"⟩,
    { runId := "run", found := [], advisoryChecksums := .empty, scopeAdvisoryIds := ["adv"], evaluatedAt
      distinct := List.nodup_nil })

/-- The run of time 2 commits first and finds nothing to write; the run of time 1 follows. -/
def lateRuns : List ReconcileStep :=
  [sampleStep .notAffected 0 "checksum", sweepStep 2, sampleStep .affected 1 "checksum"]

def onePlace : Placement := fun _ => ("site", "asset")

theorem commit_order_iff_late :
    Along commit (fun state run => NewestVerdicts onePlace (commit state run)) { store := {} } lateRuns ↔
      Along commit (LateHarmless onePlace) { store := {} } lateRuns := by
  refine commit_order_iff onePlace 0 {} (fun _ _ impossible => by cases impossible) lateRuns ?_
  refine ⟨⟨by decide, by decide, by decide, by decide⟩, ⟨by decide, by decide, by decide, by decide⟩,
    ⟨by decide, by decide, by decide, by decide⟩, trivial⟩

/-- The stored match ends affected although the newest run did not report it. -/
theorem late_run_overrides :
    ¬ Along commit (fun state run => NewestVerdicts onePlace (commit state run)) { store := {} } lateRuns := by
  intro run
  have newest : NewestRun onePlace lateRuns ⟨"cmp", "adv"⟩ (sweepStep 2) := by
    refine ⟨by simp [lateRuns], .inr (by decide), fun other member _ => ?_⟩
    simp only [lateRuns, List.mem_cons, List.not_mem_nil, or_false] at member
    rcases member with rfl | rfl | rfl <;> decide
  obtain ⟨row, stored⟩ : ∃ row, (lateRuns.foldl reconcileStep {}).rows.get? ⟨"cmp", "adv"⟩ = some row :=
    ⟨_, rfl⟩
  have status := run.2.2.1 ⟨"cmp", "adv"⟩ (sweepStep 2) newest row stored
  cases stored
  revert status
  decide

end OpenAssetWatch.Vulnerability
