import OpenAssetWatch.Finding.StoreRows
import OpenAssetWatch.Library.Newest
import OpenAssetWatch.Library.Run

namespace OpenAssetWatch.Finding

open Library Library.Run

/-- The tables, and the snapshots that have been reconciled so far, the last one first. -/
structure FindingState where
  store : FindingStore
  committed : List ReconcileCall := []

/-- A call that exceeds the record limit rolls back. -/
def commitFindings (state : FindingState) (call : ReconcileCall) : FindingState :=
  match reconcile call state.store with
  | .error _ => state
  | .ok done => { store := done.store, committed := call :: state.committed }

def byTime (calls : List ReconcileCall) : List ReconcileCall :=
  calls.insertionSort (·.evaluatedAt ≤ ·.evaluatedAt)

def reconcileAll (store : FindingStore) (calls : List ReconcileCall) : FindingStore :=
  calls.foldl (fun store call => (reconcileRows call store).store) store

/-- The keys of the findings that `active_findings` selects. -/
def activeKeys (store : FindingStore) : Set String :=
  {key | ∃ row, store.findings.get? key = some row ∧ isActive row.status = true}

/-- The same findings are active as if the snapshots had been reconciled in the order of their times. -/
def ActiveInOrder (initial : FindingStore) (state : FindingState) : Prop :=
  activeKeys state.store = activeKeys (reconcileAll initial (byTime state.committed))

section

variable (subjects : Subjects)

def Decided (call : ReconcileCall) (key : String) : Prop := (lookOf subjects key call).Decides

/-- The latest of the committed snapshots that reported the finding or cleared it. -/
abbrev NewestDecision : List ReconcileCall → String → ReconcileCall → Prop :=
  Newest (Decided subjects) (·.evaluatedAt)

/-- After a newer decision a snapshot reports only what a newer row records, and clears nothing that is suppressed. -/
def LateHarmless (state : FindingState) (call : ReconcileCall) : Prop :=
  ∀ key newest, NewestDecision subjects state.committed key newest → call.evaluatedAt < newest.evaluatedAt →
    ((lookOf subjects key call).verdict = .reported →
      ∃ row, state.store.findings.get? key = some row ∧ call.evaluatedAt < row.evaluatedAt) ∧
    ((lookOf subjects key call).verdict = .cleared →
      ∀ row, state.store.findings.get? key = some row → row.status ≠ .suppressed)

/-- What the service gives `reconcile`: a time of its own, no earlier than the stored rows, and candidates
that their keys identify; the transaction commits. -/
structure WellFormedCall (start : Time) (state : FindingState) (call : ReconcileCall) : Prop where
  fresh : ∀ other ∈ state.committed, other.evaluatedAt ≠ call.evaluatedAt
  later : start ≤ call.evaluatedAt
  placed : ∀ candidate ∈ call.snapshot.candidates, candidate.toSubject = subjects candidate.dedupeKey
  commits : ∃ done, reconcile call state.store = .ok done

/-- The row of one key against the snapshots that have been reconciled. -/
structure Tracked (start : Time) (initial : FindingStore) (state : FindingState) (key : String) : Prop where
  life : rowLife (state.store.findings.get? key) =
    (rowLife (initial.findings.get? key)).through ((byTime state.committed).map (lookOf subjects key))
  subject : ∀ row, state.store.findings.get? key = some row → row.toSubject = subjects key
  initial : (∀ call ∈ state.committed, ¬ Decided subjects call key) →
    ∀ row, state.store.findings.get? key = some row → row.evaluatedAt ≤ start
  bounded : ∀ newest, NewestDecision subjects state.committed key newest →
    ∀ row, state.store.findings.get? key = some row → row.evaluatedAt ≤ newest.evaluatedAt
  reported : ∀ newest, NewestDecision subjects state.committed key newest →
    (lookOf subjects key newest).verdict = .reported →
    ∃ row, state.store.findings.get? key = some row ∧ newest.evaluatedAt ≤ row.evaluatedAt

end

section

variable {subjects : Subjects} {start : Time} {initial : FindingStore} {state : FindingState}
  {call : ReconcileCall} {key : String}

theorem mem_byTime {calls : List ReconcileCall} : call ∈ byTime calls ↔ call ∈ calls :=
  List.mem_insertionSort _

theorem byTime_sorted (calls : List ReconcileCall) :
    (byTime calls).Pairwise (·.evaluatedAt ≤ ·.evaluatedAt) :=
  List.pairwise_insertionSort (fun x y : ReconcileCall => x.evaluatedAt ≤ y.evaluatedAt) calls

theorem commit_eq (wellFormed : WellFormedCall subjects start state call) :
    commitFindings state call =
      { store := (reconcileRows call state.store).store, committed := call :: state.committed } := by
  obtain ⟨done, committed⟩ := wellFormed.commits
  have same : reconcileRows call state.store = done := by
    simp only [reconcile, require_bind_eq_ok] at committed
    exact Except.ok.inj committed.2
  simp only [commitFindings, committed, same]

theorem active_iff (store : FindingStore) :
    key ∈ activeKeys store ↔ rowLife (store.findings.get? key) = .live := by
  change (∃ row, store.findings.get? key = some row ∧ isActive row.status = true) ↔ _
  cases store.findings.get? key with
  | none => simp [rowLife]
  | some row => cases status : row.status <;> simp [rowLife, isActive, status]

theorem reconcileAll_life {calls : List ReconcileCall} {store : FindingStore} {time : Time}
    (sorted : calls.Pairwise (·.evaluatedAt ≤ ·.evaluatedAt)) (later : ∀ call ∈ calls, time ≤ call.evaluatedAt)
    (placed : ∀ call ∈ calls, ∀ candidate ∈ call.snapshot.candidates,
      candidate.toSubject = subjects candidate.dedupeKey)
    (by_time : RowBy subjects key time (store.findings.get? key)) :
    rowLife ((reconcileAll store calls).findings.get? key) =
      (rowLife (store.findings.get? key)).through (calls.map (lookOf subjects key)) := by
  induction calls generalizing store time with
  | nil => rfl
  | cons call rest ih =>
    obtain ⟨before, sorted⟩ := List.pairwise_cons.mp sorted
    have by_call : RowBy subjects key call.evaluatedAt (store.findings.get? key) := fun row stored =>
      ⟨(by_time row stored).1, (by_time row stored).2.trans (later call List.mem_cons_self)⟩
    obtain ⟨next, life, -⟩ := rowAfter_older (placed call List.mem_cons_self) by_call
    rw [← reconcileRows_row] at next life
    have turn := ih sorted before (fun other h => placed other (List.mem_cons_of_mem _ h)) next
    rw [life] at turn
    exact turn

theorem looks_ordered {calls : List ReconcileCall} (distinct : (calls.map (·.evaluatedAt)).Nodup) :
    InOrder ((byTime calls).map (lookOf subjects key)) := by
  have order := List.perm_insertionSort (fun x y : ReconcileCall => x.evaluatedAt ≤ y.evaluatedAt) calls
  have moved : ((byTime calls).map (·.evaluatedAt)).Nodup := (order.map _).nodup_iff.mpr distinct
  have apart : (byTime calls).Pairwise (·.evaluatedAt ≠ ·.evaluatedAt) := List.pairwise_map.mp moved
  refine List.pairwise_map.mpr ?_
  exact ((byTime_sorted calls).and apart).imp fun h => lt_of_le_of_ne h.1 h.2

theorem dropWhile_later {calls : List ReconcileCall} (sorted : calls.Pairwise (·.evaluatedAt ≤ ·.evaluatedAt))
    {other : ReconcileCall} (member : other ∈ calls.dropWhile fun b => ¬ call.evaluatedAt ≤ b.evaluatedAt) :
    call.evaluatedAt ≤ other.evaluatedAt := by
  induction calls with
  | nil => cases member
  | cons first rest ih =>
    obtain ⟨before, sorted⟩ := List.pairwise_cons.mp sorted
    by_cases here : call.evaluatedAt ≤ first.evaluatedAt
    · rw [List.dropWhile_cons_of_neg (by simpa using here)] at member
      rcases List.mem_cons.mp member with rfl | member
      · exact here
      · exact here.trans (before other member)
    · rw [List.dropWhile_cons_of_pos (by simpa using here)] at member
      exact ih sorted member

theorem byTime_cons (call : ReconcileCall) (committed : List ReconcileCall) :
    ∃ before after, byTime (call :: committed) = before ++ call :: after ∧ byTime committed = before ++ after ∧
      ∀ other ∈ after, other ∈ committed ∧ call.evaluatedAt ≤ other.evaluatedAt := by
  have whole := List.takeWhile_append_dropWhile (p := fun b => ¬ call.evaluatedAt ≤ b.evaluatedAt)
    (l := byTime committed)
  refine ⟨_, _, List.insertionSort_cons_eq_take_drop _ call committed, whole.symm, fun other member => ?_⟩
  exact ⟨mem_byTime.mp (List.dropWhile_subset _ member), dropWhile_later (byTime_sorted _) member⟩

/-- No committed snapshot decides the finding after this one. -/
def Latest (subjects : Subjects) (committed : List ReconcileCall) (key : String) (call : ReconcileCall) : Prop :=
  ∀ other ∈ committed, Decided subjects other key → other.evaluatedAt < call.evaluatedAt

theorem latest_life (latest : Latest subjects state.committed key call) (life : Life) :
    life.through ((byTime (call :: state.committed)).map (lookOf subjects key)) =
      (life.through ((byTime state.committed).map (lookOf subjects key))).after (lookOf subjects key call) := by
  obtain ⟨before, after, more, whole, later⟩ := byTime_cons call state.committed
  have quiet : ∀ look ∈ after.map (lookOf subjects key), ¬ look.Decides := by
    intro look member decides
    obtain ⟨other, hother, rfl⟩ := List.mem_map.mp member
    exact absurd (latest other (later other hother).1 decides) (not_lt.mpr (later other hother).2)
  rw [more, whole, List.map_append, List.map_cons, newest_look quiet, ← List.map_append]

theorem silent_life (undecided : ¬ Decided subjects call key) (life : Life) :
    life.through ((byTime (call :: state.committed)).map (lookOf subjects key)) =
      life.through ((byTime state.committed).map (lookOf subjects key)) := by
  obtain ⟨before, after, more, whole, -⟩ := byTime_cons call state.committed
  rw [more, whole, List.map_append, List.map_cons, silent_look undecided, ← List.map_append]

theorem newest_or_latest (wellFormed : WellFormedCall subjects start state call) (key : String) :
    Latest subjects state.committed key call ∨
      ∃ newest, NewestDecision subjects state.committed key newest ∧ call.evaluatedAt < newest.evaluatedAt := by
  by_cases latest : Latest subjects state.committed key call
  · exact .inl latest
  · right
    simp only [Latest, not_forall, not_lt] at latest
    obtain ⟨other, member, decided, later⟩ := latest
    obtain ⟨newest, hnewest⟩ := exists_newest (·.evaluatedAt) member decided
    have bound := later.trans (hnewest.2.2 other member decided)
    exact ⟨newest, hnewest, lt_of_le_of_ne bound (wellFormed.fresh newest hnewest.1).symm⟩

theorem Tracked.row_by (tracked : Tracked subjects start initial state key)
    (wellFormed : WellFormedCall subjects start state call) (latest : Latest subjects state.committed key call) :
    RowBy subjects key call.evaluatedAt (state.store.findings.get? key) := by
  intro row stored
  refine ⟨tracked.subject row stored, ?_⟩
  by_cases decided : ∃ other ∈ state.committed, Decided subjects other key
  · obtain ⟨other, member, decides⟩ := decided
    obtain ⟨newest, hnewest⟩ := exists_newest (·.evaluatedAt) member decides
    exact (tracked.bounded newest hnewest row stored).trans (latest newest hnewest.1 hnewest.2.1).le
  · have undecided : ∀ other ∈ state.committed, ¬ Decided subjects other key :=
      fun other member decides => decided ⟨other, member, decides⟩
    exact (tracked.initial undecided row stored).trans wellFormed.later

theorem tracked_decided (tracked : Tracked subjects start initial state key)
    (wellFormed : WellFormedCall subjects start state call) (decided : Decided subjects call key)
    (latest : Latest subjects state.committed key call) :
    Tracked subjects start initial (commitFindings state call) key := by
  obtain ⟨by_call, life, written⟩ := rowAfter_older wellFormed.placed (tracked.row_by wellFormed latest)
  rw [← reconcileRows_row] at by_call life written
  rw [commit_eq wellFormed]
  have only : ∀ newest, NewestDecision subjects (call :: state.committed) key newest → newest = call := by
    intro newest hnewest
    rcases newest_cons.mp hnewest with ⟨same, -⟩ | ⟨before, last⟩
    · exact same
    · exact absurd (latest newest before.1 before.2.1) (not_lt.mpr (last decided))
  refine ⟨?_, fun row stored => (by_call row stored).1, ?_, ?_, ?_⟩
  · rw [latest_life latest, life, tracked.life]
  · intro undecided
    exact absurd decided (undecided call List.mem_cons_self)
  · intro newest hnewest row stored
    rw [only newest hnewest]
    exact (by_call row stored).2
  · intro newest hnewest reported
    rw [only newest hnewest] at reported ⊢
    obtain ⟨row, stored, time⟩ := written reported
    exact ⟨row, stored, time.ge⟩

theorem tracked_kept (tracked : Tracked subjects start initial state key)
    (wellFormed : WellFormedCall subjects start state call)
    (kept : rowAfter call key (state.store.findings.get? key) = state.store.findings.get? key)
    (life : (rowLife (initial.findings.get? key)).through ((byTime (call :: state.committed)).map (lookOf subjects key)) =
      (rowLife (initial.findings.get? key)).through ((byTime state.committed).map (lookOf subjects key)))
    (overtaken : ¬ (Decided subjects call key ∧ Latest subjects state.committed key call)) :
    Tracked subjects start initial (commitFindings state call) key := by
  rw [← reconcileRows_row] at kept
  rw [commit_eq wellFormed]
  have before : ∀ newest, NewestDecision subjects (call :: state.committed) key newest →
      NewestDecision subjects state.committed key newest := by
    intro newest hnewest
    rcases newest_cons.mp hnewest with ⟨rfl, decided, bound⟩ | ⟨before, -⟩
    · refine absurd ⟨decided, fun other member decides => ?_⟩ overtaken
      exact lt_of_le_of_ne (bound other member decides) (wellFormed.fresh other member)
    · exact before
  refine ⟨?_, ?_, ?_, ?_, ?_⟩
  · rw [kept, life]
    exact tracked.life
  · rw [kept]
    exact tracked.subject
  · rw [kept]
    exact fun undecided => tracked.initial fun other member => undecided other (List.mem_cons_of_mem _ member)
  · rw [kept]
    exact fun newest hnewest => tracked.bounded newest (before newest hnewest)
  · rw [kept]
    exact fun newest hnewest => tracked.reported newest (before newest hnewest)

theorem looks_inserted (distinct : (state.committed.map (·.evaluatedAt)).Nodup)
    (wellFormed : WellFormedCall subjects start state call) (key : String) :
    Inserted (lookOf subjects key call) ((byTime state.committed).map (lookOf subjects key))
      ((byTime (call :: state.committed)).map (lookOf subjects key)) := by
  refine ⟨looks_ordered distinct, looks_ordered ?_, fun look => ?_⟩
  · rw [List.map_cons, List.nodup_cons]
    refine ⟨fun repeated => ?_, distinct⟩
    obtain ⟨other, member, same⟩ := List.mem_map.mp repeated
    exact wellFormed.fresh other member same
  · simp only [List.mem_map, mem_byTime, List.mem_cons, exists_eq_or_imp, eq_comm (b := look)]

theorem newest_last {calls : List ReconcileCall} {newest : ReconcileCall} (hnewest : NewestDecision subjects calls key newest) :
    lookOf subjects key newest ∈ (byTime calls).map (lookOf subjects key) ∧
      ∀ look ∈ (byTime calls).map (lookOf subjects key), look.Decides → look.time ≤ newest.evaluatedAt := by
  refine ⟨List.mem_map_of_mem (mem_byTime.mpr hnewest.1), fun look member decides => ?_⟩
  obtain ⟨other, hother, rfl⟩ := List.mem_map.mp member
  exact hnewest.2.2 other (mem_byTime.mp hother) decides

theorem overtaken_newest {newest : ReconcileCall} (hnewest : NewestDecision subjects state.committed key newest)
    (older : call.evaluatedAt < newest.evaluatedAt) :
    NewestDecision subjects (call :: state.committed) key newest :=
  newest_cons.mpr (.inr ⟨hnewest, fun _ => older.le⟩)

theorem Tracked.newest_verdict (tracked : Tracked subjects start initial state key)
    (distinct : (state.committed.map (·.evaluatedAt)).Nodup) {newest : ReconcileCall}
    (hnewest : NewestDecision subjects state.committed key newest) :
    (∃ row, state.store.findings.get? key = some row ∧ newest.evaluatedAt ≤ row.evaluatedAt ∧
        (lookOf subjects key newest).verdict = .reported) ∨
      ((lookOf subjects key newest).verdict = .cleared ∧ (rowLife (state.store.findings.get? key) = .absent ∨
        rowLife (state.store.findings.get? key) = .resolved)) := by
  obtain ⟨member, last⟩ := newest_last hnewest
  cases verdict : (lookOf subjects key newest).verdict with
  | silent => exact absurd verdict hnewest.2.1
  | reported =>
    obtain ⟨row, stored, time⟩ := tracked.reported newest hnewest verdict
    exact .inl ⟨row, stored, time, rfl⟩
  | cleared =>
    refine .inr ⟨rfl, ?_⟩
    rw [tracked.life]
    exact last_cleared _ (looks_ordered distinct) member last verdict

theorem life_absent_iff {row : Option FindingRow} : rowLife row = .absent ↔ row = none := by
  cases row with
  | none => simp [rowLife]
  | some row => cases status : row.status <;> simp [rowLife, status]

theorem life_resolved {row : FindingRow} (resolved : rowLife (some row) = .resolved) : row.status = .resolved := by
  cases status : row.status <;> simp [rowLife, status] at resolved ⊢

theorem life_suppressed {row : FindingRow} {until? : Option Time} (quiet : rowLife (some row) = .suppressed until?) :
    row.status = .suppressed := by
  cases status : row.status <;> simp [rowLife, status] at quiet ⊢

theorem unlisted_of_cleared (cleared : (lookOf subjects key call).verdict = .cleared) : isCandidate call key = false := by
  refine Bool.eq_false_iff.mpr fun listed => ?_
  simp only [lookOf, verdict, if_pos listed] at cleared
  cases cleared

theorem late_row (tracked : Tracked subjects start initial state key)
    (distinct : (state.committed.map (·.evaluatedAt)).Nodup) {newest : ReconcileCall}
    (hnewest : NewestDecision subjects state.committed key newest) (older : call.evaluatedAt < newest.evaluatedAt)
    (decided : Decided subjects call key)
    (known : (lookOf subjects key call).verdict = .reported →
      ∃ row, state.store.findings.get? key = some row ∧ call.evaluatedAt < row.evaluatedAt) :
    rowAfter call key (state.store.findings.get? key) = state.store.findings.get? key := by
  cases verdict : (lookOf subjects key call).verdict with
  | silent => exact absurd verdict decided
  | reported =>
    obtain ⟨row, stored, newer⟩ := known verdict
    rw [stored]
    exact rowAfter_newer call key newer
  | cleared =>
    have unlisted := unlisted_of_cleared verdict
    rcases tracked.newest_verdict distinct hnewest with ⟨row, stored, time, -⟩ | ⟨-, absent | resolved⟩
    · rw [stored]
      exact rowAfter_newer call key (older.trans_le time)
    · rw [life_absent_iff.mp absent, rowAfter, if_neg (Bool.eq_false_iff.mp unlisted)]
      rfl
    · cases stored : state.store.findings.get? key with
      | none => rw [rowAfter, if_neg (Bool.eq_false_iff.mp unlisted)]; rfl
      | some row =>
        rw [stored] at resolved
        exact rowAfter_settled call key unlisted (life_resolved resolved)

theorem tracked_commit (tracked : Tracked subjects start initial state key)
    (distinct : (state.committed.map (·.evaluatedAt)).Nodup)
    (wellFormed : WellFormedCall subjects start state call) (harmless : LateHarmless subjects state call) :
    Tracked subjects start initial (commitFindings state call) key := by
  by_cases decided : Decided subjects call key
  · rcases newest_or_latest wellFormed key with latest | ⟨newest, hnewest, older⟩
    · exact tracked_decided tracked wellFormed decided latest
    · obtain ⟨known, unsuppressed⟩ := harmless key newest hnewest older
      obtain ⟨member, last⟩ := newest_last hnewest
      refine tracked_kept tracked wellFormed (late_row tracked distinct hnewest older decided known) ?_ ?_
      · refine late_look (looks_inserted distinct wellFormed key) member hnewest.2.1 last older ?_ ?_
        · intro reported absent
          obtain ⟨row, stored, -⟩ := known reported
          rw [← tracked.life, life_absent_iff, stored] at absent
          cases absent
        · intro cleared until? quiet
          rw [← tracked.life] at quiet
          cases stored : state.store.findings.get? key with
          | none => rw [stored] at quiet; cases quiet
          | some row =>
            rw [stored] at quiet
            exact unsuppressed cleared row stored (life_suppressed quiet)
      · intro overtaking
        exact absurd (overtaking.2 newest hnewest.1 hnewest.2.1) (not_lt.mpr older.le)
  · refine tracked_kept tracked wellFormed (rowAfter_silent decided tracked.subject) (silent_life decided _) ?_
    exact fun overtaking => decided overtaking.1

theorem harmful_differs (tracked : Tracked subjects start initial state key)
    (distinct : (state.committed.map (·.evaluatedAt)).Nodup)
    (wellFormed : WellFormedCall subjects start state call) {newest : ReconcileCall}
    (hnewest : NewestDecision subjects state.committed key newest) (older : call.evaluatedAt < newest.evaluatedAt)
    (harm : ¬ (((lookOf subjects key call).verdict = .reported →
        ∃ row, state.store.findings.get? key = some row ∧ call.evaluatedAt < row.evaluatedAt) ∧
      ((lookOf subjects key call).verdict = .cleared →
        ∀ row, state.store.findings.get? key = some row → row.status ≠ .suppressed))) :
    ¬ (rowLife (rowAfter call key (state.store.findings.get? key)) = .live ↔
      (rowLife (initial.findings.get? key)).through
        ((byTime (call :: state.committed)).map (lookOf subjects key)) = .live) := by
  have inserted := looks_inserted distinct wellFormed key
  obtain ⟨member, last⟩ := newest_last (overtaken_newest hnewest older)
  rcases tracked.newest_verdict distinct hnewest with ⟨row, stored, time, reported⟩ | ⟨cleared, ended⟩
  · have newer := older.trans_le time
    have suppressed : (lookOf subjects key call).verdict = .cleared ∧ row.status = .suppressed := by
      by_contra fine
      refine harm ⟨fun _ => ⟨row, stored, newer⟩, fun cleared other same quiet => ?_⟩
      rw [stored] at same
      cases same
      exact fine ⟨cleared, quiet⟩
    have live := cleared_then_reported (rowLife (initial.findings.get? key)) inserted.ordered' member last reported
      ((inserted.mem_iff _).mpr (.inl rfl)) suppressed.1
    rw [stored, rowAfter_newer call key newer, live]
    simp [rowLife, suppressed.2]
  · have reported : (lookOf subjects key call).verdict = .reported ∧
        ∀ row, state.store.findings.get? key = some row → row.evaluatedAt ≤ call.evaluatedAt := by
      by_contra fine
      refine harm ⟨fun reported => ?_, fun _ row stored quiet => ?_⟩
      · by_contra unknown
        exact fine ⟨reported, fun row stored => not_lt.mp fun newer => unknown ⟨row, stored, newer⟩⟩
      · rcases ended with absent | resolved
        · rw [life_absent_iff.mp absent] at stored
          cases stored
        · rw [stored] at resolved
          have settled := life_resolved resolved
          rw [quiet] at settled
          cases settled
    have by_call : RowBy subjects key call.evaluatedAt (state.store.findings.get? key) :=
      fun row stored => ⟨tracked.subject row stored, reported.2 row stored⟩
    obtain ⟨-, life, -⟩ := rowAfter_older wellFormed.placed by_call
    have live : rowLife (rowAfter call key (state.store.findings.get? key)) = .live := by
      rw [life]
      rcases ended with absent | resolved
      · rw [absent]; simp only [Life.after, reported.1]
      · rw [resolved]; simp only [Life.after, reported.1]
    rcases last_cleared (rowLife (initial.findings.get? key)) inserted.ordered' member last cleared with
      finish | finish <;>
    · rw [live, finish]
      simp

end

/-- What holds along a run whose findings are active in order. -/
structure InStep (subjects : Subjects) (start : Time) (initial : FindingStore) (state : FindingState) : Prop where
  tracked : ∀ key, Tracked subjects start initial state key
  distinct : (state.committed.map (·.evaluatedAt)).Nodup
  calls : ∀ call ∈ state.committed, start ≤ call.evaluatedAt ∧
    ∀ candidate ∈ call.snapshot.candidates, candidate.toSubject = subjects candidate.dedupeKey

section

variable {subjects : Subjects} {start : Time} {initial : FindingStore} {state : FindingState} {call : ReconcileCall}

theorem calls_commit (inStep : InStep subjects start initial state)
    (wellFormed : WellFormedCall subjects start state call) : ∀ other ∈ call :: state.committed,
      start ≤ other.evaluatedAt ∧
        ∀ candidate ∈ other.snapshot.candidates, candidate.toSubject = subjects candidate.dedupeKey := by
  intro other member
  rcases List.mem_cons.mp member with rfl | member
  · exact ⟨wellFormed.later, wellFormed.placed⟩
  · exact inStep.calls other member

theorem active_in_order_iff
    (stored : ∀ key, RowBy subjects key start (initial.findings.get? key))
    (inStep : InStep subjects start initial state) (wellFormed : WellFormedCall subjects start state call) :
    ActiveInOrder initial (commitFindings state call) ↔
      ∀ key, rowLife (rowAfter call key (state.store.findings.get? key)) = .live ↔
        (rowLife (initial.findings.get? key)).through
          ((byTime (call :: state.committed)).map (lookOf subjects key)) = .live := by
  have calls := calls_commit inStep wellFormed
  have reference (key : String) : rowLife ((reconcileAll initial (byTime (call :: state.committed))).findings.get? key) =
      (rowLife (initial.findings.get? key)).through ((byTime (call :: state.committed)).map (lookOf subjects key)) :=
    reconcileAll_life (byTime_sorted _) (fun other member => (calls other (mem_byTime.mp member)).1)
      (fun other member => (calls other (mem_byTime.mp member)).2) (stored key)
  rw [ActiveInOrder, commit_eq wellFormed, Set.ext_iff]
  refine forall_congr' fun key => ?_
  rw [active_iff, active_iff, reconcileRows_row, reference]

theorem in_step_commit (stored : ∀ key, RowBy subjects key start (initial.findings.get? key))
    (inStep : InStep subjects start initial state) (wellFormed : WellFormedCall subjects start state call) :
    ActiveInOrder initial (commitFindings state call) ↔ LateHarmless subjects state call := by
  rw [active_in_order_iff stored inStep wellFormed]
  constructor
  · intro same key newest hnewest older
    by_contra harm
    exact harmful_differs (inStep.tracked key) inStep.distinct wellFormed hnewest older harm (same key)
  · intro harmless key
    have after := tracked_commit (inStep.tracked key) inStep.distinct wellFormed harmless
    have life := after.life
    rw [commit_eq wellFormed, reconcileRows_row] at life
    rw [life]

end

/-- In any order of the commits the active findings are those of the increasing order after each of them exactly when
no late snapshot does harm. -/
theorem finding_order_iff (subjects : Subjects) (start : Time) (initial : FindingStore)
    (stored : ∀ key, RowBy subjects key start (initial.findings.get? key)) (calls : List ReconcileCall)
    (wellFormed : Along commitFindings (WellFormedCall subjects start) { store := initial } calls) :
    Along commitFindings (fun state call => ActiveInOrder initial (commitFindings state call)) { store := initial } calls ↔
      Along commitFindings (LateHarmless subjects) { store := initial } calls := by
  refine along_congr (InStep subjects start initial) ?_ ?_ ?_ wellFormed
  · intro state call inStep admitted
    exact in_step_commit stored inStep admitted
  · intro state call inStep admitted active
    have harmless := (in_step_commit stored inStep admitted).mp active
    refine ⟨fun key => tracked_commit (inStep.tracked key) inStep.distinct admitted harmless, ?_, ?_⟩
    · rw [commit_eq admitted, List.map_cons, List.nodup_cons]
      refine ⟨fun repeated => ?_, inStep.distinct⟩
      obtain ⟨other, member, same⟩ := List.mem_map.mp repeated
      exact admitted.fresh other member same
    · rw [commit_eq admitted]
      exact calls_commit inStep admitted
  · refine ⟨fun key => ⟨rfl, fun row here => (stored key row here).1, fun _ row here => (stored key row here).2, ?_, ?_⟩,
      List.nodup_nil, fun _ impossible => by cases impossible⟩
    · intro newest hnewest
      cases hnewest.1
    · intro newest hnewest
      cases hnewest.1

def sampleSubject : Subject :=
  { ruleId := "sensor-stale", subjectType := .sensor, siteId := "site", assetId := none, sensorId := some "sensor" }

def sampleCandidate : FindingCandidate :=
  { toSubject := sampleSubject, ruleVersion := 1, category := "freshness", title := "Sensor is stale"
    description := "", recommendation := "", severity := .medium, confidence := 1, evidenceObservedAt := none
    evidenceFreshness := .stale, dedupeKey := "fdk", evidence := [] }

def reportingCall (evaluatedAt : Time) : ReconcileCall :=
  { runId := "reporting", evaluatedAt
    snapshot := { candidates := [sampleCandidate], resolutionEligible := [], resolutionEligibleDedupeKeys := []
                  evaluatedRuleIds := ["sensor-stale"] } }

def clearingCall (evaluatedAt : Time) : ReconcileCall :=
  { runId := "clearing", evaluatedAt
    snapshot := { candidates := [], resolutionEligible := [resolutionKey sampleSubject]
                  resolutionEligibleDedupeKeys := [], evaluatedRuleIds := ["sensor-stale"] } }

/-- The snapshot of time 2 finds the sensor fresh and commits first; the stale one of time 1 follows. -/
def lateCalls : List ReconcileCall := [clearingCall 2, reportingCall 1]

theorem finding_order_iff_late :
    Along commitFindings (fun state call => ActiveInOrder {} (commitFindings state call)) { store := {} } lateCalls ↔
      Along commitFindings (LateHarmless fun _ => sampleSubject) { store := {} } lateCalls := by
  refine finding_order_iff (fun _ => sampleSubject) 0 {} ?_ lateCalls ?_
  · intro key row stored
    cases stored
  · refine ⟨⟨?_, by decide, ?_, _, rfl⟩, ⟨?_, by decide, ?_, _, rfl⟩, trivial⟩
    · intro other impossible
      cases impossible
    · intro candidate impossible
      cases impossible
    · intro other member
      rw [List.mem_singleton.mp member]
      decide
    · intro candidate member
      rw [List.mem_singleton.mp member]
      rfl

/-- The late snapshot opens the finding that the newer one had cleared. -/
theorem late_snapshot_opens :
    ¬ Along commitFindings (fun state call => ActiveInOrder {} (commitFindings state call)) { store := {} } lateCalls := by
  intro run
  have active : "fdk" ∈ activeKeys (commitFindings (commitFindings { store := {} } (clearingCall 2)) (reportingCall 1)).store :=
    ⟨_, rfl, rfl⟩
  have same : activeKeys _ = activeKeys _ := run.2.1
  rw [same] at active
  obtain ⟨row, stored, status⟩ := active
  revert status
  cases stored
  decide

end OpenAssetWatch.Finding
