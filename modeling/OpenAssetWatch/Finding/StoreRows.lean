import OpenAssetWatch.Finding.Lifecycle
import OpenAssetWatch.Finding.Store

namespace OpenAssetWatch.Finding

open Library

/-- What a finding is about is fixed by its dedupe key, which is a digest of it. -/
abbrev Subjects := String → Subject

def rowLife : Option FindingRow → Life
  | none => .absent
  | some row =>
    match row.status with
    | .active | .acknowledged => .live
    | .suppressed => .suppressed row.suppressedUntil
    | .resolved => .resolved

section

variable (call : ReconcileCall) (key : String)

def verdict (subject : Subject) : Verdict :=
  if isCandidate call key then .reported
  else if call.snapshot.evaluatedRuleIds.contains subject.ruleId && inScope call subject && isEligible call key subject then
    .cleared
  else .silent

variable {call} in
theorem reported_unresolved (row : FindingRow) : reportedStatus call row ≠ .resolved := by
  simp only [reportedStatus]
  split
  · exact fun impossible => by cases impossible
  · rename_i unresolved
    split
    · exact fun impossible => by cases impossible
    · exact unresolved

def upsertTurn (candidate : FindingCandidate) (previous : Option FindingRow) : Option FindingRow :=
  (upsertedRow call previous candidate).or previous

def Resolves (row : FindingRow) : Prop :=
  call.snapshot.evaluatedRuleIds.contains row.ruleId = true ∧ inScope call row.toSubject = true ∧
    isEligible call key row.toSubject = true ∧ row.status ≠ .resolved ∧ row.evaluatedAt ≤ call.evaluatedAt

instance (row : FindingRow) : Decidable (Resolves call key row) := by
  unfold Resolves; infer_instance

/-- What one call does to the row of one key. -/
def rowAfter (previous : Option FindingRow) : Option FindingRow :=
  if isCandidate call key then
    (call.snapshot.candidates.filter (·.dedupeKey = key)).foldl (fun row candidate => upsertTurn call candidate row) previous
  else
    previous.map fun row => if Resolves call key row then resolvedRow call row else row

theorem upserts_row (existing : List (String × FindingRow)) (store : FindingStore) :
    (call.snapshot.candidates.foldl (applyCandidate call existing) { store }).store.findings.get? key =
      (call.snapshot.candidates.filter (·.dedupeKey = key)).foldl (fun row candidate => upsertTurn call candidate row)
        (store.findings.get? key) := by
  refine foldl_turns_at_key (fun key (state : Reconciliation) => state.store.findings.get? key)
    (fun candidate : FindingCandidate => candidate.dedupeKey) (applyCandidate call existing) (upsertTurn call) ?_ ?_
    call.snapshot.candidates { store } key
  · intro state candidate
    simp only [applyCandidate, upsertTurn]
    cases written : upsertedRow call (state.store.findings.get? candidate.dedupeKey) candidate with
    | none => rfl
    | some row => simp [Dict.set]
  · intro state candidate other different
    simp only [applyCandidate]
    split
    · rfl
    · simp [Dict.set, Dict.get?_update_ne _ different]

/-- The turn of the resolution loop for a row selected before the candidates were applied. -/
def resolveTurn (stale : String × FindingRow) (current : Option FindingRow) : Option FindingRow :=
  if isCandidate call stale.1 || !call.snapshot.evaluatedRuleIds.contains stale.2.ruleId then current
  else if stale.2.status = .resolved then current
  else if !isEligible call stale.1 stale.2.toSubject then current
  else current.map fun row => if row.evaluatedAt ≤ call.evaluatedAt then resolvedRow call row else row

theorem resolve_row (existing : List (String × FindingRow)) (distinct : (existing.map Prod.fst).Nodup)
    (state : Reconciliation) :
    (existing.foldl (resolve call) state).store.findings.get? key =
      (existing.find? (·.1 = key)).elim (state.store.findings.get? key)
        (resolveTurn call · (state.store.findings.get? key)) := by
  refine foldl_at_key (fun key (state : Reconciliation) => state.store.findings.get? key) Prod.fst
    (resolve call) (resolveTurn call) ?_ ?_ existing distinct state key
  · intro state stale
    simp only [resolve, resolveTurn]
    split
    · rfl
    · split
      · rfl
      · split
        · rfl
        · cases stored : state.store.findings.get? stale.1 with
          | none => simp [stored]
          | some row =>
            by_cases older : row.evaluatedAt ≤ call.evaluatedAt
            · simp [older, Dict.set]
            · simp [older, stored]
  · intro state stale other different
    simp only [resolve]
    split
    · rfl
    · split
      · rfl
      · split
        · rfl
        · split
          · rfl
          · split
            · simp [Dict.set, Dict.get?_update_ne _ different]
            · rfl

variable {call key} in
theorem candidates_empty (unlisted : isCandidate call key = false) :
    call.snapshot.candidates.filter (·.dedupeKey = key) = [] := by
  rw [List.filter_eq_nil_iff]
  intro candidate member same
  have listed : isCandidate call key = true := by
    rw [isCandidate, List.contains_iff_mem]
    exact List.mem_map.mpr ⟨candidate, member, of_decide_eq_true same⟩
  exact Bool.false_ne_true (unlisted.symm.trans listed)

theorem resolveTurn_row (row : FindingRow) (unlisted : isCandidate call key = false)
    (inside : inScope call row.toSubject = true) :
    resolveTurn call (key, row) (some row) = some (if Resolves call key row then resolvedRow call row else row) := by
  simp only [resolveTurn, unlisted, Bool.false_or, Resolves, inside, true_and]
  by_cases selected : row.ruleId ∈ call.snapshot.evaluatedRuleIds
  · by_cases settled : row.status = .resolved
    · simp [settled]
    · by_cases eligible : isEligible call key row.toSubject = true
      · by_cases older : row.evaluatedAt ≤ call.evaluatedAt <;> simp [selected, settled, eligible, older]
      · simp [settled, eligible]
  · simp [selected]

theorem reconcileRows_row (store : FindingStore) :
    (reconcileRows call store).store.findings.get? key = rowAfter call key (store.findings.get? key) := by
  have distinct : ((scopeRows call store).map Prod.fst).Nodup := Dict.nodup_filter_keys _ _
  simp only [reconcileRows]
  rw [resolve_row call key (scopeRows call store) distinct, upserts_row, scopeRows, Dict.find?_filter_entries, rowAfter]
  cases listed : isCandidate call key with
  | true =>
    rw [if_pos rfl]
    cases found : (store.findings.get? key).bind fun row =>
        if inScope call row.toSubject = true then some (key, row) else none with
    | none => rfl
    | some stale =>
      obtain ⟨row, -, here⟩ := Option.bind_eq_some_iff.mp found
      split at here
      · cases here
        simp only [Option.elim_some, resolveTurn, listed, Bool.true_or, if_true]
      · cases here
  | false =>
    rw [if_neg Bool.false_ne_true, candidates_empty listed, List.foldl_nil]
    cases stored : store.findings.get? key with
    | none => rfl
    | some row =>
      rw [Option.bind_some, Option.map_some]
      by_cases inside : inScope call row.toSubject = true
      · rw [if_pos inside, Option.elim_some, resolveTurn_row call key row listed inside]
      · rw [if_neg inside, Option.elim_none, if_neg fun resolves : Resolves call key row => inside resolves.2.1]

theorem rowAfter_settled {row : FindingRow} (unlisted : isCandidate call key = false) (settled : row.status = .resolved) :
    rowAfter call key (some row) = some row := by
  rw [rowAfter, if_neg (Bool.eq_false_iff.mp unlisted), Option.map_some,
    if_neg fun resolves : Resolves call key row => resolves.2.2.2.1 settled]

theorem rowAfter_newer {row : FindingRow} (newer : call.evaluatedAt < row.evaluatedAt) :
    rowAfter call key (some row) = some row := by
  have late : ¬ row.evaluatedAt ≤ call.evaluatedAt := not_le.mpr newer
  rw [rowAfter]
  split
  · induction call.snapshot.candidates.filter (·.dedupeKey = key) with
    | nil => rfl
    | cons candidate rest ih =>
      have turn : upsertTurn call candidate (some row) = some row := by
        simp only [upsertTurn, upsertedRow, if_neg late, Option.none_or]
      rw [List.foldl_cons, turn, ih]
  · rw [Option.map_some, if_neg fun resolves : Resolves call key row => late resolves.2.2.2.2]

end

section

variable {call : ReconcileCall} {key : String} {subjects : Subjects}

def lookOf (subjects : Subjects) (key : String) (call : ReconcileCall) : Look :=
  ⟨call.evaluatedAt, verdict call key (subjects key)⟩

/-- The stored row is about its key's subject, and no newer than the time. -/
def RowBy (subjects : Subjects) (key : String) (time : Time) (row : Option FindingRow) : Prop :=
  ∀ stored, row = some stored → stored.toSubject = subjects key ∧ stored.evaluatedAt ≤ time

theorem upsertTurn_spec {candidate : FindingCandidate} {previous : Option FindingRow}
    (place : candidate.toSubject = subjects key) (by_now : RowBy subjects key call.evaluatedAt previous) :
    ∃ row, upsertTurn call candidate previous = some row ∧ row.toSubject = subjects key ∧
      row.evaluatedAt = call.evaluatedAt ∧
      rowLife (some row) = (rowLife previous).after ⟨call.evaluatedAt, .reported⟩ := by
  cases previous with
  | none => exact ⟨insertedRow call candidate, rfl, place, rfl, rfl⟩
  | some row =>
    obtain ⟨subject, older⟩ := by_now row rfl
    refine ⟨updatedRow call row candidate, ?_, subject, rfl, ?_⟩
    · simp only [upsertTurn, upsertedRow, if_pos older, Option.some_or]
    · simp only [rowLife, updatedRow, reportedStatus]
      cases status : row.status with
      | active => simp [Life.after]
      | acknowledged => simp [Life.after]
      | resolved => simp [Life.after]
      | suppressed =>
        have same : row.suppressedUntil.any (· ≤ call.evaluatedAt) = expired row.suppressedUntil call.evaluatedAt := rfl
        simp only [same, Life.after, reduceCtorEq, if_false, true_and]
        by_cases past : expired row.suppressedUntil call.evaluatedAt = true
        · rw [if_pos past, if_pos past]
        · rw [if_neg past, if_neg past]

theorem upserts_spec {candidates : List FindingCandidate} {previous : Option FindingRow} (some_listed : candidates ≠ [])
    (placed : ∀ candidate ∈ candidates, candidate.toSubject = subjects key)
    (by_now : RowBy subjects key call.evaluatedAt previous) :
    ∃ row, candidates.foldl (fun row candidate => upsertTurn call candidate row) previous = some row ∧
      row.toSubject = subjects key ∧ row.evaluatedAt = call.evaluatedAt ∧
      rowLife (some row) = (rowLife previous).after ⟨call.evaluatedAt, .reported⟩ := by
  induction candidates generalizing previous with
  | nil => exact absurd rfl some_listed
  | cons candidate rest ih =>
    obtain ⟨row, written, subject, time, life⟩ := upsertTurn_spec (placed candidate List.mem_cons_self) by_now
    rw [List.foldl_cons, written]
    cases rest with
    | nil => exact ⟨row, rfl, subject, time, life⟩
    | cons next more =>
      have here : RowBy subjects key call.evaluatedAt (some row) := by
        intro stored same
        cases same
        exact ⟨subject, time.le⟩
      obtain ⟨last, folded, subject, time, life'⟩ :=
        ih (List.cons_ne_nil _ _) (fun other h => placed other (List.mem_cons_of_mem _ h)) here
      refine ⟨last, folded, subject, time, ?_⟩
      rw [life', life]
      exact after_twice rfl

theorem unresolved_life {row : FindingRow} (settled : row.status = .resolved) :
    (rowLife (some row)).after ⟨call.evaluatedAt, .cleared⟩ = rowLife (some row) := by
  simp only [rowLife, settled, Life.after]

theorem resolved_life {row : FindingRow} :
    rowLife (some (resolvedRow call row)) = (rowLife (some row)).after ⟨call.evaluatedAt, .cleared⟩ := by
  simp only [rowLife, resolvedRow]
  cases row.status <;> rfl

theorem look_unlisted (unlisted : isCandidate call key = false) :
    lookOf subjects key call = ⟨call.evaluatedAt,
      if call.snapshot.evaluatedRuleIds.contains (subjects key).ruleId = true ∧ inScope call (subjects key) = true ∧
          isEligible call key (subjects key) = true then .cleared else .silent⟩ := by
  simp only [lookOf, verdict, unlisted, Bool.false_eq_true, if_false, Bool.and_eq_true, and_assoc]

theorem unlisted_life {row : FindingRow} (unlisted : isCandidate call key = false)
    (subject : row.toSubject = subjects key) (older : row.evaluatedAt ≤ call.evaluatedAt) :
    rowLife (some (if Resolves call key row then resolvedRow call row else row)) =
      (rowLife (some row)).after (lookOf subjects key call) := by
  rw [look_unlisted unlisted, ← subject]
  by_cases resolves : Resolves call key row
  · rw [if_pos resolves, if_pos ⟨resolves.1, resolves.2.1, resolves.2.2.1⟩, resolved_life]
  · rw [if_neg resolves]
    split
    · rename_i cleared
      have settled : row.status = .resolved :=
        of_not_not fun open_row => resolves ⟨cleared.1, cleared.2.1, cleared.2.2, open_row, older⟩
      exact (unresolved_life settled).symm
    · rfl

theorem rowAfter_older {previous : Option FindingRow}
    (placed : ∀ candidate ∈ call.snapshot.candidates, candidate.toSubject = subjects candidate.dedupeKey)
    (by_now : RowBy subjects key call.evaluatedAt previous) :
    RowBy subjects key call.evaluatedAt (rowAfter call key previous) ∧
      rowLife (rowAfter call key previous) = (rowLife previous).after (lookOf subjects key call) ∧
      ((lookOf subjects key call).verdict = .reported →
        ∃ row, rowAfter call key previous = some row ∧ row.evaluatedAt = call.evaluatedAt) := by
  by_cases listed : isCandidate call key = true
  · have verdict : lookOf subjects key call = ⟨call.evaluatedAt, .reported⟩ := by
      simp only [lookOf, OpenAssetWatch.Finding.verdict, if_pos listed]
    have some_listed : call.snapshot.candidates.filter (·.dedupeKey = key) ≠ [] := by
      obtain ⟨candidate, member, same⟩ := List.mem_map.mp (List.contains_iff_mem.mp listed)
      exact List.ne_nil_of_mem (List.mem_filter.mpr ⟨member, decide_eq_true same⟩)
    have here : ∀ candidate ∈ call.snapshot.candidates.filter (·.dedupeKey = key), candidate.toSubject = subjects key := by
      intro candidate member
      obtain ⟨member, same⟩ := List.mem_filter.mp member
      exact (placed candidate member).trans (congrArg subjects (of_decide_eq_true same))
    obtain ⟨row, written, subject, time, life⟩ := upserts_spec some_listed here by_now
    rw [rowAfter, if_pos listed, written, verdict]
    refine ⟨?_, life, fun _ => ⟨row, rfl, time⟩⟩
    intro stored same
    cases same
    exact ⟨subject, time.le⟩
  · have unlisted := Bool.eq_false_iff.mpr listed
    rw [rowAfter, if_neg listed]
    refine ⟨?_, ?_, fun reported => ?_⟩
    · intro stored same
      obtain ⟨row, rfl, rfl⟩ := Option.map_eq_some_iff.mp same
      obtain ⟨subject, older⟩ := by_now row rfl
      split
      · exact ⟨subject, le_refl _⟩
      · exact ⟨subject, older⟩
    · cases previous with
      | none =>
        rw [look_unlisted unlisted]
        split <;> rfl
      | some row =>
        obtain ⟨subject, older⟩ := by_now row rfl
        exact unlisted_life unlisted subject older
    · rw [look_unlisted unlisted] at reported
      dsimp only at reported
      split at reported <;> cases reported

theorem rowAfter_silent {previous : Option FindingRow} (undecided : ¬ (lookOf subjects key call).Decides)
    (subject : ∀ row, previous = some row → row.toSubject = subjects key) :
    rowAfter call key previous = previous := by
  have unlisted : isCandidate call key = false := by
    refine Bool.eq_false_iff.mpr fun listed => undecided ?_
    simp only [Look.Decides, lookOf, verdict, if_pos listed]
    exact fun impossible => by cases impossible
  rw [rowAfter, if_neg (Bool.eq_false_iff.mp unlisted)]
  cases previous with
  | none => rfl
  | some row =>
    rw [Option.map_some, if_neg]
    intro resolves
    rw [look_unlisted unlisted, ← subject row rfl,
      if_pos (show _ ∧ _ ∧ _ from ⟨resolves.1, resolves.2.1, resolves.2.2.1⟩)] at undecided
    exact undecided fun impossible => by cases impossible

end

end OpenAssetWatch.Finding
