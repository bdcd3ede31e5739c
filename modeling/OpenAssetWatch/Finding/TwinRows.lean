import OpenAssetWatch.Finding.InMemory
import OpenAssetWatch.Finding.StoreRows
import OpenAssetWatch.Library.Run

namespace OpenAssetWatch.Finding

open Library Library.Run

/-- The same findings by key, and the same score and factor rows of each asset and site. -/
structure Same (sql : SqlFindingStore) (memory : InMemoryFindingStore) : Prop where
  findings : ∀ key, (memory.findings.get? key).map (·.toFindingRow) = sql.findings.findings.get? key
  assetScores : ∀ key, memory.assetRisk.get? key =
    (sql.risk.assetScores.find? fun row => (row.score.siteId, row.score.assetId) = key).map (·.score)
  siteScores : ∀ site, memory.siteRisk.get? site =
    (sql.risk.siteScores.find? fun row => row.score.siteId = site).map (·.score)
  assetFactors : ∀ site asset, (memory.assetRisk.get? (site, asset)).elim [] (·.factors) =
    (sql.risk.factors.filter fun row => (row.siteId, row.assetId) = (site, some asset)).map (·.factor)
  siteFactors : ∀ site, (memory.siteRisk.get? site).elim [] (·.factors) =
    (sql.risk.factors.filter fun row => (row.siteId, row.assetId) = (site, none)).map (·.factor)

/-- Both stores give the same reply and are the same afterwards. -/
def TwinsAgree (startedAt : String → Time) (pair : SqlFindingStore × InMemoryFindingStore) (action : FindingAction) : Prop :=
  (pair.1.act startedAt action).2 = (pair.2.act action).2 ∧
    Same (pair.1.act startedAt action).1 (pair.2.act action).1

/-- The SQL store counts by the rows that it selected in scope before the loop, the other by the current ones. -/
structure CountedAlike (call : ReconcileCall) (store : FindingStore) : Prop where
  known : ∀ candidate ∈ call.snapshot.candidates, ∀ row, store.findings.get? candidate.dedupeKey = some row →
    row.evaluatedAt ≤ call.evaluatedAt → inScope call row.toSubject = true
  once : call.snapshot.candidates.Pairwise fun first second => first.dedupeKey = second.dedupeKey →
    ∃ row, store.findings.get? second.dedupeKey = some row ∧
      (call.evaluatedAt < row.evaluatedAt ∨ row.status ≠ .resolved)

structure ReconciledAlike (subjects : Subjects) (store : FindingStore) (call : ReconcileCall) : Prop where
  placed : ∀ candidate ∈ call.snapshot.candidates, candidate.toSubject = subjects candidate.dedupeKey
  named : call.siteId ≠ some "" ∧ call.assetId ≠ some "" ∧ call.sensorId ≠ some ""
  within : (scopeRows call store).length ≤ maxReconcileRecords
  counted : CountedAlike call store

/-- When the two stores do the same. -/
def Alike (subjects : Subjects) (startedAt : String → Time) (store : SqlFindingStore) : FindingAction → Prop
  | .reconcile call => ReconciledAlike subjects store.findings call
  | .replaceRisk evaluation => evaluation.siteId ≠ some "" ∧
      ∀ row ∈ store.risk.siteScores, siteCovers evaluation.siteId row.score.siteId = true →
        startedAt row.evaluationRunId ≤ evaluation.snapshotAt
  | .acknowledge .. | .suppress .. => True

/-- What both stores rely on in a row: its key's subject, and no resolution in a finding that is not resolved. -/
structure RowSound (subjects : Subjects) (key : String) (row : FindingRow) : Prop where
  subject : row.toSubject = subjects key
  unresolved : row.status ≠ .resolved → row.resolvedAt = none ∧ row.resolutionBasis = none

def Sound (subjects : Subjects) (store : FindingStore) : Prop :=
  ∀ key row, store.findings.get? key = some row → RowSound subjects key row

section

variable {subjects : Subjects} {call : ReconcileCall} {key : String}

theorem inserted_sound {candidate : FindingCandidate} (place : candidate.toSubject = subjects key) :
    RowSound subjects key (insertedRow call candidate) := ⟨place, fun _ => ⟨rfl, rfl⟩⟩

theorem updated_sound {row : FindingRow} {candidate : FindingCandidate} (sound : RowSound subjects key row) :
    RowSound subjects key (updatedRow call row candidate) := by
  refine ⟨sound.subject, fun _ => ?_⟩
  simp only [updatedRow]
  split
  · exact ⟨rfl, rfl⟩
  · rename_i unresolved
    exact sound.unresolved unresolved

theorem upserted_sound {previous : Option FindingRow} {candidate : FindingCandidate} {row : FindingRow}
    (sound : ∀ stored, previous = some stored → RowSound subjects key stored)
    (place : candidate.toSubject = subjects key) (written : upsertedRow call previous candidate = some row) :
    RowSound subjects key row ∧ row.status ≠ .resolved := by
  cases previous with
  | none =>
    cases written
    exact ⟨inserted_sound place, fun impossible => by cases impossible⟩
  | some stored =>
    simp only [upsertedRow] at written
    split at written
    · cases written
      exact ⟨updated_sound (sound stored rfl), reported_unresolved stored⟩
    · cases written

theorem written_row {previous : Option MemoryFinding} {candidate : FindingCandidate}
    (sound : ∀ finding, previous = some finding → RowSound subjects key finding.toFindingRow)
    (place : candidate.toSubject = subjects key)
    (older : previous.any (call.evaluatedAt < ·.evaluatedAt) = false) :
    upsertedRow call (previous.map (·.toFindingRow)) candidate =
      some (InMemoryFindingStore.writtenFinding call previous candidate).toFindingRow := by
  cases previous with
  | none => rfl
  | some finding =>
    have subject := (sound finding rfl).subject.trans place.symm
    have unresolved := (sound finding rfl).unresolved
    have in_time : finding.evaluatedAt ≤ call.evaluatedAt := by
      simpa using older
    rw [Option.map_some, upsertedRow, if_pos in_time]
    simp only [updatedRow, InMemoryFindingStore.writtenFinding, subject, InMemoryFindingStore.previousRuleVersion,
      InMemoryFindingStore.ruleVersionChangedAt, Option.bind_some, Option.elim_some, InMemoryFindingStore.statusAfter,
      reportedStatus, InMemoryFindingStore.reopenCount, Option.some.injEq, FindingRow.mk.injEq, true_and, and_true]
    by_cases settled : finding.status = .resolved
    · simp [settled]
    · simp [settled, unresolved settled]

variable {store : FindingStore} {memory : InMemoryFindingStore}

/-- Both loops over the candidates after the first ones of them. -/
structure InTurn (subjects : Subjects) (call : ReconcileCall) (store : FindingStore) (memory : InMemoryFindingStore)
    (handled : List FindingCandidate) (state : Reconciliation) (progress : InMemoryFindingStore.Progress) : Prop where
  findings : ∀ key, (progress.store.findings.get? key).map (·.toFindingRow) = state.store.findings.get? key
  result : progress.result = state.result
  assetRisk : progress.store.assetRisk = memory.assetRisk
  siteRisk : progress.store.siteRisk = memory.siteRisk
  sound : Sound subjects state.store
  untouched : ∀ key, key ∉ handled.map (·.dedupeKey) → state.store.findings.get? key = store.findings.get? key
  newer : ∀ key row, store.findings.get? key = some row → call.evaluatedAt < row.evaluatedAt →
    state.store.findings.get? key = some row
  reported : ∀ key ∈ handled.map (·.dedupeKey), ∃ row, state.store.findings.get? key = some row ∧
    (row.evaluatedAt ≤ call.evaluatedAt → row.status ≠ .resolved)

theorem lookup_scopeRows (store : FindingStore) (key : String) :
    (scopeRows call store).lookup key = (store.findings.get? key).filter fun row => inScope call row.toSubject := by
  apply Option.ext
  intro row
  have distinct : ((scopeRows call store).map Prod.fst).Nodup := Dict.nodup_filter_keys _ _
  rw [DictEntries.lookup_eq_some distinct, scopeRows, List.mem_filter, ← Dict.get?_eq_some, Option.filter_eq_some_iff]

theorem counted_alike {handled rest : List FindingCandidate} {candidate : FindingCandidate} {state : Reconciliation}
    {progress : InMemoryFindingStore.Progress} (split : call.snapshot.candidates = handled ++ candidate :: rest)
    (counted : CountedAlike call store) (inTurn : InTurn subjects call store memory handled state progress)
    (written : (state.store.findings.get? candidate.dedupeKey).any (call.evaluatedAt < ·.evaluatedAt) = false)
    (result : ReconcileResult) :
    countWrite ((scopeRows call store).lookup candidate.dedupeKey) result =
      countWrite (state.store.findings.get? candidate.dedupeKey) result := by
  rw [lookup_scopeRows]
  have member : candidate ∈ call.snapshot.candidates := by
    rw [split]
    exact List.mem_append_right _ List.mem_cons_self
  by_cases again : candidate.dedupeKey ∈ handled.map (·.dedupeKey)
  · obtain ⟨first, earlier, same⟩ := List.mem_map.mp again
    have ordered := counted.once
    rw [split, List.pairwise_append] at ordered
    obtain ⟨row, stored, stays⟩ := ordered.2.2 first earlier candidate List.mem_cons_self same
    have in_time : row.evaluatedAt ≤ call.evaluatedAt := by
      by_contra newer
      rw [inTurn.newer _ row stored (not_le.mp newer)] at written
      exact newer (by simpa using written)
    have selected := counted.known candidate member row stored in_time
    have unresolved := stays.resolve_left (not_lt.mpr in_time)
    obtain ⟨now, current, open_now⟩ := inTurn.reported _ again
    rw [current] at written
    have unresolved_now := open_now (by simpa using written)
    rw [stored, current, Option.filter, if_pos selected]
    simp only [countWrite, if_neg unresolved, if_neg unresolved_now]
  · rw [inTurn.untouched _ again] at written ⊢
    cases stored : store.findings.get? candidate.dedupeKey with
    | none => rfl
    | some row =>
      rw [stored] at written
      rw [Option.filter, if_pos (counted.known candidate member row stored (by simpa using written))]

theorem countFinding_eq (previous : Option MemoryFinding) (result : ReconcileResult) :
    InMemoryFindingStore.countFinding previous result = countWrite (previous.map (·.toFindingRow)) result := by
  cases previous <;> rfl

theorem memory_skips {progress : InMemoryFindingStore.Progress} {candidate : FindingCandidate}
    (newer : (progress.store.findings.get? candidate.dedupeKey).any (call.evaluatedAt < ·.evaluatedAt) = true) :
    InMemoryFindingStore.applyCandidate call progress candidate = progress := by
  simp only [InMemoryFindingStore.applyCandidate, if_pos newer]

theorem memory_writes {progress : InMemoryFindingStore.Progress} {candidate : FindingCandidate}
    (older : (progress.store.findings.get? candidate.dedupeKey).any (call.evaluatedAt < ·.evaluatedAt) = false) :
    InMemoryFindingStore.applyCandidate call progress candidate =
      let previous := progress.store.findings.get? candidate.dedupeKey
      { store := { progress.store with
          findings := progress.store.findings.set candidate.dedupeKey
            (InMemoryFindingStore.writtenFinding call previous candidate) }
        result := countWrite (previous.map (·.toFindingRow)) progress.result } := by
  simp only [InMemoryFindingStore.applyCandidate, if_neg (Bool.eq_false_iff.mp older), countFinding_eq]

theorem sql_skips {existing : List (String × FindingRow)} {state : Reconciliation} {candidate : FindingCandidate}
    (newer : (state.store.findings.get? candidate.dedupeKey).any (call.evaluatedAt < ·.evaluatedAt) = true) :
    applyCandidate call existing state candidate = state := by
  cases stored : state.store.findings.get? candidate.dedupeKey with
  | none =>
    rw [stored] at newer
    cases newer
  | some row =>
    rw [stored] at newer
    have later : ¬ row.evaluatedAt ≤ call.evaluatedAt := not_le.mpr (by simpa using newer)
    simp only [applyCandidate, stored, upsertedRow, if_neg later]

theorem sql_writes {existing : List (String × FindingRow)} {state : Reconciliation} {candidate : FindingCandidate}
    {row : FindingRow} (written : upsertedRow call (state.store.findings.get? candidate.dedupeKey) candidate = some row) :
    applyCandidate call existing state candidate =
      { store :=
          { findings := state.store.findings.set candidate.dedupeKey row
            evidence := state.store.evidence.set candidate.dedupeKey candidate.evidence }
        result := countWrite (existing.lookup candidate.dedupeKey) state.result } := by
  simp only [applyCandidate, written]

theorem inTurn_step {handled rest : List FindingCandidate} {candidate : FindingCandidate} {state : Reconciliation}
    {progress : InMemoryFindingStore.Progress} (split : call.snapshot.candidates = handled ++ candidate :: rest)
    (place : candidate.toSubject = subjects candidate.dedupeKey)
    (counted : CountedAlike call store) (inTurn : InTurn subjects call store memory handled state progress) :
    InTurn subjects call store memory (handled ++ [candidate]) (applyCandidate call (scopeRows call store) state candidate)
      (InMemoryFindingStore.applyCandidate call progress candidate) := by
  have same := inTurn.findings candidate.dedupeKey
  have seen (key : String) : key ∈ (handled ++ [candidate]).map (·.dedupeKey) ↔
      key ∈ handled.map (·.dedupeKey) ∨ key = candidate.dedupeKey := by
    rw [List.map_append, List.mem_append, List.map_singleton, List.mem_singleton]
  cases newer : (progress.store.findings.get? candidate.dedupeKey).any (call.evaluatedAt < ·.evaluatedAt) with
  | true =>
    have newer_row : (state.store.findings.get? candidate.dedupeKey).any (call.evaluatedAt < ·.evaluatedAt) = true := by
      rw [← same, Option.any_map]
      exact newer
    rw [memory_skips newer, sql_skips newer_row]
    refine { inTurn with untouched := fun key fresh => ?_, reported := fun key member => ?_ }
    · exact inTurn.untouched key fun before => fresh ((seen key).mpr (.inl before))
    · rcases (seen key).mp member with before | rfl
      · exact inTurn.reported key before
      · cases stored : state.store.findings.get? candidate.dedupeKey with
        | none =>
          rw [stored] at newer_row
          cases newer_row
        | some row =>
          rw [stored] at newer_row
          have late : call.evaluatedAt < row.evaluatedAt := by simpa using newer_row
          exact ⟨row, rfl, fun early => absurd early (not_le.mpr late)⟩
  | false =>
    have older : (state.store.findings.get? candidate.dedupeKey).any (call.evaluatedAt < ·.evaluatedAt) = false := by
      rw [← same, Option.any_map]
      exact newer
    have sound : ∀ finding, progress.store.findings.get? candidate.dedupeKey = some finding →
        RowSound subjects candidate.dedupeKey finding.toFindingRow := by
      intro finding stored
      apply inTurn.sound candidate.dedupeKey
      rw [← same, stored, Option.map_some]
    have written := written_row sound place newer
    rw [same] at written
    obtain ⟨row_sound, row_open⟩ := upserted_sound (inTurn.sound candidate.dedupeKey) place written
    rw [memory_writes newer, sql_writes written]
    refine ⟨fun key => ?_, ?_, inTurn.assetRisk, inTurn.siteRisk, fun key row => ?_, fun key fresh => ?_, fun key row => ?_,
      fun key member => ?_⟩
    · simp only [Dict.set, Dict.get?_update]
      split
      · rfl
      · exact inTurn.findings key
    · show countWrite ((progress.store.findings.get? candidate.dedupeKey).map (·.toFindingRow)) progress.result = _
      rw [inTurn.result, same, counted_alike split counted inTurn older]
    · simp only [Dict.set, Dict.get?_update]
      split
      · rename_i here
        intro stored
        cases stored
        rw [here]
        exact row_sound
      · exact inTurn.sound key row
    · have apart : key ≠ candidate.dedupeKey := fun here => fresh ((seen key).mpr (.inr here))
      simp only [Dict.set, Dict.get?_update_ne _ apart]
      exact inTurn.untouched key fun before => fresh ((seen key).mpr (.inl before))
    · intro stored late
      have kept := inTurn.newer key row stored late
      have apart : key ≠ candidate.dedupeKey := by
        intro here
        rw [← here, kept] at older
        exact absurd late (by simpa using older)
      simp only [Dict.set, Dict.get?_update_ne _ apart]
      exact kept
    · simp only [Dict.set, Dict.get?_update]
      split
      · exact ⟨_, rfl, fun _ => row_open⟩
      · rename_i apart
        exact inTurn.reported key (((seen key).mp member).resolve_right apart)

theorem inTurn_candidates (placed : ∀ candidate ∈ call.snapshot.candidates, candidate.toSubject = subjects candidate.dedupeKey)
    (counted : CountedAlike call store) {handled rest : List FindingCandidate} {state : Reconciliation}
    {progress : InMemoryFindingStore.Progress} (split : call.snapshot.candidates = handled ++ rest)
    (inTurn : InTurn subjects call store memory handled state progress) :
    InTurn subjects call store memory call.snapshot.candidates
      (rest.foldl (applyCandidate call (scopeRows call store)) state)
      (rest.foldl (InMemoryFindingStore.applyCandidate call) progress) := by
  induction rest generalizing handled state progress with
  | nil =>
    rw [split, List.append_nil]
    exact inTurn
  | cons candidate rest ih =>
    have member : candidate ∈ call.snapshot.candidates := by
      rw [split]
      exact List.mem_append_right _ List.mem_cons_self
    refine ih ?_ (inTurn_step split (placed candidate member) counted inTurn)
    rw [split, List.append_assoc, List.singleton_append]

/-- The entries that a reconciliation resolves. -/
def selected (call : ReconcileCall) (entry : String × FindingRow) : Bool :=
  !isCandidate call entry.1 && decide (Resolves call entry.1 entry.2)

theorem sql_resolve {state : Reconciliation} {entry : String × FindingRow} (inside : inScope call entry.2.toSubject = true)
    (current : isCandidate call entry.1 = false → state.store.findings.get? entry.1 = some entry.2) :
    resolve call state entry =
      if selected call entry then
        { store := { state.store with findings := state.store.findings.set entry.1 (resolvedRow call entry.2) }
          result := { state.result with resolved := state.result.resolved + 1 } }
      else state := by
  obtain ⟨key, row⟩ := entry
  by_cases listed : isCandidate call key = true
  · simp [resolve, selected, listed]
  · have unlisted := Bool.eq_false_iff.mpr listed
    have stored : state.store.findings.get? key = some row := current unlisted
    by_cases rule : row.ruleId ∈ call.snapshot.evaluatedRuleIds
    · by_cases settled : row.status = .resolved
      · simp [resolve, selected, Resolves, unlisted, rule, settled]
      · by_cases eligible : isEligible call key row.toSubject = true
        · by_cases older : row.evaluatedAt ≤ call.evaluatedAt <;>
            simp [resolve, selected, Resolves, unlisted, stored, rule, settled, eligible, older, inside]
        · simp [resolve, selected, Resolves, unlisted, rule, settled, eligible]
    · simp [resolve, selected, Resolves, unlisted, rule]

theorem sql_resolved_count {existing : List (String × FindingRow)} (distinct : (existing.map Prod.fst).Nodup)
    (inside : ∀ entry ∈ existing, inScope call entry.2.toSubject = true) {state : Reconciliation}
    (current : ∀ entry ∈ existing, isCandidate call entry.1 = false →
      state.store.findings.get? entry.1 = some entry.2) :
    (existing.foldl (resolve call) state).result =
      { state.result with resolved := state.result.resolved + existing.countP (selected call) } := by
  induction existing generalizing state with
  | nil => rfl
  | cons entry rest ih =>
    obtain ⟨fresh, distinct⟩ := List.nodup_cons.mp distinct
    have turn := sql_resolve (inside entry List.mem_cons_self) (current entry List.mem_cons_self)
    rw [List.foldl_cons, turn, List.countP_cons]
    split
    · rw [ih distinct fun other member => inside other (List.mem_cons_of_mem _ member)]
      · simp only [ReconcileResult.mk.injEq, true_and]
        omega
      · intro other member unlisted
        have apart : other.1 ≠ entry.1 := fun same => fresh (List.mem_map.mpr ⟨other, member, same⟩)
        simp only [Dict.set, Dict.get?_update_ne _ apart]
        exact current other (List.mem_cons_of_mem _ member) unlisted
    · exact ih distinct (fun other member => inside other (List.mem_cons_of_mem _ member))
        fun other member => current other (List.mem_cons_of_mem _ member)

theorem given_iff {scope : Option String} (named : scope ≠ some "") (value : Option String) :
    (!(isGiven scope && value != scope)) = scope.all fun id => some id == value := by
  cases scope with
  | none => rfl
  | some id =>
    have filled : id ≠ "" := fun empty => named (congrArg some empty)
    simp [isGiven, filled, bne, eq_comm]

theorem memory_scope (named : call.siteId ≠ some "" ∧ call.assetId ≠ some "" ∧ call.sensorId ≠ some "")
    (finding : MemoryFinding) :
    InMemoryFindingStore.inScope call finding = inScope call finding.toSubject := by
  rw [InMemoryFindingStore.inScope, given_iff named.1, given_iff named.2.1, given_iff named.2.2]
  rfl

def asRow (entry : String × MemoryFinding) : String × FindingRow := (entry.1, entry.2.toFindingRow)

theorem memory_resolve (named : call.siteId ≠ some "" ∧ call.assetId ≠ some "" ∧ call.sensorId ≠ some "")
    (progress : InMemoryFindingStore.Progress) (item : String × MemoryFinding) :
    InMemoryFindingStore.resolve call progress item =
      if selected call (asRow item) then
        { store := { progress.store with
            findings := progress.store.findings.set item.1 (InMemoryFindingStore.resolvedFinding call item.2) }
          result := { progress.result with resolved := progress.result.resolved + 1 } }
      else progress := by
  obtain ⟨key, finding⟩ := item
  simp only [InMemoryFindingStore.resolve, memory_scope named, asRow]
  by_cases listed : isCandidate call key = true
  · simp [selected, listed]
  · have unlisted := Bool.eq_false_iff.mpr listed
    by_cases rule : finding.ruleId ∈ call.snapshot.evaluatedRuleIds
    · by_cases settled : finding.status = .resolved
      · simp [selected, Resolves, unlisted, rule, settled]
      · by_cases newer : call.evaluatedAt < finding.evaluatedAt
        · have late : ¬ finding.evaluatedAt ≤ call.evaluatedAt := not_le.mpr newer
          simp [selected, Resolves, unlisted, rule, settled, newer, late]
        · have older : finding.evaluatedAt ≤ call.evaluatedAt := not_lt.mp newer
          by_cases inside : inScope call finding.toSubject = true <;>
          by_cases eligible : isEligible call key finding.toSubject = true <;>
            simp [selected, Resolves, unlisted, rule, settled, newer, older, inside, eligible]
    · simp [selected, Resolves, unlisted, rule]

section

variable (named : call.siteId ≠ some "" ∧ call.assetId ≠ some "" ∧ call.sensorId ≠ some "")

include named

theorem memory_resolved_rest (items : List (String × MemoryFinding)) (progress : InMemoryFindingStore.Progress) :
    let done := items.foldl (InMemoryFindingStore.resolve call) progress
    done.result = { progress.result with
      resolved := progress.result.resolved + items.countP fun item => selected call (asRow item) } ∧
    done.store.assetRisk = progress.store.assetRisk ∧ done.store.siteRisk = progress.store.siteRisk := by
  induction items generalizing progress with
  | nil => exact ⟨rfl, rfl, rfl⟩
  | cons item rest ih =>
    rw [List.foldl_cons, memory_resolve named, List.countP_cons]
    split
    · obtain ⟨result, assets, sites⟩ := ih _
      refine ⟨?_, assets, sites⟩
      rw [result]
      simp only [ReconcileResult.mk.injEq, true_and]
      omega
    · exact ih progress

theorem memory_resolved_finding (progress : InMemoryFindingStore.Progress) (key : String) :
    (progress.store.findings.entries.foldl (InMemoryFindingStore.resolve call) progress).store.findings.get? key =
      (progress.store.findings.get? key).map fun finding =>
        if selected call (key, finding.toFindingRow) then InMemoryFindingStore.resolvedFinding call finding else finding := by
  have turns := foldl_at_key (fun key (progress : InMemoryFindingStore.Progress) => progress.store.findings.get? key)
    Prod.fst (InMemoryFindingStore.resolve call)
    (fun item current =>
      if selected call (asRow item) then some (InMemoryFindingStore.resolvedFinding call item.2) else current)
    ?_ ?_ progress.store.findings.entries progress.store.findings.nodup progress key
  · rw [turns, progress.store.findings.find?_entries]
    cases stored : progress.store.findings.get? key with
    | none => rfl
    | some finding =>
      exact (apply_ite some _ _ _).symm
  · intro progress item
    rw [memory_resolve named]
    split
    · simp only [Dict.set, Dict.get?_update_self]
    · rfl
  · intro progress item other apart
    rw [memory_resolve named]
    split
    · simp only [Dict.set, Dict.get?_update_ne _ apart]
    · rfl

end

theorem inTurn_start (sound : Sound subjects store)
    (same : ∀ key, (memory.findings.get? key).map (·.toFindingRow) = store.findings.get? key) :
    InTurn subjects call store memory [] { store } { store := memory } where
  findings := same
  result := rfl
  assetRisk := rfl
  siteRisk := rfl
  sound := sound
  untouched _ _ := rfl
  newer _ _ stored _ := stored
  reported _ impossible := by cases impossible

theorem selected_count {state : Reconciliation} {progress : InMemoryFindingStore.Progress}
    (inTurn : InTurn subjects call store memory call.snapshot.candidates state progress) :
    (progress.store.findings.entries.countP fun item => selected call (asRow item)) =
      (scopeRows call store).countP (selected call) := by
  have inside : (fun entry : String × FindingRow => selected call entry && inScope call entry.2.toSubject) = selected call := by
    funext entry
    by_cases chosen : selected call entry = true
    · have resolves : Resolves call entry.1 entry.2 := of_decide_eq_true (Bool.and_eq_true_iff.mp chosen).2
      rw [chosen, resolves.2.1, Bool.and_self]
    · rw [Bool.eq_false_iff.mpr chosen, Bool.false_and]
  have rows : (progress.store.findings.map (·.toFindingRow)).entries.countP (selected call) =
      store.findings.entries.countP (selected call) := by
    apply Dict.countP_entries_congr
    intro key row chosen
    have unlisted : key ∉ call.snapshot.candidates.map (·.dedupeKey) := by
      intro member
      rw [selected, isCandidate, List.contains_iff_mem.mpr member] at chosen
      cases chosen
    rw [Dict.get?_map, inTurn.findings, inTurn.untouched key unlisted]
  rw [scopeRows, List.countP_filter, inside, ← rows, Dict.map, List.countP_map]
  rfl

theorem resolved_sound {row : FindingRow} (sound : RowSound subjects key row) :
    RowSound subjects key (resolvedRow call row) :=
  ⟨sound.subject, fun unresolved => absurd rfl unresolved⟩

theorem sql_resolved_row {state : Reconciliation} {progress : InMemoryFindingStore.Progress}
    (inTurn : InTurn subjects call store memory call.snapshot.candidates state progress)
    (looped : state = call.snapshot.candidates.foldl (applyCandidate call (scopeRows call store)) { store }) (key : String) :
    (reconcileRows call store).store.findings.get? key =
      (state.store.findings.get? key).map fun row => if selected call (key, row) then resolvedRow call row else row := by
  rw [reconcileRows_row, rowAfter]
  split
  · rename_i listed
    have kept : ∀ row, selected call (key, row) = false := fun row => by simp [selected, listed]
    rw [← upserts_row call key (scopeRows call store), ← looped]
    simp only [kept, Bool.false_eq_true, if_false, Option.map_id']
  · rename_i listed
    have unlisted := Bool.eq_false_iff.mpr listed
    have fresh : key ∉ call.snapshot.candidates.map (·.dedupeKey) := fun member =>
      listed (List.contains_iff_mem.mpr member)
    rw [inTurn.untouched key fresh]
    simp only [selected, unlisted, Bool.not_false, Bool.true_and, decide_eq_true_eq]

theorem reconcile_alike {sql : SqlFindingStore} (sound : Sound subjects sql.findings) (same : Same sql memory)
    (alike : ReconciledAlike subjects sql.findings call) :
    (InMemoryFindingStore.reconcile call memory).result = (reconcileRows call sql.findings).result ∧
      Same { sql with findings := (reconcileRows call sql.findings).store } (InMemoryFindingStore.reconcile call memory).store ∧
      Sound subjects (reconcileRows call sql.findings).store := by
  have start : InTurn subjects call sql.findings memory [] { store := sql.findings } { store := memory } :=
    inTurn_start sound same.findings
  have inTurn := inTurn_candidates alike.placed alike.counted rfl start
  have row := sql_resolved_row inTurn rfl
  let progress := call.snapshot.candidates.foldl (InMemoryFindingStore.applyCandidate call) { store := memory }
  have finding := memory_resolved_finding alike.named progress
  obtain ⟨result, assets, sites⟩ := memory_resolved_rest alike.named progress.store.findings.entries progress
  refine ⟨?_, ⟨fun key => ?_, ?_, ?_, ?_, ?_⟩, fun key stored => ?_⟩
  · have distinct : ((scopeRows call sql.findings).map Prod.fst).Nodup := Dict.nodup_filter_keys _ _
    have current : ∀ entry ∈ scopeRows call sql.findings, isCandidate call entry.1 = false →
        (call.snapshot.candidates.foldl (applyCandidate call (scopeRows call sql.findings))
          { store := sql.findings }).store.findings.get? entry.1 = some entry.2 := by
      intro entry member unlisted
      have fresh : entry.1 ∉ call.snapshot.candidates.map (·.dedupeKey) := by
        intro again
        rw [isCandidate, List.contains_iff_mem.mpr again] at unlisted
        cases unlisted
      rw [inTurn.untouched _ fresh, Dict.get?_eq_some]
      exact (List.mem_filter.mp member).1
    have counted := sql_resolved_count distinct (fun entry member => (List.mem_filter.mp member).2) current
    rw [InMemoryFindingStore.reconcile, result, selected_count inTurn, inTurn.result]
    exact counted.symm
  · show ((InMemoryFindingStore.reconcile call memory).store.findings.get? key).map _ = _
    rw [InMemoryFindingStore.reconcile, finding, row, ← inTurn.findings, Option.map_map, Option.map_map]
    congr 1
    funext stored
    by_cases chosen : selected call (key, stored.toFindingRow) = true
    · simp only [Function.comp_apply, if_pos chosen]
      rfl
    · simp only [Function.comp_apply, if_neg chosen]
  · rw [InMemoryFindingStore.reconcile, assets, inTurn.assetRisk]
    exact same.assetScores
  · rw [InMemoryFindingStore.reconcile, sites, inTurn.siteRisk]
    exact same.siteScores
  · rw [InMemoryFindingStore.reconcile, assets, inTurn.assetRisk]
    exact same.assetFactors
  · rw [InMemoryFindingStore.reconcile, sites, inTurn.siteRisk]
    exact same.siteFactors
  · rw [row]
    intro written
    obtain ⟨before, held, rfl⟩ := Option.map_eq_some_iff.mp written
    split
    · exact resolved_sound (inTurn.sound key before held)
    · exact inTurn.sound key before held

end

end OpenAssetWatch.Finding
