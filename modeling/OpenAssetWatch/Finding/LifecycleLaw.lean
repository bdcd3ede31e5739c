import OpenAssetWatch.Finding.InMemory
import OpenAssetWatch.Finding.StoreRows
import OpenAssetWatch.Library.Run

namespace OpenAssetWatch.Finding

open Library Library.Run

/-- A report of the finding when its suppression has run out. -/
def ExpiredMatch (key : String) (before : FindingRow) : FindingAction → Prop
  | .reconcile call => isCandidate call key = true ∧ before.suppressedUntil.any (· ≤ call.evaluatedAt) = true
  | _ => False

/-- A reconciliation that evaluated the finding's rule, did not report it and held it eligible. -/
def EligibleResolution (key : String) (before : FindingRow) : FindingAction → Prop
  | .reconcile call => call.snapshot.evaluatedRuleIds.contains before.ruleId = true ∧ isCandidate call key = false ∧
      isEligible call key before.toSubject = true
  | _ => False

structure RowLaw (row : FindingRow) : Prop where
  seen : row.lastSeenAt ≤ row.evaluatedAt
  resolved : row.resolvedAt.isSome = true ↔ row.status = .resolved

/-- What an action may do to a finding that is stored. -/
structure StepLaw (key : String) (action : FindingAction) (before after : FindingRow) : Prop where
  firstSeen : after.firstSeenAt = before.firstSeenAt
  lastSeen : before.lastSeenAt ≤ after.lastSeenAt
  evaluated : before.evaluatedAt ≤ after.evaluatedAt
  reopened : after.reopenCount =
    before.reopenCount + if before.status = .resolved ∧ after.status = .active then 1 else 0
  unsuppressed : before.status = .suppressed → after.status ≠ .suppressed →
    ExpiredMatch key before action ∨ EligibleResolution key before action
  settled : before.status ≠ .resolved → after.status = .resolved → EligibleResolution key before action

/-- A step keeps every stored finding within its law, and resolved ones are those with a time of resolution. -/
structure LifecycleLaw (startedAt : String → Time) (store : SqlFindingStore) (action : FindingAction) : Prop where
  step : ∀ key before, store.findings.findings.get? key = some before →
    ∃ after, (store.act startedAt action).1.findings.findings.get? key = some after ∧ StepLaw key action before after
  resolved : ∀ key after, (store.act startedAt action).1.findings.findings.get? key = some after →
    (after.resolvedAt.isSome = true ↔ after.status = .resolved)
  opened : ∀ key after, store.findings.findings.get? key = none →
    (store.act startedAt action).1.findings.findings.get? key = some after → after.status = .active ∧ after.reopenCount = 0

section

variable {call : ReconcileCall} {key : String} {before after row : FindingRow} {candidate : FindingCandidate}

/-- A row that the call's candidates have rewritten. -/
structure Rewritten (call : ReconcileCall) (before after : FindingRow) : Prop where
  firstSeen : after.firstSeenAt = before.firstSeenAt
  lastSeen : after.lastSeenAt = call.evaluatedAt
  evaluated : after.evaluatedAt = call.evaluatedAt
  status : after.status = reportedStatus call before
  suppressedUntil : after.suppressedUntil = before.suppressedUntil
  resolvedAt : after.resolvedAt = if before.status = .resolved then none else before.resolvedAt
  reopenCount : after.reopenCount = before.reopenCount + if before.status = .resolved then 1 else 0

theorem updatedRow_rewritten : Rewritten call row (updatedRow call row candidate) :=
  ⟨rfl, rfl, rfl, rfl, rfl, rfl, rfl⟩

theorem Rewritten.again (rewritten : Rewritten call before row) :
    Rewritten call before (updatedRow call row candidate) := by
  have unresolved : row.status ≠ .resolved := rewritten.status ▸ reported_unresolved before
  refine ⟨rewritten.firstSeen, rfl, rfl, ?_, rewritten.suppressedUntil, ?_, ?_⟩
  · show reportedStatus call row = reportedStatus call before
    rw [reportedStatus, if_neg unresolved, rewritten.suppressedUntil]
    split
    · rename_i expired
      rw [rewritten.status, reportedStatus] at expired
      split at expired
      · cases expired.1
      · rename_i open_before
        split at expired
        · cases expired.1
        · rw [reportedStatus, if_neg open_before, if_pos expired]
    · exact rewritten.status
  · show (if row.status = .resolved then none else row.resolvedAt) = _
    rw [if_neg unresolved, rewritten.resolvedAt]
  · show row.reopenCount + (if row.status = .resolved then 1 else 0) = _
    rw [if_neg unresolved, rewritten.reopenCount, Nat.add_zero]

theorem upsertTurn_older (older : row.evaluatedAt ≤ call.evaluatedAt) :
    upsertTurn call candidate (some row) = some (updatedRow call row candidate) := by
  simp only [upsertTurn, upsertedRow, if_pos older, Option.some_or]

theorem rewritten_fold {candidates : List FindingCandidate} (rewritten : Rewritten call before row) :
    ∃ after, candidates.foldl (fun row candidate => upsertTurn call candidate row) (some row) = some after ∧
      Rewritten call before after := by
  induction candidates generalizing row with
  | nil => exact ⟨row, rfl, rewritten⟩
  | cons candidate rest ih =>
    rw [List.foldl_cons, upsertTurn_older rewritten.evaluated.le]
    exact ih rewritten.again

theorem reported_row (older : before.evaluatedAt ≤ call.evaluatedAt) (listed : isCandidate call key = true) :
    ∃ after, rowAfter call key (some before) = some after ∧ Rewritten call before after := by
  obtain ⟨candidate, member, same⟩ := List.mem_map.mp (List.contains_iff_mem.mp listed)
  rw [rowAfter, if_pos listed]
  cases candidates : call.snapshot.candidates.filter (·.dedupeKey = key) with
  | nil => exact absurd (candidates ▸ List.mem_filter.mpr ⟨member, decide_eq_true same⟩) List.not_mem_nil
  | cons first rest =>
    rw [List.foldl_cons, upsertTurn_older older]
    exact rewritten_fold updatedRow_rewritten

theorem opened_row (opened : rowAfter call key none = some after) :
    after.status = .active ∧ after.reopenCount = 0 ∧ RowLaw after := by
  rw [rowAfter] at opened
  split at opened
  · cases candidates : call.snapshot.candidates.filter (·.dedupeKey = key) with
    | nil =>
      rw [candidates] at opened
      cases opened
    | cons first rest =>
      have inserted : Rewritten call (insertedRow call first) (insertedRow call first) := ⟨rfl, rfl, rfl, rfl, rfl, rfl, rfl⟩
      obtain ⟨last, folded, rewritten⟩ := rewritten_fold inserted
      rw [candidates, List.foldl_cons] at opened
      rw [Option.some.inj (folded.symm.trans opened)] at rewritten
      have active : after.status = .active := rewritten.status
      refine ⟨active, rewritten.reopenCount, ?_, ?_⟩
      · rw [rewritten.lastSeen, rewritten.evaluated]
      · have empty : after.resolvedAt = none := rewritten.resolvedAt
        rw [empty, active]
        decide
  · cases opened

theorem same_row (law : RowLaw row) (action : FindingAction) : StepLaw key action row row ∧ RowLaw row := by
  refine ⟨⟨rfl, le_refl _, le_refl _, ?_, fun quiet left => absurd quiet left, fun unsettled now => absurd now unsettled⟩, law⟩
  have stays : ¬ (row.status = .resolved ∧ row.status = .active) := by
    intro both
    rw [both.1] at both
    cases both.2
  rw [if_neg stays, Nat.add_zero]

theorem reportedStatus_active : reportedStatus call row = .active ↔
    row.status = .resolved ∨ row.status = .active ∨
      row.status = .suppressed ∧ row.suppressedUntil.any (· ≤ call.evaluatedAt) = true := by
  simp only [reportedStatus]
  cases row.status <;> simp

theorem rewritten_law (law : RowLaw before) (older : before.evaluatedAt ≤ call.evaluatedAt)
    (listed : isCandidate call key = true) (rewritten : Rewritten call before after) :
    StepLaw key (.reconcile call) before after ∧ RowLaw after := by
  have unresolved : after.status ≠ .resolved := rewritten.status ▸ reported_unresolved before
  refine ⟨⟨rewritten.firstSeen, ?_, ?_, ?_, ?_, fun _ settled => absurd settled unresolved⟩, ?_, ?_⟩
  · rw [rewritten.lastSeen]
    exact law.seen.trans older
  · rw [rewritten.evaluated]
    exact older
  · rw [rewritten.reopenCount, rewritten.status]
    by_cases settled : before.status = .resolved
    · rw [if_pos settled, if_pos ⟨settled, reportedStatus_active.mpr (.inl settled)⟩]
    · rw [if_neg settled, if_neg fun both => settled both.1]
  · intro quiet left
    rw [rewritten.status, reportedStatus, quiet] at left
    by_cases expired : before.suppressedUntil.any (· ≤ call.evaluatedAt) = true
    · exact .inl ⟨listed, expired⟩
    · simp [expired] at left
  · rw [rewritten.lastSeen, rewritten.evaluated]
  · rw [rewritten.resolvedAt]
    refine ⟨fun set => ?_, fun settled => absurd settled unresolved⟩
    split at set
    · cases set
    · rename_i open_before
      exact absurd (law.resolved.mp set) open_before

theorem resolved_law (law : RowLaw before) (unlisted : isCandidate call key = false) (resolves : Resolves call key before) :
    StepLaw key (.reconcile call) before (resolvedRow call before) ∧ RowLaw (resolvedRow call before) := by
  have eligible : EligibleResolution key before (.reconcile call) := ⟨resolves.1, unlisted, resolves.2.2.1⟩
  have older := resolves.2.2.2.2
  refine ⟨⟨rfl, le_refl _, older, ?_, fun _ _ => .inr eligible, fun _ _ => eligible⟩, law.seen.trans older, ?_⟩
  · have settled : ¬ (before.status = .resolved ∧ (resolvedRow call before).status = .active) := fun both =>
      FindingStatus.noConfusion both.2
    rw [if_neg settled, Nat.add_zero]
    rfl
  · exact ⟨fun _ => rfl, fun _ => rfl⟩

theorem reconciled_law (law : RowLaw before) :
    ∃ after, rowAfter call key (some before) = some after ∧ StepLaw key (.reconcile call) before after ∧ RowLaw after := by
  by_cases older : before.evaluatedAt ≤ call.evaluatedAt
  · by_cases listed : isCandidate call key = true
    · obtain ⟨after, written, rewritten⟩ := reported_row older listed
      exact ⟨after, written, rewritten_law law older listed rewritten⟩
    · rw [rowAfter, if_neg listed, Option.map_some]
      refine ⟨_, rfl, ?_⟩
      split
      · rename_i resolves
        exact resolved_law law (Bool.eq_false_iff.mpr listed) resolves
      · exact same_row law _
  · exact ⟨before, rowAfter_newer call key (not_le.mp older), same_row law _⟩

end

section

variable {startedAt : String → Time} {store : SqlFindingStore} {key : String} {before : FindingRow}

theorem updated_law {allowed : FindingStatus → Bool} {change : FindingRow → FindingRow} {action : FindingAction}
    {tables : FindingStore} (other : String)
    (changed : ∀ row, RowLaw row → allowed row.status = true → StepLaw key action row (change row) ∧ RowLaw (change row))
    (law : RowLaw before) (stored : tables.findings.get? key = some before) :
    ∃ after, (updateWhere allowed change other tables).1.findings.get? key = some after ∧
      StepLaw key action before after ∧ RowLaw after := by
  cases target : tables.findings.get? other with
  | none =>
    simp only [updateWhere, target]
    exact ⟨before, stored, same_row law _⟩
  | some row =>
    simp only [updateWhere, target]
    split
    · rename_i selected
      simp only [Dict.set, Dict.get?_update]
      split
      · rename_i here
        rw [← here, stored] at target
        cases target
        exact ⟨_, rfl, changed before law selected⟩
      · exact ⟨before, stored, same_row law _⟩
    · exact ⟨before, stored, same_row law _⟩

theorem updated_absent {allowed : FindingStatus → Bool} {change : FindingRow → FindingRow} {tables : FindingStore}
    (other : String) (absent : tables.findings.get? key = none) :
    (updateWhere allowed change other tables).1.findings.get? key = none := by
  cases target : tables.findings.get? other with
  | none =>
    simp only [updateWhere, target]
    exact absent
  | some row =>
    have apart : key ≠ other := by
      intro here
      rw [here, target] at absent
      cases absent
    simp only [updateWhere, target]
    split
    · simp only [Dict.set, Dict.get?_update_ne _ apart]
      exact absent
    · exact absent

theorem unresolved_law {row changed : FindingRow} {action : FindingAction} (law : RowLaw row)
    (unresolved : row.status ≠ .resolved) (unresolved' : changed.status ≠ .resolved)
    (kept : changed.firstSeenAt = row.firstSeenAt ∧ changed.lastSeenAt = row.lastSeenAt ∧
      changed.evaluatedAt = row.evaluatedAt ∧ changed.resolvedAt = row.resolvedAt ∧ changed.reopenCount = row.reopenCount)
    (suppressed : row.status = .suppressed → changed.status = .suppressed) :
    StepLaw key action row changed ∧ RowLaw changed := by
  obtain ⟨first, last, evaluated, resolved, count⟩ := kept
  refine ⟨⟨first, last.ge, evaluated.ge, ?_, fun quiet left => absurd (suppressed quiet) left,
    fun _ settled => absurd settled unresolved'⟩, ?_, ?_⟩
  · rw [count, if_neg fun both => unresolved both.1, Nat.add_zero]
  · rw [last, evaluated]
    exact law.seen
  · rw [resolved, law.resolved]
    exact iff_of_false unresolved unresolved'

variable (startedAt) in
theorem act_law (store : SqlFindingStore) (action : FindingAction) (key : String) :
    (∀ before, RowLaw before → store.findings.findings.get? key = some before →
      ∃ after, (store.act startedAt action).1.findings.findings.get? key = some after ∧
        StepLaw key action before after ∧ RowLaw after) ∧
    (∀ after, store.findings.findings.get? key = none →
      (store.act startedAt action).1.findings.findings.get? key = some after →
        after.status = .active ∧ after.reopenCount = 0 ∧ RowLaw after) := by
  cases action with
  | reconcile call =>
    cases result : Finding.reconcile call store.findings with
    | error error =>
      simp only [SqlFindingStore.act, result]
      refine ⟨fun before law stored => ⟨before, stored, same_row law _⟩, fun after absent stored => ?_⟩
      rw [absent] at stored
      cases stored
    | ok done =>
      have committed : done = reconcileRows call store.findings := by
        simp only [Finding.reconcile, require_bind_eq_ok] at result
        exact (Except.ok.inj result.2).symm
      simp only [SqlFindingStore.act, result, committed, reconcileRows_row]
      refine ⟨fun before law stored => ?_, fun after absent opened => ?_⟩
      · rw [stored]
        exact reconciled_law law
      · rw [absent] at opened
        exact opened_row opened
  | acknowledge other actor time =>
    have acted : (store.act startedAt (.acknowledge other actor time)).1.findings =
      (updateWhere isActive (acknowledgedRow actor time) other store.findings).1 := rfl
    rw [acted]
    refine ⟨fun before law stored => updated_law other (fun row law selected => ?_) law stored, fun after absent stored => ?_⟩
    · refine unresolved_law law ?_ (fun impossible => by cases impossible) ⟨rfl, rfl, rfl, rfl, rfl⟩ ?_
      · intro settled
        rw [settled] at selected
        cases selected
      · intro quiet
        rw [quiet] at selected
        cases selected
    · rw [updated_absent other absent] at stored
      cases stored
  | suppress other actor reason until? time =>
    have acted : (store.act startedAt (.suppress other actor reason until? time)).1.findings =
      (updateWhere (fun status => isActive status || status == .suppressed) (suppressedRow actor reason until? time) other
        store.findings).1 := rfl
    rw [acted]
    refine ⟨fun before law stored => updated_law other (fun row law selected => ?_) law stored, fun after absent stored => ?_⟩
    · refine unresolved_law law ?_ (fun impossible => by cases impossible) ⟨rfl, rfl, rfl, rfl, rfl⟩ fun _ => rfl
      intro settled
      rw [settled] at selected
      cases selected
    · rw [updated_absent other absent] at stored
      cases stored
  | replaceRisk evaluation =>
    refine ⟨fun before law stored => ⟨before, stored, same_row law _⟩, fun after absent stored => ?_⟩
    rw [show store.findings.findings.get? key = some after from stored] at absent
    cases absent

end

/-- Every run keeps every finding within the lifecycle. -/
theorem lifecycle_law (startedAt : String → Time) (actions : List FindingAction) :
    Along (fun store action => (SqlFindingStore.act startedAt store action).1) (LifecycleLaw startedAt) {} actions := by
  refine along_of_invariant
    (fun store : SqlFindingStore => ∀ key row, store.findings.findings.get? key = some row → RowLaw row) ?_ ?_ actions
  · intro store action lawful
    have next : ∀ key after, (store.act startedAt action).1.findings.findings.get? key = some after → RowLaw after := by
      intro key after written
      obtain ⟨changed, opened⟩ := act_law startedAt store action key
      cases stored : store.findings.findings.get? key with
      | none => exact (opened after stored written).2.2
      | some before =>
        obtain ⟨row, same, -, law⟩ := changed before (lawful key before stored) stored
        rw [written] at same
        cases same
        exact law
    refine ⟨⟨fun key before stored => ?_, fun key after written => (next key after written).resolved,
      fun key after absent written => ?_⟩, next⟩
    · obtain ⟨after, written, law, -⟩ := (act_law _ store action key).1 before (lawful key before stored) stored
      exact ⟨after, written, law⟩
    · obtain ⟨active, count, -⟩ := (act_law _ store action key).2 after absent written
      exact ⟨active, count⟩
  · intro key row stored
    cases stored

end OpenAssetWatch.Finding
