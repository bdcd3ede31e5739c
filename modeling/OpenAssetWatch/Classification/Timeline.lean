import OpenAssetWatch.Classification.Classifier
import OpenAssetWatch.Library.Replacement
import OpenAssetWatch.Library.Run

namespace OpenAssetWatch.Classification

open Library OpenAssetWatch.Text

/-- What the identifier of a conflict of an asset is a hash of. -/
abbrev ConflictKey := String × List Char × List Char

def conflictKey (conflict : ClassificationConflict) : ConflictKey :=
  let selected := casefold conflict.selectedValue
  let conflicting := casefold conflict.conflictingValue
  (conflict.conflictType, min selected conflicting, max selected conflicting)

/-- A row of `classification_conflicts`. -/
structure ConflictRow where
  conflict : ClassificationConflict
  isOpen : Bool
  firstSeenAt : Time
  lastSeenAt : Time
  resolvedAt : Option Time
  lastRunId : String
deriving DecidableEq

/-- The row of `asset_classifications`. -/
structure ClassificationRow where
  result : ClassificationResult
  updatedAt : Time
  lastRunId : String
deriving DecidableEq

/-- A row of `asset_classification_history`. -/
structure HistoryRow where
  classifierVersion : String
  snapshot : ClassificationResult
  validFrom : Time
  supersededAt : Time
  supersededByRunId : String
deriving DecidableEq

/-- What is stored of one asset, its history in the order of its rows. -/
structure AssetClassification where
  current : Option ClassificationRow
  history : List HistoryRow
  conflicts : Dict ConflictKey ConflictRow

def AssetClassification.empty : AssetClassification := ⟨none, [], Dict.empty⟩

/-- A call of `reconcile`, with what `NOW()` is in its transaction. -/
structure Reconciliation where
  runId : String
  clock : Time
  result : ClassificationResult
  conflicts_distinct : (result.conflicts.map conflictKey).Nodup

/-- `classification_changed`, from a result that is stored. -/
def classificationChanged (previous current : ClassificationResult) : Bool :=
  previous.classifierVersion ≠ current.classifierVersion || previous.category ≠ current.category ||
    previous.subtype ≠ current.subtype || previous.manufacturer ≠ current.manufacturer ||
    previous.productHint ≠ current.productHint || previous.osFamily ≠ current.osFamily ||
    previous.osVersionHint ≠ current.osVersionHint || previous.managedCapability ≠ current.managedCapability ||
    previous.confidence ≠ current.confidence || previous.status ≠ current.status ||
    previous.supportingEvidenceIds ≠ current.supportingEvidenceIds ||
    previous.conflictingEvidenceIds ≠ current.conflictingEvidenceIds ||
    previous.independentSourceCount ≠ current.independentSourceCount || previous.reasonCodes ≠ current.reasonCodes

section Reconcile

/-- Every conflict that is open is resolved. -/
def resolveConflicts (call : Reconciliation) (conflicts : Dict ConflictKey ConflictRow) : Dict ConflictKey ConflictRow :=
  conflicts.map fun row =>
    if row.isOpen then
      { row with isOpen := false, resolvedAt := some call.result.evaluatedAt, lastRunId := call.runId }
    else row

def openConflict (call : Reconciliation) (conflicts : Dict ConflictKey ConflictRow) (conflict : ClassificationConflict) :
    Dict ConflictKey ConflictRow :=
  conflicts.update (conflictKey conflict) fun stored =>
    { conflict
      isOpen := true
      firstSeenAt := (stored.map (·.firstSeenAt)).getD call.result.evaluatedAt
      lastSeenAt := call.result.evaluatedAt
      resolvedAt := none
      lastRunId := call.runId }

def storedConflicts (call : Reconciliation) (conflicts : Dict ConflictKey ConflictRow) : Dict ConflictKey ConflictRow :=
  call.result.conflicts.foldl (openConflict call) (resolveConflicts call conflicts)

/-- `reconcile`. -/
def reconcile (s : AssetClassification) (call : Reconciliation) : AssetClassification :=
  match s.current with
  | none =>
    { current := some ⟨call.result, call.clock, call.runId⟩
      history := s.history
      conflicts := storedConflicts call s.conflicts }
  | some row =>
    if call.result.evaluatedAt < row.result.evaluatedAt then s
    else
      let changed := classificationChanged row.result call.result
      { current := some {
          result := { call.result with firstClassifiedAt := row.result.firstClassifiedAt }
          updatedAt := if changed then call.clock else row.updatedAt
          lastRunId := call.runId }
        history :=
          if changed then
            s.history ++ [{
              classifierVersion := row.result.classifierVersion
              snapshot := row.result
              validFrom := row.updatedAt
              supersededAt := call.result.evaluatedAt
              supersededByRunId := call.runId }]
          else s.history
        conflicts := storedConflicts call s.conflicts }

/-- What is stored after the calls, in the order in which they commit. -/
def reconcileAll (calls : List Reconciliation) : AssetClassification := calls.foldl reconcile .empty

end Reconcile

section Conflicts

variable {conflicts : Dict ConflictKey ConflictRow} {call : Reconciliation} {k : ConflictKey}

/-- The open conflicts are those of the result, as it saw them. -/
def AssetClassification.OpenConflictsOf (s : AssetClassification) (call : Reconciliation) : Prop :=
  ∀ k conflict, (∃ row, s.conflicts.get? k = some row ∧ row.isOpen = true ∧ row.conflict = conflict ∧
      row.lastSeenAt = call.result.evaluatedAt) ↔ conflict ∈ call.result.conflicts ∧ conflictKey conflict = k

theorem get?_resolveConflicts {row : ConflictRow} (stored : (resolveConflicts call conflicts).get? k = some row) :
    row.isOpen = false ∧ ∃ before, conflicts.get? k = some before ∧ before.firstSeenAt = row.firstSeenAt := by
  unfold resolveConflicts at stored
  rw [Dict.get?_map] at stored
  obtain ⟨before, found, same⟩ := Option.map_eq_some_iff.mp stored
  by_cases opened : before.isOpen = true
  · rw [if_pos opened] at same
    subst same
    exact ⟨rfl, before, found, rfl⟩
  · rw [if_neg opened] at same
    subst same
    exact ⟨Bool.eq_false_iff.mpr opened, before, found, rfl⟩

theorem firstSeenAt_resolveConflicts : ((resolveConflicts call conflicts).get? k).map (·.firstSeenAt) =
    (conflicts.get? k).map (·.firstSeenAt) := by
  unfold resolveConflicts
  rw [Dict.get?_map, Option.map_map]
  congr 1
  funext row
  show (if row.isOpen = true then _ else row).firstSeenAt = row.firstSeenAt
  split <;> rfl

theorem get?_openConflict (conflict : ClassificationConflict) :
    (openConflict call conflicts conflict).get? k =
      if k = conflictKey conflict then
        some ⟨conflict, true, ((conflicts.get? (conflictKey conflict)).map (·.firstSeenAt)).getD call.result.evaluatedAt,
          call.result.evaluatedAt, none, call.runId⟩
      else conflicts.get? k := by
  unfold openConflict
  rw [Dict.get?_update]

theorem get?_foldl_openConflict {reported : List ClassificationConflict} (distinct : (reported.map conflictKey).Nodup) :
    (reported.foldl (openConflict call) conflicts).get? k =
      match reported.find? (conflictKey · = k) with
      | some conflict =>
        some ⟨conflict, true, ((conflicts.get? k).map (·.firstSeenAt)).getD call.result.evaluatedAt,
          call.result.evaluatedAt, none, call.runId⟩
      | none => conflicts.get? k := by
  induction reported generalizing conflicts with
  | nil => rfl
  | cons conflict rest ih =>
    obtain ⟨fresh, distinct⟩ := List.nodup_cons.mp distinct
    rw [List.foldl_cons, ih distinct, List.find?_cons, get?_openConflict]
    by_cases own : conflictKey conflict = k
    · have absent : rest.find? (conflictKey · = k) = none := by
        rw [List.find?_eq_none]
        intro other member same
        apply fresh
        rw [own, ← of_decide_eq_true same]
        exact List.mem_map_of_mem member
      rw [absent, decide_eq_true own, if_pos own.symm, own]
    · rw [decide_eq_false own, if_neg (Ne.symm own)]

theorem openConflictsOf_stored {s : AssetClassification} (stored : s.conflicts = storedConflicts call conflicts) :
    s.OpenConflictsOf call := by
  intro k conflict
  rw [stored, storedConflicts, get?_foldl_openConflict call.conflicts_distinct]
  cases found : call.result.conflicts.find? (conflictKey · = k) with
  | none =>
    have absent := List.find?_eq_none.mp found
    constructor
    · rintro ⟨row, here, opened, -, -⟩
      rw [(get?_resolveConflicts here).1] at opened
      cases opened
    · rintro ⟨member, own⟩
      exact absurd (decide_eq_true own) (absent conflict member)
  | some reported =>
    have own := List.find?_some found
    rw [decide_eq_true_eq] at own
    have listed := List.mem_of_find?_eq_some found
    constructor
    · rintro ⟨row, here, -, same, -⟩
      cases here
      subst same
      exact ⟨listed, own⟩
    · rintro ⟨member, key⟩
      refine ⟨_, rfl, rfl, ?_, rfl⟩
      exact List.inj_on_of_nodup_map call.conflicts_distinct listed member (own.trans key.symm)

theorem firstSeenAt_storedConflicts {row : ConflictRow} (stored : conflicts.get? k = some row) :
    ∃ after, (storedConflicts call conflicts).get? k = some after ∧ after.firstSeenAt = row.firstSeenAt := by
  have kept : ((resolveConflicts call conflicts).get? k).map (·.firstSeenAt) = some row.firstSeenAt := by
    rw [firstSeenAt_resolveConflicts, stored]
    rfl
  rw [storedConflicts, get?_foldl_openConflict call.conflicts_distinct]
  cases call.result.conflicts.find? (conflictKey · = k) with
  | none => exact Option.map_eq_some_iff.mp kept
  | some reported => exact ⟨_, rfl, by rw [kept]; rfl⟩

end Conflicts

section Current

variable {s : AssetClassification} {call : Reconciliation}

/-- Whether a call was evaluated at the time of another one or before. -/
def notLater (call other : Reconciliation) : Bool := call.result.evaluatedAt ≤ other.result.evaluatedAt

/-- The row and the open conflicts are those of a call, in an asset that was first classified by another. -/
def AssetClassification.Shows (s : AssetClassification) (first call : Reconciliation) : Prop :=
  (∃ row, s.current = some row ∧ row.result = { call.result with firstClassifiedAt := first.result.firstClassifiedAt } ∧
    row.lastRunId = call.runId) ∧ s.OpenConflictsOf call

theorem reconcile_shows {first shown : Reconciliation} (shows_ : s.Shows first shown) :
    (reconcile s call).Shows first (if notLater shown call then call else shown) := by
  obtain ⟨⟨row, current, same, run⟩, opened⟩ := shows_
  have evaluated : row.result.evaluatedAt = shown.result.evaluatedAt := by rw [same]
  have since : row.result.firstClassifiedAt = first.result.firstClassifiedAt := by rw [same]
  unfold reconcile
  rw [current]
  dsimp only
  rw [evaluated]
  by_cases late : call.result.evaluatedAt < shown.result.evaluatedAt
  · have stays : notLater shown call = false := decide_eq_false (not_le.mpr late)
    rw [if_pos late, stays, if_neg Bool.false_ne_true]
    exact ⟨⟨row, current, same, run⟩, opened⟩
  · have replaced : notLater shown call = true := decide_eq_true (not_lt.mp late)
    rw [if_neg late, replaced, since]
    exact ⟨⟨_, rfl, rfl, rfl⟩, openConflictsOf_stored rfl⟩

theorem reconcileAll_shows (first : Reconciliation) (rest : List Reconciliation) :
    (reconcileAll (first :: rest)).Shows first (settle notLater first rest) := by
  induction rest using List.reverseRecOn with
  | nil => exact ⟨⟨_, rfl, rfl, rfl⟩, openConflictsOf_stored rfl⟩
  | append_singleton rest call ih =>
    have step : reconcileAll (first :: (rest ++ [call])) = reconcile (reconcileAll (first :: rest)) call := by
      unfold reconcileAll
      rw [← List.cons_append, List.foldl_append]
      rfl
    rw [step, settle_append]
    exact reconcile_shows ih

theorem lastGreatest_settle (first : Reconciliation) (rest : List Reconciliation) :
    LastGreatest notLater (first :: rest) (settle notLater first rest) := by
  apply settle_lastGreatest
  · intro a b c earlier later
    unfold notLater at earlier later ⊢
    rw [decide_eq_true_eq] at earlier later ⊢
    exact earlier.trans later
  · intro a b
    unfold notLater
    rw [decide_eq_true_eq, decide_eq_true_eq]
    exact le_total _ _

theorem reconcile_firstSeenAt {k : ConflictKey} {row : ConflictRow} (stored : s.conflicts.get? k = some row) :
    ∃ after, (reconcile s call).conflicts.get? k = some after ∧ after.firstSeenAt = row.firstSeenAt := by
  unfold reconcile
  cases s.current with
  | none => exact firstSeenAt_storedConflicts stored
  | some current =>
    dsimp only
    split
    · exact ⟨row, stored, rfl⟩
    · exact firstSeenAt_storedConflicts stored

theorem reconcileAll_firstSeenAt {k : ConflictKey} {row : ConflictRow} (more : List Reconciliation)
    (stored : s.conflicts.get? k = some row) :
    ∃ after, (more.foldl reconcile s).conflicts.get? k = some after ∧ after.firstSeenAt = row.firstSeenAt := by
  induction more generalizing s row with
  | nil => exact ⟨row, stored, rfl⟩
  | cons call more ih =>
    obtain ⟨next, found, same⟩ : ∃ next, (reconcile s call).conflicts.get? k = some next ∧ next.firstSeenAt = row.firstSeenAt :=
      reconcile_firstSeenAt stored
    obtain ⟨after, last, kept⟩ := ih found
    exact ⟨after, last, kept.trans same⟩

end Current

section Timeline

variable {s : AssetClassification} {call : Reconciliation}

/-- No interval of the history ends before it begins, each one begins where the one before it ends, and the row's begins where
    the last one ends. -/
structure AssetClassification.Timeline (s : AssetClassification) : Prop where
  forward : ∀ row ∈ s.history, row.validFrom ≤ row.supersededAt
  abut : s.history.IsChain fun earlier later => earlier.supersededAt = later.validFrom
  reaches : ∀ last ∈ s.history.getLast?, ∀ row ∈ s.current, last.supersededAt = row.updatedAt

/-- A call that changes the row is evaluated when the row is written, and not before the row that it replaces was. -/
def AssetClassification.Aligned (s : AssetClassification) (call : Reconciliation) : Prop :=
  ∀ row ∈ s.current, row.result.evaluatedAt ≤ call.result.evaluatedAt → classificationChanged row.result call.result = true →
    row.updatedAt ≤ call.result.evaluatedAt ∧ call.result.evaluatedAt = call.clock

/-- An asset that was never classified has no history. -/
def AssetClassification.Started (s : AssetClassification) : Prop := s.current = none → s.history = []

theorem reconcile_started (s : AssetClassification) (call : Reconciliation) (started : s.Started) :
    (reconcile s call).Started := by
  unfold reconcile
  cases current : s.current with
  | none => exact fun impossible => by cases impossible
  | some row =>
    dsimp only
    split
    · exact started
    · exact fun impossible => by cases impossible

theorem timeline_append_iff {history : List HistoryRow} {conflicts : Dict ConflictKey ConflictRow} {row after : ClassificationRow}
    {last : HistoryRow} (old : AssetClassification.Timeline ⟨some row, history, conflicts⟩) (begins : last.validFrom = row.updatedAt)
    {conflicts' : Dict ConflictKey ConflictRow} :
    AssetClassification.Timeline ⟨some after, history ++ [last], conflicts'⟩ ↔
      row.updatedAt ≤ last.supersededAt ∧ last.supersededAt = after.updatedAt := by
  constructor
  · intro new
    have forward := new.forward last (List.mem_append_right _ (List.mem_singleton_self _))
    have reaches := new.reaches last (by rw [List.getLast?_concat]; rfl) after rfl
    rw [begins] at forward
    exact ⟨forward, reaches⟩
  · rintro ⟨forward, reaches⟩
    constructor
    · intro interval member
      rcases List.mem_append.mp member with earlier | here
      · exact old.forward interval earlier
      · rw [List.mem_singleton.mp here, begins]
        exact forward
    · apply List.isChain_append.mpr
      refine ⟨old.abut, List.isChain_singleton _, ?_⟩
      intro before ends next here
      cases Option.some.inj here
      rw [begins]
      exact old.reaches before ends row rfl
    · intro final ends current here
      rw [List.getLast?_concat] at ends
      cases Option.some.inj ends
      cases Option.some.inj here
      exact reaches

theorem timeline_iff (started : s.Started) (old : s.Timeline) : (reconcile s call).Timeline ↔ s.Aligned call := by
  obtain ⟨current, history, conflicts⟩ := s
  cases current with
  | none =>
    have empty : history = [] := started rfl
    subst empty
    constructor
    · exact fun _ row absent => by cases absent
    · intro _
      constructor
      · exact fun row absent => absurd absent List.not_mem_nil
      · exact List.isChain_nil
      · exact fun last absent => by cases absent
  | some row =>
    unfold reconcile AssetClassification.Aligned
    dsimp only
    by_cases late : call.result.evaluatedAt < row.result.evaluatedAt
    · rw [if_pos late]
      constructor
      · intro _ other here inTime
        cases Option.some.inj here
        exact absurd late (not_lt.mpr inTime)
      · exact fun _ => old
    · rw [if_neg late]
      by_cases changed : classificationChanged row.result call.result = true
      · rw [changed, if_pos rfl, if_pos rfl, timeline_append_iff old rfl]
        constructor
        · intro fits other here _ _
          cases Option.some.inj here
          exact fits
        · exact fun aligned => aligned row rfl (not_lt.mp late) changed
      · rw [if_neg changed, if_neg changed]
        constructor
        · intro _ other here _ differs
          cases Option.some.inj here
          exact absurd differs changed
        · intro _
          constructor
          · exact old.forward
          · exact old.abut
          · intro last ends other here
            cases Option.some.inj here
            exact old.reaches last ends row rfl

end Timeline

section Results

theorem conflictType_materialConflict (shown : List Char → List Char) (conflictType : String) (ranked : List Ranked) :
    ((materialConflict shown conflictType ranked).toList.map (·.conflictType)).Sublist [conflictType] := by
  unfold materialConflict
  split
  · split
    · exact List.Sublist.refl _
    · exact List.nil_sublist _
  · exact List.nil_sublist _

theorem conflictTypes_nodup (signals : List Signal) (ranked : List Ranked) :
    ((conflictsOf signals ranked).map (·.conflictType)).Nodup := by
  have four : ((conflictsOf signals ranked).map (·.conflictType)).Sublist
      (["category"] ++ ["device-role"] ++ ["os-family"] ++ ["os-version"]) := by
    unfold conflictsOf attributeConflict
    rw [List.map_append, List.map_append, List.map_append]
    apply List.Sublist.append
    · apply List.Sublist.append
      · apply List.Sublist.append
        · exact conflictType_materialConflict _ _ _
        · exact conflictType_materialConflict _ _ _
      · exact conflictType_materialConflict _ _ _
    · exact conflictType_materialConflict _ _ _
  exact four.nodup (by decide)

theorem classifyAsset_conflicts_distinct (classificationIdFor : String → String → String) (siteId assetId : String)
    (evidence : List ClassificationEvidence) (now : Time) (previous : Option Time) :
    ((classifyAsset classificationIdFor siteId assetId evidence now previous).conflicts.map conflictKey).Nodup := by
  apply List.Nodup.of_map Prod.fst
  rw [List.map_map]
  exact (conflictTypes_nodup _ _).sublist ((List.take_sublist _ _).map _)

/-- A run's call for what it makes of the evidence at its time. -/
def evaluation (classificationIdFor : String → String → String) (siteId assetId : String) (runId : String) (clock : Time)
    (evidence : List ClassificationEvidence) (now : Time) (previous : Option Time) : Reconciliation where
  runId := runId
  clock := clock
  result := classifyAsset classificationIdFor siteId assetId evidence now previous
  conflicts_distinct := classifyAsset_conflicts_distinct classificationIdFor siteId assetId evidence now previous

end Results

section Runs

/-- What is stored after the calls: the last of the latest results with its conflicts open, since the first result. -/
def AssetClassification.Standing (s : AssetClassification) : List Reconciliation → Prop
  | [] => s.current = none
  | first :: rest => ∃ latest, LastGreatest notLater (first :: rest) latest ∧ s.Shows first latest

/-- What holds after calls: they stand, and what was known of a conflict after some of them still is. -/
structure Recorded (calls : List Reconciliation) : Prop where
  standing : (reconcileAll calls).Standing calls
  firstSeenAt : ∀ done, done <+: calls → ∀ k row, (reconcileAll done).conflicts.get? k = some row →
    ∃ after, (reconcileAll calls).conflicts.get? k = some after ∧ after.firstSeenAt = row.firstSeenAt

theorem recorded (calls : List Reconciliation) : Recorded calls := by
  constructor
  · cases calls with
    | nil => rfl
    | cons first rest => exact ⟨_, lastGreatest_settle first rest, reconcileAll_shows first rest⟩
  · rintro done ⟨more, rfl⟩ k row stored
    unfold reconcileAll at stored ⊢
    rw [List.foldl_append]
    exact reconcileAll_firstSeenAt more stored

theorem timeline_empty : AssetClassification.empty.Timeline where
  forward := fun _ absent => absurd absent List.not_mem_nil
  abut := List.isChain_nil
  reaches := fun _ _ _ absent => absurd absent (Option.not_mem_none _)

/-- In every run of calls what is stored stays as recorded, and its history a timeline, exactly when every call that changes the
    row is evaluated at the time at which the row is written and not before the row that it replaces was. -/
theorem history_timeline_iff (calls : List Reconciliation) :
    (∀ done, done <+: calls → Recorded done ∧ (reconcileAll done).Timeline) ↔
      Run.Along reconcile AssetClassification.Aligned .empty calls := by
  have along : Run.Along reconcile (fun s call => (reconcile s call).Timeline) .empty calls ↔
      Run.Along reconcile AssetClassification.Aligned .empty calls :=
    Run.along_congr (fun s => s.Started ∧ s.Timeline) (fun s call good _ => timeline_iff good.1 good.2)
      (fun s call good _ kept => ⟨reconcile_started s call good.1, kept⟩) ⟨fun _ => rfl, timeline_empty⟩ (Run.along_true _ _)
  rw [← along, Run.along_iff]
  constructor
  · intro kept done call rest split
    have after := (kept (done ++ [call]) ⟨rest, by rw [split, List.append_assoc]; rfl⟩).2
    unfold reconcileAll at after
    rwa [List.foldl_append] at after
  · rintro stepwise done ⟨more, split⟩
    refine ⟨recorded done, ?_⟩
    induction done using List.reverseRecOn with
    | nil => exact timeline_empty
    | append_singleton done call _ =>
      have after := stepwise done call more (by rw [← split, List.append_assoc]; rfl)
      unfold reconcileAll
      rwa [List.foldl_append]

end Runs

section Sample

/-- What a run makes of an agent's word for the category of its host, when it is evaluated and when the row is written. -/
def sampleEvaluation (value : String) (evaluatedAt clock : Time) : Reconciliation :=
  evaluation (fun _ _ => "cls") "site" "asset" "run" clock
    [{ evidenceId := "cev_1", sourceId := "agent", sourceType := "endpoint-agent", collectionMethod := "endpoint-inventory",
       kind := "category", value := value, observedAt := some 0, direct := true, strength := .direct,
       sourceConfidence := some 1 }] evaluatedAt none

instance (s : AssetClassification) (call : Reconciliation) : Decidable (s.Aligned call) :=
  match current : s.current with
  | none => .isTrue fun row here => by rw [current] at here; cases here
  | some row =>
    decidable_of_iff (row.result.evaluatedAt ≤ call.result.evaluatedAt → classificationChanged row.result call.result = true →
      row.updatedAt ≤ call.result.evaluatedAt ∧ call.result.evaluatedAt = call.clock)
      ⟨fun aligned other here => by rw [current] at here; cases Option.some.inj here; exact aligned,
        fun aligned => aligned row current⟩

theorem history_timeline_sample :
    ∀ done, done <+: [sampleEvaluation "printer" 1 1, sampleEvaluation "camera" 5 5] →
      Recorded done ∧ (reconcileAll done).Timeline :=
  (history_timeline_iff [sampleEvaluation "printer" 1 1, sampleEvaluation "camera" 5 5]).mpr (by decide +kernel)

/-- A run that is evaluated before another one has written ends the other's row before it begins. -/
theorem late_write_reverses :
    ¬ ∀ calls : List Reconciliation, (∀ call ∈ calls, call.result.evaluatedAt ≤ call.clock) →
      ∀ row ∈ (reconcileAll calls).history, row.validFrom ≤ row.supersededAt := by
  intro forward
  have interval := forward [sampleEvaluation "printer" 1 10, sampleEvaluation "camera" 5 11] (by decide +kernel)
  revert interval
  decide +kernel

end Sample

end OpenAssetWatch.Classification
