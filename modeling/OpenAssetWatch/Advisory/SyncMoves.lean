import OpenAssetWatch.Advisory.Sync

namespace OpenAssetWatch.Advisory

open Library Text

section Rows

variable {store : SyncStore} {runId : String}

theorem withFeed_feed (store : SyncStore) : store.withFeed store.feed = store := by
  have runs (rows : List SyncRun) :
      List.zipWith (fun row columns => { row with toFeedRun := columns }) rows (rows.map (·.toFeedRun)) = rows := by
    induction rows with
    | nil => rfl
    | cons row rows ih => rw [List.map_cons, List.zipWith_cons_cons, ih]
  have catalogs (rows : List SyncCatalog) :
      List.zipWith (fun row columns => { row with toFeedCatalog := columns }) rows (rows.map (·.toFeedCatalog)) = rows := by
    induction rows with
    | nil => rfl
    | cons row rows ih => rw [List.map_cons, List.zipWith_cons_cons, ih]
  simp only [SyncStore.withFeed, SyncStore.feed, runs, catalogs]

theorem zipWith_runs (change : FeedRun → FeedRun) (rows : List SyncRun) :
    List.zipWith (fun row columns => { row with toFeedRun := columns }) rows ((rows.map (·.toFeedRun)).map change) =
      rows.map fun row => { row with toFeedRun := change row.toFeedRun } := by
  induction rows with
  | nil => rfl
  | cons row rows ih => rw [List.map_cons, List.map_cons, List.zipWith_cons_cons, ih, List.map_cons]

theorem zipWith_catalogs (change : FeedCatalog → FeedCatalog) (rows : List SyncCatalog) :
    List.zipWith (fun row columns => { row with toFeedCatalog := columns }) rows ((rows.map (·.toFeedCatalog)).map change) =
      rows.map fun row => { row with toFeedCatalog := change row.toFeedCatalog } := by
  induction rows with
  | nil => rfl
  | cons row rows ih => rw [List.map_cons, List.map_cons, List.zipWith_cons_cons, ih, List.map_cons]

theorem withFeed_runs (store : SyncStore) (feed : FeedStore) (change : FeedRun → FeedRun)
    (runs : feed.runs = store.feed.runs.map change) :
    store.withFeed feed = { store.withFeed { feed with runs := store.feed.runs } with
      runs := store.runs.map fun row => { row with toFeedRun := change row.toFeedRun } } := by
  simp only [SyncStore.withFeed, runs, SyncStore.feed, zipWith_runs]

theorem withFeed_switch (recordChecksum : AdvisoryRecord → String) (lower : String → String)
    (store : SyncStore) (control : ControlCall) (operator : String) (action : ControlAction) (target : SyncCatalog) :
    store.withFeed (switchCatalog recordChecksum lower store.feed control operator action target.toFeedCatalog
      (store.activeCatalog target.sourceId)) =
    store.switch (importCatalog recordChecksum lower store.tables control.catalog control.catalogChecksum control.importId
      control.now true).1 control operator action target := by
  have runs : (store.withFeed store.feed).runs = store.runs := by rw [withFeed_feed]
  have rows : (fun row : SyncCatalog => { row with toFeedCatalog :=
      if row.toFeedCatalog.catalogId = target.toFeedCatalog.catalogId then
        { row.toFeedCatalog with
          active := true
          activationCount := row.toFeedCatalog.activationCount + 1
          firstActivatedAt := if action = .activate then row.toFeedCatalog.firstActivatedAt.or (some control.now)
            else row.toFeedCatalog.firstActivatedAt
          lastActivatedAt := some control.now }
      else if row.toFeedCatalog.sourceId = target.toFeedCatalog.sourceId && row.toFeedCatalog.active then
        { row.toFeedCatalog with active := false }
      else row.toFeedCatalog }) = switchRow target action control.now := by
    funext row
    unfold switchRow
    split
    · rfl
    · split <;> rfl
  simp only [SyncStore.withFeed, SyncStore.switch, switchCatalog, SyncStore.feed, zipWith_catalogs, rows] at runs ⊢
  rw [runs]

end Rows

section Moves

variable {store : SyncStore}

theorem updateRun_progress {runId : String} {expected : RunState → Bool} {change : SyncRun → SyncRun}
    (unlocked : store.locked runId = false) (rows : ∀ row, expected row.state = true → Progress row (change row)) :
    Move store (store.updateRun runId expected change) := by
  apply Move.progress
  · intro row _
    unfold updateRow
    split
    case isTrue both =>
      rw [Bool.and_eq_true] at both
      exact rows row both.2
    case isFalse => exact .same
  · intro row _ locked
    unfold updateRow
    rw [if_neg]
    intro both
    rw [Bool.and_eq_true, decide_eq_true_iff] at both
    rw [both.1, unlocked] at locked
    cases locked

theorem Move.refl : Move store store := by
  have same : Move store { store with runs := store.runs.map id } := .progress id (fun _ _ => .same) fun _ _ _ => rfl
  rwa [List.map_id] at same

theorem changeRun_move {runId : String} {expected : RunState → Bool} {change : SyncRun → SyncRun} {error : SyncStoreError}
    (unlocked : store.locked runId = false) (rows : ∀ row, expected row.state = true → Progress row (change row)) :
    Move store (store.changeRun runId expected change error).1 := by
  unfold SyncStore.changeRun
  split
  · exact updateRun_progress unlocked rows
  · exact .refl

theorem createRun_move (call : CreateCall) : Move store (createRun store call).1 := by
  unfold createRun
  split
  case h_1 => exact .refl
  case h_2 actor named =>
    split
    case isTrue => exact .refl
    case isFalse free =>
      split
      case isTrue => exact .refl
      case isFalse =>
        split
        case isTrue => exact .refl
        case isFalse fresh =>
          rw [Bool.not_eq_true, List.any_eq_false] at free fresh
          apply Move.create _ rfl
          · exact fun row member same => fresh row member (decide_eq_true same)
          · intro row member same
            have := free row member
            rw [decide_eq_true same, Bool.true_and] at this
            exact Bool.eq_false_iff.mpr this

theorem approve_move {runId actor : String} {now : Time} (unlocked : store.locked runId = false) :
    Move store (approve store runId actor now).1 := by
  unfold approve
  split
  case h_1 => exact .refl
  case h_2 operator named => exact changeRun_move unlocked fun row before => .approve operator now (of_decide_eq_true before)

theorem reject_move {runId actor reason : String} {now : Time} (unlocked : store.locked runId = false) :
    Move store (reject store runId actor reason now).1 := by
  unfold reject
  split
  case h_1 => exact .refl
  case h_2 operator named =>
    dsimp only
    split
    case isTrue => exact .refl
    case isFalse => exact changeRun_move unlocked fun row before => .reject operator now _ (of_decide_eq_true before)

theorem mem_activeRunStates {state : RunState} : state ∈ activeRunStates ↔ state.active = true := by
  cases state <;> decide

theorem transition_move {runId : String} {expected : List RunState} {state : RunState} (unlocked : store.locked runId = false)
    (rows : ∀ row : SyncRun, row.state ∈ expected → Progress row { row with state }) :
    Move store (transition store runId expected state).1 := by
  unfold transition
  split
  case isTrue => exact .refl
  case isFalse => exact changeRun_move unlocked fun row before => rows row (List.contains_iff_mem.mp before)

theorem saveRead_move {call : SaveCall} (free : store.locked call.runId = false) : Move store (saveRead store call).1 := by
  unfold saveRead
  split
  case h_1 => exact .refl
  case h_2 activeBefore checked => exact .read ⟨call, activeBefore⟩ checked free

theorem saveWrite_move {save : Saving} (pending : save ∈ store.saving) : Move store (saveWrite store save).1 := by
  unfold saveWrite
  dsimp only
  split
  case isTrue admitted => exact .retain save pending admitted
  case isFalse => exact .release _

variable (sha256 : String → String) (recordChecksum : AdvisoryRecord → String) (lower : String → String)

theorem activate_move {runId : String} {control : ControlCall} (keyed : (store.runs.map (·.runId)).Nodup)
    (unlocked : store.locked runId = false) :
    Move store (store.withFeed (activateRun sha256 recordChecksum lower store.feed runId control).1) := by
  have same : Move store (store.withFeed store.feed) := by
    rw [withFeed_feed]
    exact .refl
  unfold activateRun
  split
  case h_1 => exact same
  case h_2 operator named =>
    split
    case h_2 => exact same
    case h_1 run columns foundRun foundCatalog =>
      obtain ⟨run, known, rfl⟩ := List.mem_map.mp (List.mem_of_find?_eq_some foundRun)
      obtain ⟨target, kept, rfl⟩ := List.mem_map.mp (List.mem_of_find?_eq_some foundCatalog)
      have ownRun : run.runId = runId := by simpa using List.find?_some foundRun
      have ownCatalog : target.runId = runId := by simpa using List.find?_some foundCatalog
      split
      case isTrue => exact same
      case isFalse approved =>
        rw [ne_eq, not_not] at approved
        split
        case isTrue =>
          have expired := withFeed_runs store { store.feed with
            runs := store.feed.runs.map fun row => if row.runId = runId then { row with state := .expired } else row } _ rfl
          rw [withFeed_feed] at expired
          rw [expired]
          apply Move.progress
          · intro row member
            split
            case isTrue own =>
              cases List.inj_on_of_nodup_map keyed member known (own.trans ownRun.symm)
              exact .expire approved
            case isFalse => exact .same
          · intro row _ locked
            rw [if_neg]
            intro own
            rw [own, unlocked] at locked
            cases locked
        case isFalse unexpired =>
          split
          case isTrue => exact same
          case isFalse =>
            dsimp only
            split
            case isTrue => exact same
            case isFalse baseline =>
              rw [ne_eq, not_not] at baseline
              have switched := withFeed_runs store { switchCatalog recordChecksum lower store.feed control operator .activate
                  target.toFeedCatalog (activeCatalog store.feed target.sourceId) with
                runs := store.feed.runs.map fun row => if row.runId = runId then
                  { row with state := .activated, activatedCatalogAfter := some target.catalogId } else row } _ rfl
              have catalogs := withFeed_switch recordChecksum lower store control operator .activate target
              have rows : (fun row : SyncRun => { row with toFeedRun := if row.runId = runId then
                  { row.toFeedRun with state := .activated, activatedCatalogAfter := some target.catalogId } else row.toFeedRun }) =
                  activateRow run.runId target.catalogId := by
                funext row
                rw [activateRow, ownRun]
                split <;> rfl
              have moved := Move.activate (importCatalog recordChecksum lower store.tables control.catalog control.catalogChecksum
                control.importId control.now true).1 control operator run target known kept
                  (ownRun.trans ownCatalog.symm) approved
                (not_le.mp unexpired) baseline
              rw [← catalogs, ← rows] at moved
              exact switched ▸ moved

theorem rollback_move {catalogId : String} {cooldown : Nat} {control : ControlCall} :
    Move store (store.withFeed (rollbackCatalog sha256 recordChecksum lower store.feed catalogId cooldown control).1) := by
  have same : Move store (store.withFeed store.feed) := by
    rw [withFeed_feed]
    exact .refl
  unfold rollbackCatalog
  split
  case h_1 => exact same
  case h_2 operator named =>
    split
    case h_1 => exact same
    case h_2 columns found =>
      obtain ⟨target, kept, rfl⟩ := List.mem_map.mp (List.mem_of_find?_eq_some found)
      have holds := List.find?_some found
      rw [Bool.and_eq_true, decide_eq_true_iff, decide_eq_true_iff] at holds
      split
      case isTrue => exact same
      case isFalse idle =>
        split
        case isTrue => exact same
        case isFalse =>
          split
          case isTrue => exact same
          case isFalse =>
            have catalogs := withFeed_switch recordChecksum lower store control operator .rollback target
            have moved := Move.rollback (importCatalog recordChecksum lower store.tables control.catalog control.catalogChecksum
              control.importId control.now true).1 control operator target kept holds.2 (Bool.eq_false_iff.mpr idle)
            rw [← catalogs] at moved
            exact moved

/-- The runs of activated catalogs have ended with their activation. -/
def SyncStore.Ended (store : SyncStore) : Prop :=
  ∀ activation ∈ store.activations, activation.action = .activate → ∀ catalog ∈ store.catalogs,
    catalog.catalogId = activation.catalogId → ∀ run ∈ store.runs, run.runId = catalog.runId →
      run.state = .activated ∨ run.state = .activatedDegraded

theorem markReevaluation_move {activationId : String} {status : ReevaluationStatus} (ended : store.Ended)
    (pending : ∀ run ∈ store.runs, store.locked run.runId = true → run.state = .verifying) :
    Move store (markReevaluation store activationId status).1 := by
  unfold markReevaluation
  split
  case h_1 => exact .refl
  case h_2 activation found =>
    split
    case isFalse => exact .refl
    case isTrue activates =>
      have before (row : SyncRun) (member : row ∈ store.runs)
          (own : (store.catalogs.any fun catalog => catalog.runId = row.runId && catalog.catalogId = activation.catalogId) = true) :
          row.state = .activated ∨ row.state = .activatedDegraded := by
        obtain ⟨catalog, retained, holds⟩ := List.any_eq_true.mp own
        rw [Bool.and_eq_true, decide_eq_true_iff, decide_eq_true_iff] at holds
        exact ended activation (List.mem_of_find?_eq_some found) activates catalog retained holds.2 row member holds.1.symm
      apply Move.progress
      · intro row member
        split
        case isTrue own =>
          cases status with
          | running => exact .same
          | completed => exact .mark .activated (before row member own) (Or.inl rfl)
          | failed => exact .mark .activatedDegraded (before row member own) (Or.inr rfl)
        case isFalse => exact .same
      · intro row member locked
        rw [if_neg]
        intro own
        have verifying := pending row member locked
        rcases before row member own with state | state <;> rw [state] at verifying <;> cases verifying

theorem syncStep_move (keyed : (store.runs.map (·.runId)).Nodup) (ended : store.Ended)
    (pending : ∀ run ∈ store.runs, store.locked run.runId = true → run.state = .verifying) (event : SyncEvent) :
    Move store (syncStep sha256 recordChecksum lower store event) := by
  have waits {runId : String} {next : SyncStore} (moves : store.locked runId = false → Move store next) :
      Move store (if store.locked runId then store else next) := by
    cases locked : store.locked runId with
    | true => exact .refl
    | false => exact moves locked
  cases event with
  | create call => exact createRun_move call
  | advance runId stage =>
    apply waits
    intro unlocked
    apply transition_move unlocked
    intro row before
    exact .stage stage (List.mem_singleton.mp before)
  | fail runId =>
    apply waits
    intro unlocked
    apply transition_move unlocked
    intro row before
    exact .fail (mem_activeRunStates.mp before)
  | saveRead call =>
    dsimp only [syncStep]
    split
    case isTrue => exact .refl
    case isFalse free =>
      rw [Bool.not_eq_true, Bool.or_eq_false_iff] at free
      exact saveRead_move free.1
  | saveWrite runId =>
    dsimp only [syncStep]
    split
    case h_1 save found => exact saveWrite_move (List.mem_of_find?_eq_some found)
    case h_2 => exact .refl
  | saveAbort runId => exact .release _
  | approve runId actor now => exact waits approve_move
  | reject runId actor reason now => exact waits reject_move
  | activate runId control => exact waits (activate_move sha256 recordChecksum lower keyed)
  | rollback catalogId cooldown control => exact rollback_move sha256 recordChecksum lower
  | reevaluate activationId status => exact markReevaluation_move ended pending

end Moves

end OpenAssetWatch.Advisory
