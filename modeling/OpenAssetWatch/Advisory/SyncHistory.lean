import OpenAssetWatch.Advisory.SyncLaw

namespace OpenAssetWatch.Advisory

namespace SyncStore

variable {store : SyncStore}

theorem Ahead.move (ahead : store.Ahead) (keyed : store.Keyed) {next : SyncStore} (moved : Move store next) : next.Ahead := by
  cases moved with
  | create run created fresh free =>
    apply ahead.runs
    intro row member waits
    rcases List.mem_append.mp member with known | last
    · exact ⟨row, known, rfl, waits⟩
    · rw [List.mem_singleton.mp last, created] at waits
      cases waits
  | progress change rows unlocked =>
    apply ahead.runs
    intro row' member waits
    obtain ⟨row, known, rfl⟩ := List.mem_map.mp member
    obtain ⟨onward, waited⟩ := (rows row known).onward
    exact ⟨row, known, onward.runId.symm, waited waits⟩
  | read save checked free => exact ahead.read checked
  | release kept => exact ahead.release kept
  | retain save pending admitted => exact ahead.retain keyed pending admitted
  | activate tables control operator run target known retained owner approved unexpired baseline =>
    have onward : Ahead { store with runs := store.runs.map (activateRow run.runId target.catalogId) } := by
      apply ahead.runs
      intro row' member waits
      obtain ⟨row, held, rfl⟩ := List.mem_map.mp member
      refine ⟨row, held, (keyed.activated_row known approved target.catalogId held).runId.symm, ?_⟩
      unfold activateRow at waits
      split at waits
      · cases waits
      · exact waits
    apply onward.switch (keyed.activate known approved target.catalogId) tables control operator retained
    obtain ⟨row, held, own, source, -⟩ := keyed.owned target retained
    cases keyed.run_eq known held (owner.trans own.symm)
    refine Or.inr ⟨rfl, ?_, (ahead.waiting target retained run known owner (by rw [approved]; rfl)).2⟩
    intro row' member from'
    obtain ⟨row, held, rfl⟩ := List.mem_map.mp member
    unfold activateRow at from' ⊢
    split at from' <;> rename_i same
    · rw [if_pos same]
      rfl
    · rw [if_neg same]
      apply Bool.eq_false_iff.mpr
      intro active
      exact same (keyed.flight row held run known active (by rw [approved]; rfl) (from'.trans source.symm))
  | rollback tables control operator target retained activated idle =>
    exact ahead.switch keyed tables control operator retained (Or.inl ⟨rfl, ahead.counted target retained activated⟩)

/-- The control actions on the catalogs of a source. -/
def log (store : SyncStore) (sourceId : String) : List CatalogActivation := store.activations.filter (·.sourceId = sourceId)

/-- What an activation was preceded by. -/
structure Completed (store : SyncStore) (entry : CatalogActivation) (catalog : SyncCatalog) (run : SyncRun) : Prop where
  retained : catalog ∈ store.catalogs
  known : run ∈ store.runs
  names : catalog.catalogId = entry.catalogId
  source : catalog.sourceId = entry.sourceId
  owner : run.runId = catalog.runId
  done : run.state.done = true
  approved : run.approvedBy.isSome = true
  activated : run.activatedCatalogAfter = some entry.catalogId
  baseline : run.activeCatalogBefore = entry.previousCatalogId
  unexpired : entry.createdAt < catalog.manifestExpiresAt

/-- The control actions are a history: each replaces what the one before it made active, and what the last one made active is
active. -/
structure Logged (store : SyncStore) : Prop where
  approvals : ∀ run ∈ store.runs, run.state = .approved → run.approvedBy.isSome = true
  completed : ∀ entry ∈ store.activations, entry.action = .activate → ∃ catalog run, Completed store entry catalog run
  linked : ∀ sourceId done entry rest, store.log sourceId = done ++ entry :: rest →
    entry.previousCatalogId = done.getLast?.map (·.catalogId)
  current : ∀ sourceId, (store.catalogs.filter fun row => row.sourceId = sourceId && row.active).map (·.catalogId) =
    ((store.log sourceId).getLast?.map (·.catalogId)).toList

theorem Logged.activeCatalog (logged : store.Logged) (sourceId : String) :
    store.activeCatalog sourceId = (store.log sourceId).getLast?.map (·.catalogId) := by
  have current := congrArg List.head? (logged.current sourceId)
  rw [List.head?_map, List.head?_filter] at current
  rw [SyncStore.activeCatalog, Advisory.activeCatalog, feed, List.find?_map, Option.map_map]
  refine Eq.trans current ?_
  cases (store.log sourceId).getLast? <;> rfl

theorem Logged.ended (logged : store.Logged) (keyed : store.Keyed) : store.Ended := by
  intro activation member activates catalog retained own run known owner
  obtain ⟨catalog', run', completed⟩ := logged.completed activation member activates
  have same := keyed.catalog_eq retained completed.retained (own.trans completed.names.symm)
  have same' := keyed.run_eq known completed.known (owner.trans (same ▸ completed.owner.symm))
  have done := completed.done
  rw [← same'] at done
  cases state : run.state <;> rw [state] at done <;> first | exact Or.inl rfl | exact Or.inr rfl | cases done

theorem Logged.runs (logged : store.Logged) {change : SyncRun → SyncRun} (rows : ∀ row ∈ store.runs, Onward row (change row))
    (approvals : ∀ row ∈ store.runs, (change row).state = .approved → (change row).approvedBy.isSome = true) :
    Logged { store with runs := store.runs.map change } where
  approvals run member approved := by
    obtain ⟨row, known, rfl⟩ := List.mem_map.mp member
    exact approvals row known approved
  completed entry member activates := by
    obtain ⟨catalog, run, completed⟩ := logged.completed entry member activates
    have onward := rows run completed.known
    obtain ⟨done, approvedBy, before, after⟩ := onward.done completed.done
    exact ⟨catalog, change run, completed.retained, List.mem_map_of_mem completed.known, completed.names, completed.source,
      onward.runId.trans completed.owner, done, approvedBy ▸ completed.approved, after.trans completed.activated,
      before.trans completed.baseline, completed.unexpired⟩
  linked := logged.linked
  current := logged.current

end SyncStore

namespace SyncStore

variable {store : SyncStore}

theorem Keyed.filter_own (keyed : store.Keyed) {target : SyncCatalog} (retained : target ∈ store.catalogs) :
    store.catalogs.filter (·.catalogId = target.catalogId) = [target] := by
  apply List.perm_singleton.mp
  apply (List.perm_ext_iff_of_nodup (keyed.catalogIds.of_map.filter _) (List.nodup_singleton _)).mpr
  intro row
  rw [List.mem_filter, decide_eq_true_iff, List.mem_singleton]
  constructor
  · exact fun own => keyed.catalog_eq own.1 retained own.2
  · rintro rfl
    exact ⟨retained, rfl⟩

theorem Keyed.switch_active (keyed : store.Keyed) {action : ControlAction} {target : SyncCatalog} {now : Time}
    (retained : target ∈ store.catalogs) (sourceId : String) :
    ((store.catalogs.map (switchRow target action now)).filter fun row => row.sourceId = sourceId && row.active).map
      (·.catalogId) =
      if sourceId = target.sourceId then [target.catalogId]
      else (store.catalogs.filter fun row => row.sourceId = sourceId && row.active).map (·.catalogId) := by
  rw [List.filter_map, List.map_map]
  have ids : ((·.catalogId) ∘ switchRow target action now : SyncCatalog → String) = (·.catalogId) :=
    funext fun row => (switchRow_kept target action now row).1
  rw [ids]
  split
  case isTrue own =>
    subst own
    have only : store.catalogs.filter ((fun row => row.sourceId = target.sourceId && row.active) ∘ switchRow target action now) =
        store.catalogs.filter (·.catalogId = target.catalogId) := by
      apply List.filter_congr
      intro row member
      rw [Function.comp_apply, (switchRow_kept target action now row).2.2.1]
      by_cases same : row.catalogId = target.catalogId
      · rw [keyed.catalog_eq member retained same, switchRow, if_pos rfl, decide_eq_true rfl, decide_eq_true rfl]
        rfl
      · rw [switchRow, if_neg same, decide_eq_false same]
        split
        case isTrue => exact Bool.and_false _
        case isFalse idle => exact Bool.eq_false_iff.mpr idle
    rw [only, keyed.filter_own retained]
    rfl
  case isFalse other =>
    congr 1
    apply List.filter_congr
    intro row member
    rw [Function.comp_apply, (switchRow_kept target action now row).2.2.1]
    by_cases own : row.sourceId = sourceId
    · have apart : row.catalogId ≠ target.catalogId := by
        intro same
        rw [keyed.catalog_eq member retained same] at own
        exact other own.symm
      rw [switchRow, if_neg apart, if_neg]
      intro both
      rw [Bool.and_eq_true, decide_eq_true_iff, own] at both
      exact other both.1
    · rw [decide_eq_false own, Bool.false_and, Bool.false_and]

theorem Logged.switch (logged : store.Logged) (keyed : store.Keyed) (tables : AdvisoryTables) (control : ControlCall)
    (operator : String) {action : ControlAction} {target : SyncCatalog} (retained : target ∈ store.catalogs)
    (completes : action = .activate → ∃ run ∈ store.runs, run.runId = target.runId ∧ run.state.done = true ∧
      run.approvedBy.isSome = true ∧ run.activatedCatalogAfter = some target.catalogId ∧
      run.activeCatalogBefore = store.activeCatalog target.sourceId ∧ control.now < target.manifestExpiresAt) :
    Logged (store.switch tables control operator action target) := by
  have kept (row : SyncCatalog) := switchRow_kept target action control.now row
  have logs (sourceId : String) : (store.switch tables control operator action target).log sourceId = store.log sourceId ++
      if sourceId = target.sourceId then [⟨control.activationId, action, target.sourceId, target.catalogId,
        store.activeCatalog target.sourceId, operator, control.now⟩] else [] := by
    show (store.activations ++ [_]).filter _ = _
    rw [List.filter_append, List.filter_cons, List.filter_nil]
    by_cases same : sourceId = target.sourceId
    · rw [if_pos same, if_pos (decide_eq_true same.symm)]
      rfl
    · rw [if_neg same, if_neg fun own => same (of_decide_eq_true own).symm]
      rfl
  refine ⟨logged.approvals, ?_, ?_, ?_⟩
  · intro entry member activates
    rcases List.mem_append.mp member with old | last
    · obtain ⟨catalog, run, completed⟩ := logged.completed entry old activates
      refine ⟨switchRow target action control.now catalog, run, List.mem_map_of_mem completed.retained, completed.known,
        (kept catalog).1.trans completed.names, (kept catalog).2.2.1.trans completed.source,
        completed.owner.trans (kept catalog).2.1.symm, completed.done, completed.approved, completed.activated,
          completed.baseline, ?_⟩
      rw [(kept catalog).2.2.2.2]
      exact completed.unexpired
    · rw [List.mem_singleton.mp last] at activates ⊢
      obtain ⟨run, known, owner, done, approved, activated, baseline, unexpired⟩ := completes activates
      refine ⟨switchRow target action control.now target, run, List.mem_map_of_mem retained, known, (kept target).1,
        (kept target).2.2.1, owner.trans (kept target).2.1.symm, done, approved, activated, baseline, ?_⟩
      rw [(kept target).2.2.2.2]
      exact unexpired
  · intro sourceId done entry rest split
    rw [logs] at split
    by_cases own : sourceId = target.sourceId
    · rw [if_pos own] at split
      rcases List.eq_nil_or_concat rest with rfl | ⟨before, last, rfl⟩
      · obtain ⟨same, here⟩ := List.append_inj' split rfl
        cases here
        rw [← same, ← own]
        exact logged.activeCatalog sourceId
      · rw [List.concat_eq_append, ← List.cons_append, ← List.append_assoc] at split
        exact logged.linked sourceId done entry before (List.append_inj_left' split rfl)
    · rw [if_neg own, List.append_nil] at split
      exact logged.linked sourceId done entry rest split
  · intro sourceId
    rw [logs]
    refine (keyed.switch_active retained sourceId).trans ?_
    by_cases own : sourceId = target.sourceId
    · rw [if_pos own, if_pos own, List.getLast?_append]
      rfl
    · rw [if_neg own, if_neg own, List.append_nil]
      exact logged.current sourceId

theorem Progress.approval {row row' : SyncRun} (progress : Progress row row')
    (before : row.state = .approved → row.approvedBy.isSome = true)
    (approved : row'.state = .approved) : row'.approvedBy.isSome = true := by
  cases progress with
  | same => exact before approved
  | stage stage _ => cases stage <;> cases approved
  | fail => cases approved
  | approve => rfl
  | reject => cases approved
  | expire => cases approved
  | mark state _ after => rcases after with rfl | rfl <;> cases approved

theorem Logged.move (logged : store.Logged) (keyed : store.Keyed) {next : SyncStore} (moved : Move store next) :
    next.Logged := by
  cases moved with
  | create run created fresh free =>
    refine ⟨?_, ?_, logged.linked, logged.current⟩
    · intro row member approved
      rcases List.mem_append.mp member with known | last
      · exact logged.approvals row known approved
      · rw [List.mem_singleton.mp last, created] at approved
        cases approved
    · intro entry member activates
      obtain ⟨catalog, row, completed⟩ := logged.completed entry member activates
      exact ⟨catalog, row, { completed with known := List.mem_append_left _ completed.known }⟩
  | progress change rows unlocked =>
    exact logged.runs (fun row member => (rows row member).onward.1) fun row member =>
      Progress.approval (rows row member) (logged.approvals row member)
  | read save checked free => exact ⟨logged.approvals, fun entry member activates => by
      obtain ⟨catalog, run, completed⟩ := logged.completed entry member activates
      exact ⟨catalog, run, { completed with }⟩, logged.linked, logged.current⟩
  | release kept => exact ⟨logged.approvals, fun entry member activates => by
      obtain ⟨catalog, run, completed⟩ := logged.completed entry member activates
      exact ⟨catalog, run, { completed with }⟩, logged.linked, logged.current⟩
  | retain save pending admitted =>
    refine ⟨?_, ?_, logged.linked, ?_⟩
    · intro row member approved
      obtain ⟨before, known, rfl⟩ := List.mem_map.mp member
      rcases keyed.retained_row pending known with ⟨-, -, -, same⟩ | ⟨-, same⟩
      · rw [same] at approved
        cases approved
      · rw [same] at approved ⊢
        exact logged.approvals before known approved
    · intro entry member activates
      obtain ⟨catalog, run, completed⟩ := logged.completed entry member activates
      refine ⟨catalog, run, { completed with
        retained := List.mem_append_left _ completed.retained
        known := List.mem_map.mpr ⟨run, completed.known, ?_⟩ }⟩
      rcases keyed.retained_row pending completed.known with ⟨-, -, verifying, -⟩ | ⟨-, same⟩
      · have done := completed.done
        rw [verifying] at done
        cases done
      · exact same
    · intro sourceId
      show ((store.catalogs ++ [save.call.catalog]).filter _).map _ = _
      rw [List.filter_append, List.filter_cons_of_neg, List.filter_nil, List.append_nil]
      · exact logged.current sourceId
      · intro active
        rw [Bool.and_eq_true] at active
        cases active.2
  | activate tables control operator run target known retained owner approved unexpired baseline =>
    have onward : Logged { store with runs := store.runs.map (activateRow run.runId target.catalogId) } := by
      apply logged.runs fun row member => keyed.activated_row known approved target.catalogId member
      intro row member now
      unfold activateRow at now ⊢
      split at now <;> rename_i same
      · cases now
      · rw [if_neg same]
        exact logged.approvals row member now
    apply onward.switch (keyed.activate known approved target.catalogId) tables control operator retained
    intro _
    have here : activateRow run.runId target.catalogId run =
        { run with state := .activated, activatedCatalogAfter := some target.catalogId } := if_pos rfl
    refine ⟨_, List.mem_map_of_mem known, ?_⟩
    rw [here]
    exact ⟨owner, rfl, logged.approvals run known approved, rfl, baseline, unexpired⟩
  | rollback tables control operator target retained activated idle =>
    exact logged.switch keyed tables control operator retained fun impossible => by cases impossible

end SyncStore

/-- What holds of the tables after every call. -/
structure SyncStore.Sound (store : SyncStore) : Prop where
  keyed : store.Keyed
  ahead : store.Ahead
  logged : store.Logged

theorem empty_sound : ({} : SyncStore).Sound where
  keyed := ⟨List.nodup_nil, List.nodup_nil, List.nodup_nil, by simp, List.nodup_nil, by simp, by simp⟩
  ahead := ⟨by simp, by simp, by simp, by simp, List.Pairwise.nil⟩
  logged := ⟨by simp, by simp, fun _ _ _ _ split => by simp [SyncStore.log] at split, fun _ => rfl⟩

section Runs

variable (sha256 : String → String) (recordChecksum : AdvisoryRecord → String) (lower : String → String)

theorem SyncStore.Sound.move {store : SyncStore} (sound : store.Sound) (event : SyncEvent) :
    Move store (syncStep sha256 recordChecksum lower store event) :=
  syncStep_move sha256 recordChecksum lower sound.keyed.runIds (sound.logged.ended sound.keyed) sound.keyed.locked event

theorem SyncStore.Sound.step {store : SyncStore} (sound : store.Sound) (event : SyncEvent) :
    (syncStep sha256 recordChecksum lower store event).Sound := by
  have moved := sound.move sha256 recordChecksum lower event
  exact ⟨sound.keyed.move moved, sound.ahead.move sound.keyed moved, sound.logged.move sound.keyed moved⟩

theorem SyncStore.Sound.run {store : SyncStore} (sound : store.Sound) (events : List SyncEvent) :
    (events.foldl (syncStep sha256 recordChecksum lower) store).Sound := by
  induction events generalizing store with
  | nil => exact sound
  | cons event rest ih => exact ih (sound.step sha256 recordChecksum lower event)

theorem reachable_sound (events : List SyncEvent) : (events.foldl (syncStep sha256 recordChecksum lower) {}).Sound :=
  empty_sound.run sha256 recordChecksum lower events

/-- A source has at most one run that has not ended, and at most one active catalog. -/
theorem single_flight (events : List SyncEvent) (sourceId : String) :
    ((events.foldl (syncStep sha256 recordChecksum lower) {}).runs.filter
      fun row => row.sourceId = sourceId && row.state.active).length ≤ 1 ∧
    ((events.foldl (syncStep sha256 recordChecksum lower) {}).catalogs.filter
      fun row => row.sourceId = sourceId && row.active).length ≤ 1 := by
  have sound := reachable_sound sha256 recordChecksum lower events
  generalize events.foldl (syncStep sha256 recordChecksum lower) {} = store at sound
  constructor
  · have nodup : (store.runs.filter fun row => row.sourceId = sourceId && row.state.active).Nodup :=
    sound.keyed.runIds.of_map.filter _
    have facts {row : SyncRun} (member : row ∈ store.runs.filter fun row => row.sourceId = sourceId && row.state.active) :
        row ∈ store.runs ∧ row.sourceId = sourceId ∧ row.state.active = true := by
      obtain ⟨known, both⟩ := List.mem_filter.mp member
      rw [Bool.and_eq_true, decide_eq_true_iff] at both
      exact ⟨known, both⟩
    rcases found : store.runs.filter fun row => row.sourceId = sourceId && row.state.active with _ | ⟨first, _ | ⟨second, rest⟩⟩
    · rw [found]
      exact Nat.zero_le 1
    · rw [found]
      exact le_rfl
    · rw [found] at nodup facts
      obtain ⟨known, source, active⟩ := facts List.mem_cons_self
      obtain ⟨known', source', active'⟩ := facts (List.mem_cons_of_mem _ List.mem_cons_self)
      have same := sound.keyed.run_eq known known'
        (sound.keyed.flight first known second known' active active' (source.trans source'.symm))
      exact absurd (same ▸ List.mem_cons_self) (List.nodup_cons.mp nodup).1
  · have current := congrArg List.length (sound.logged.current sourceId)
    rw [List.length_map] at current
    rw [current]
    cases (store.log sourceId).getLast? with
    | none => exact Nat.zero_le 1
    | some entry => exact le_rfl

/-- Whatever the order of the calls, an activation brings a catalog that is newer than all that were ever active on its source. -/
theorem activations_advance (events : List SyncEvent) :
    (∀ entry ∈ (events.foldl (syncStep sha256 recordChecksum lower) {}).activations,
      ∃ catalog ∈ (events.foldl (syncStep sha256 recordChecksum lower) {}).catalogs,
        catalog.catalogId = entry.catalogId ∧ catalog.sourceId = entry.sourceId) ∧
    (events.foldl (syncStep sha256 recordChecksum lower) {}).activations.Pairwise
      (Newer (events.foldl (syncStep sha256 recordChecksum lower) {}).catalogs) :=
  have sound := reachable_sound sha256 recordChecksum lower events
  ⟨sound.ahead.listed, sound.ahead.ordered⟩

/-- The control actions of a source are a chain that ends at its active catalog, and what was activated was approved before,
against the catalog that it replaced, and had not expired. -/
theorem control_history (events : List SyncEvent) :
    (∀ sourceId, (events.foldl (syncStep sha256 recordChecksum lower) {}).activeCatalog sourceId =
      ((events.foldl (syncStep sha256 recordChecksum lower) {}).log sourceId).getLast?.map (·.catalogId)) ∧
    (∀ sourceId done entry rest, (events.foldl (syncStep sha256 recordChecksum lower) {}).log sourceId = done ++ entry :: rest →
      entry.previousCatalogId = done.getLast?.map (·.catalogId)) ∧
    ∀ entry ∈ (events.foldl (syncStep sha256 recordChecksum lower) {}).activations, entry.action = .activate →
      ∃ catalog run, SyncStore.Completed (events.foldl (syncStep sha256 recordChecksum lower) {}) entry catalog run :=
  have sound := reachable_sound sha256 recordChecksum lower events
  ⟨sound.logged.activeCatalog, sound.logged.linked, sound.logged.completed⟩

/-- What a run that has ended is afterwards: the same, or degraded or restored by a reevaluation. -/
def Settled (before after : RunState) : Prop := after = before ∨ before.done = true ∧ after.done = true

theorem Progress.settled {row row' : SyncRun} (progress : Progress row row') (ended : row.state.active = false) :
    Settled row.state row'.state := by
  cases progress with
  | same => exact Or.inl rfl
  | stage stage before =>
    rw [before] at ended
    cases stage <;> cases ended
  | fail before =>
    rw [before] at ended
    cases ended
  | approve operator now before =>
    rw [before] at ended
    cases ended
  | reject operator now reason before =>
    rw [before] at ended
    cases ended
  | expire before =>
    rw [before] at ended
    cases ended
  | mark state before after =>
    refine Or.inr ⟨?_, ?_⟩
    · rcases before with before | before <;> rw [before] <;> rfl
    · rcases after with rfl | rfl <;> rfl

theorem Move.settled {store next : SyncStore} (moved : Move store next) (keyed : store.Keyed) {run : SyncRun}
    (known : run ∈ store.runs)
    (ended : run.state.active = false) : ∃ run' ∈ next.runs, run'.runId = run.runId ∧ Settled run.state run'.state := by
  cases moved with
  | create => exact ⟨run, List.mem_append_left _ known, rfl, Or.inl rfl⟩
  | progress change rows _ =>
    exact ⟨change run, List.mem_map_of_mem known, (rows run known).onward.1.runId, (rows run known).settled ended⟩
  | read | release | rollback => exact ⟨run, known, rfl, Or.inl rfl⟩
  | retain save pending _ =>
    refine ⟨_, List.mem_map_of_mem known, ?_⟩
    rcases keyed.retained_row pending known with ⟨-, -, verifying, -⟩ | ⟨-, same⟩
    · rw [verifying] at ended
      cases ended
    · rw [same]
      exact ⟨rfl, Or.inl rfl⟩
  | activate tables control operator activated target known' retained owner approved unexpired baseline =>
    refine ⟨_, List.mem_map_of_mem known, (keyed.activated_row known' approved target.catalogId known).runId, ?_⟩
    rw [activateRow, if_neg]
    · exact Or.inl rfl
    · intro own
      rw [keyed.run_eq known known' own, approved] at ended
      cases ended

/-- A run that has ended stays as it ended: no call opens it again, or turns a refusal into an activation. -/
theorem ended_runs_stay (before after : List SyncEvent) (run : SyncRun)
    (known : run ∈ (before.foldl (syncStep sha256 recordChecksum lower) {}).runs) (ended : run.state.active = false) :
    ∃ run' ∈ ((before ++ after).foldl (syncStep sha256 recordChecksum lower) {}).runs,
      run'.runId = run.runId ∧ Settled run.state run'.state := by
  have sound := reachable_sound sha256 recordChecksum lower before
  rw [List.foldl_append]
  generalize before.foldl (syncStep sha256 recordChecksum lower) {} = store at sound known
  induction after generalizing store run with
  | nil => exact ⟨run, known, rfl, Or.inl rfl⟩
  | cons event rest ih =>
    obtain ⟨next, known', same, settled⟩ := (sound.move sha256 recordChecksum lower event).settled sound.keyed known ended
    have ended' : next.state.active = false := by
      rcases settled with same | ⟨-, done⟩
      · rw [same, ended]
      · cases state : next.state <;> rw [state] at done <;> first | rfl | cases done
    obtain ⟨last, held, same', settled'⟩ := ih next ended' _ (sound.step sha256 recordChecksum lower event) known'
    refine ⟨last, held, same'.trans same, ?_⟩
    rcases settled' with same' | ⟨done, done'⟩
    · rw [Settled, same']
      exact settled
    · rcases settled with same | ⟨done'', -⟩
      · exact Or.inr ⟨same ▸ done, done'⟩
      · exact Or.inr ⟨done'', done'⟩

end Runs

/-- Two calls after which a run has failed. -/
def failingCalls : List SyncEvent := [.create ⟨"source", "operator", .remoteSync, 60, 0, "run"⟩, .fail "run"]

theorem ended_runs_stay_failed :
    ∃ run ∈ ((failingCalls ++ [SyncEvent.advance "run" .downloading, .approve "run" "operator" 1]).foldl
        (syncStep id (fun _ => "") id) {}).runs, run.runId = "run" ∧ Settled .failed run.state :=
  ended_runs_stay id (fun _ => "") id failingCalls _
    { runId := "run", state := .failed, sourceId := "source", requestMode := .remoteSync, requestedBy := "operator",
      createdAt := 0 }
    (by decide) rfl

def blankCatalog : AdvisoryCatalog where
  catalogVersion := "1"
  source := { name := "source", version := "1", license := "CC0", provenance := "feed" }
  generatedAt := 0
  advisories := []
  distinct := List.nodup_nil

/-- A run from its request to the activation of its catalog. -/
def synchronization (runId version catalogId : String) (sequence : Nat) (now : Time) : List SyncEvent :=
  [.create ⟨"source", "operator", .remoteSync, 0, now, runId⟩, .advance runId .downloading, .advance runId .downloaded,
    .advance runId .verifying,
    .saveRead ⟨runId, "source", ⟨version, sequence, version, version, "checksum", "checksum", 100⟩, now, catalogId⟩,
      .saveWrite runId,
    .approve runId "operator" now, .activate runId ⟨blankCatalog, "checksum", "operator", now, runId, "import"⟩]

example : ((synchronization "first" "1" "a" 1 0 ++ synchronization "second" "2" "b" 2 1 ++
    [SyncEvent.rollback "a" 0 ⟨blankCatalog, "checksum", "operator", 2, "third", "import"⟩]).foldl
      (syncStep id (fun _ => "") id) {}).activations.map (·.previousCatalogId) = [none, some "a", some "b"] := by
  decide +kernel

end OpenAssetWatch.Advisory
