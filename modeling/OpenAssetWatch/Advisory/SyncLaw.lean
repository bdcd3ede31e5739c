import OpenAssetWatch.Advisory.SyncMoves

namespace OpenAssetWatch.Advisory

open Library

/-- A verified bundle of the run is retained. -/
def RunState.retained : RunState → Bool
  | .pendingApproval | .approved | .importing | .activated | .activatedDegraded | .rejected | .failed | .expired => true
  | _ => false

/-- The run waits for an operator. -/
def RunState.waiting : RunState → Bool
  | .pendingApproval | .approved => true
  | _ => false

/-- The run has activated its catalog. -/
def RunState.done : RunState → Bool
  | .activated | .activatedDegraded => true
  | _ => false

/-- What every later row of a run keeps of an earlier one. -/
structure Onward (row row' : SyncRun) : Prop where
  runId : row'.runId = row.runId
  sourceId : row'.sourceId = row.sourceId
  active : row'.state.active = true → row.state.active = true
  retained : row.state.retained = true → row'.state.retained = true
  done : row.state.done = true → row'.state.done = true ∧ row'.approvedBy = row.approvedBy ∧
    row'.activeCatalogBefore = row.activeCatalogBefore ∧ row'.activatedCatalogAfter = row.activatedCatalogAfter

theorem active_not_done {state : RunState} (active : state.active = true) : state.done = false := by
  cases state <;> first | rfl | cases active

theorem Onward.refl (row : SyncRun) : Onward row row := ⟨rfl, rfl, id, id, fun done => ⟨done, rfl, rfl, rfl⟩⟩

theorem Progress.onward {row row' : SyncRun} (progress : Progress row row') :
    Onward row row' ∧ (row'.state.waiting = true → row.state.waiting = true) := by
  cases progress with
  | same => exact ⟨.refl row, id⟩
  | stage stage before =>
    refine ⟨⟨rfl, rfl, fun _ => ?_, fun retained => ?_, fun done => ?_⟩, fun waiting => ?_⟩
    · rw [before]
      cases stage <;> rfl
    · rw [before] at retained
      cases stage <;> cases retained
    · rw [before] at done
      cases stage <;> cases done
    · cases stage <;> cases waiting
  | fail before =>
    refine ⟨⟨rfl, rfl, fun _ => before, fun _ => rfl, fun done => ?_⟩, fun waiting => by cases waiting⟩
    exact absurd done (Bool.eq_false_iff.mp (active_not_done before))
  | approve operator now before =>
    refine ⟨⟨rfl, rfl, fun _ => by rw [before]; rfl, fun _ => rfl, fun done => ?_⟩, fun _ => by rw [before]; rfl⟩
    rw [before] at done
    cases done
  | reject operator now reason before =>
    refine ⟨⟨rfl, rfl, (fun active => by cases active), fun _ => rfl, fun done => ?_⟩, fun waiting => by cases waiting⟩
    rw [before] at done
    cases done
  | expire before =>
    refine ⟨⟨rfl, rfl, (fun active => by cases active), fun _ => rfl, fun done => ?_⟩, fun waiting => by cases waiting⟩
    rw [before] at done
    cases done
  | mark state before after =>
    rcases after with rfl | rfl
    · exact ⟨⟨rfl, rfl, (fun active => by cases active), fun _ => rfl, fun _ => ⟨rfl, rfl, rfl, rfl⟩⟩,
      fun waiting => by cases waiting⟩
    · exact ⟨⟨rfl, rfl, (fun active => by cases active), fun _ => rfl, fun _ => ⟨rfl, rfl, rfl, rfl⟩⟩,
      fun waiting => by cases waiting⟩

/-- The ids are unique, every catalog belongs to a run that has retained it, a save holds its run while that is being verified,
and a source has one run at a time that has not ended. -/
structure SyncStore.Keyed (store : SyncStore) : Prop where
  runIds : (store.runs.map (·.runId)).Nodup
  catalogIds : (store.catalogs.map (·.catalogId)).Nodup
  owners : (store.catalogs.map (·.runId)).Nodup
  owned : ∀ catalog ∈ store.catalogs, ∃ run ∈ store.runs, run.runId = catalog.runId ∧ run.sourceId = catalog.sourceId ∧
    run.state.retained = true
  savings : (store.saving.map (·.call.runId)).Nodup
  pending : ∀ save ∈ store.saving, ∃ run ∈ store.runs, run.runId = save.call.runId ∧ run.sourceId = save.call.sourceId ∧
    run.state = .verifying
  flight : ∀ run ∈ store.runs, ∀ other ∈ store.runs, run.state.active = true → other.state.active = true →
    run.sourceId = other.sourceId → run.runId = other.runId

namespace SyncStore.Keyed

variable {store : SyncStore}

theorem run_eq (keyed : store.Keyed) {run other : SyncRun} (member : run ∈ store.runs) (member' : other ∈ store.runs)
    (same : run.runId = other.runId) : run = other := List.inj_on_of_nodup_map keyed.runIds member member' same

theorem catalog_eq (keyed : store.Keyed) {catalog other : SyncCatalog} (member : catalog ∈ store.catalogs)
    (member' : other ∈ store.catalogs) (same : catalog.catalogId = other.catalogId) : catalog = other :=
  List.inj_on_of_nodup_map keyed.catalogIds member member' same

theorem locked (keyed : store.Keyed) : ∀ run ∈ store.runs, store.locked run.runId = true → run.state = .verifying := by
  intro run member held
  obtain ⟨save, saving, same⟩ := List.any_eq_true.mp held
  obtain ⟨row, known, own, -, verifying⟩ := keyed.pending save saving
  rw [keyed.run_eq member known ((of_decide_eq_true same).symm.trans own.symm)]
  exact verifying

theorem runs (keyed : store.Keyed) {change : SyncRun → SyncRun} (rows : ∀ row ∈ store.runs, Onward row (change row))
    (unlocked : ∀ row ∈ store.runs, store.locked row.runId = true → change row = row) :
    Keyed { store with runs := store.runs.map change } where
  runIds := by
    rw [List.map_map, show store.runs.map ((·.runId) ∘ change) = store.runs.map (·.runId) from
      List.map_congr_left fun row member => (rows row member).runId]
    exact keyed.runIds
  catalogIds := keyed.catalogIds
  owners := keyed.owners
  owned catalog member := by
    obtain ⟨run, known, own, source, retained⟩ := keyed.owned catalog member
    have onward := rows run known
    exact ⟨change run, List.mem_map_of_mem known, onward.runId.trans own, onward.sourceId.trans source, onward.retained retained⟩
  savings := keyed.savings
  pending save member := by
    obtain ⟨run, known, own, source, verifying⟩ := keyed.pending save member
    have held : store.locked run.runId = true := List.any_eq_true.mpr ⟨save, member, decide_eq_true own.symm⟩
    exact ⟨run, List.mem_map.mpr ⟨run, known, unlocked run known held⟩, own, source, verifying⟩
  flight run member other member' active active' source := by
    obtain ⟨row, known, rfl⟩ := List.mem_map.mp member
    obtain ⟨row', known', rfl⟩ := List.mem_map.mp member'
    have onward := rows row known
    have onward' := rows row' known'
    rw [onward.runId, onward'.runId]
    rw [onward.sourceId, onward'.sourceId] at source
    exact keyed.flight row known row' known' (onward.active active) (onward'.active active') source

theorem switch (keyed : store.Keyed) (tables : AdvisoryTables) (control : ControlCall) (operator : String)
    (action : ControlAction)
    (target : SyncCatalog) : Keyed (store.switch tables control operator action target) := by
  have ids (row : SyncCatalog) : (switchRow target action control.now row).catalogId = row.catalogId ∧
      (switchRow target action control.now row).runId = row.runId ∧
      (switchRow target action control.now row).sourceId = row.sourceId := by
    unfold switchRow
    split
    · exact ⟨rfl, rfl, rfl⟩
    · split <;> exact ⟨rfl, rfl, rfl⟩
  refine ⟨keyed.runIds, ?_, ?_, ?_, keyed.savings, keyed.pending, keyed.flight⟩
  · show ((store.catalogs.map _).map _).Nodup
    rw [List.map_map, show store.catalogs.map ((·.catalogId) ∘ switchRow target action control.now) =
      store.catalogs.map (·.catalogId) from List.map_congr_left fun row _ => (ids row).1]
    exact keyed.catalogIds
  · show ((store.catalogs.map _).map _).Nodup
    rw [List.map_map, show store.catalogs.map ((·.runId) ∘ switchRow target action control.now) = store.catalogs.map
      (·.runId) from
      List.map_congr_left fun row _ => (ids row).2.1]
    exact keyed.owners
  · intro catalog member
    obtain ⟨row, known, rfl⟩ := List.mem_map.mp member
    rw [(ids row).2.1, (ids row).2.2]
    exact keyed.owned row known

end SyncStore.Keyed

namespace SyncStore.Keyed

variable {store : SyncStore}

theorem create (keyed : store.Keyed) {run : SyncRun} (fresh : ∀ row ∈ store.runs, row.runId ≠ run.runId)
    (free : ∀ row ∈ store.runs, row.sourceId = run.sourceId → row.state.active = false) :
    Keyed { store with runs := store.runs ++ [run] } where
  runIds := by
    rw [List.map_append, List.nodup_append]
    refine ⟨keyed.runIds, List.nodup_singleton _, ?_⟩
    intro id member other single same
    obtain ⟨row, known, own⟩ := List.mem_map.mp member
    rw [List.map_singleton, List.mem_singleton] at single
    exact fresh row known (own.trans (same.trans single))
  catalogIds := keyed.catalogIds
  owners := keyed.owners
  owned catalog member := by
    obtain ⟨row, known, facts⟩ := keyed.owned catalog member
    exact ⟨row, List.mem_append_left _ known, facts⟩
  savings := keyed.savings
  pending save member := by
    obtain ⟨row, known, facts⟩ := keyed.pending save member
    exact ⟨row, List.mem_append_left _ known, facts⟩
  flight row member other member' active active' source := by
    rcases List.mem_append.mp member with known | last <;> rcases List.mem_append.mp member' with known' | last'
    · exact keyed.flight row known other known' active active' source
    · rw [List.mem_singleton.mp last'] at source
      rw [free row known source] at active
      cases active
    · rw [List.mem_singleton.mp last] at source
      rw [free other known' source.symm] at active'
      cases active'
    · rw [List.mem_singleton.mp last, List.mem_singleton.mp last']

theorem read (keyed : store.Keyed) {save : Saving} (checked : saveReads store save.call = .ok save.activeBefore)
    (free : store.locked save.call.runId = false) : Keyed { store with saving := store.saving ++ [save] } := by
  refine ⟨keyed.runIds, keyed.catalogIds, keyed.owners, keyed.owned, ?_, ?_, keyed.flight⟩
  · show ((store.saving ++ [save]).map _).Nodup
    rw [List.map_append, List.nodup_append]
    refine ⟨keyed.savings, List.nodup_singleton _, ?_⟩
    intro id member other single same
    obtain ⟨held, known, own⟩ := List.mem_map.mp member
    rw [List.map_singleton, List.mem_singleton] at single
    have locked := List.any_eq_false.mp free held known
    exact locked (decide_eq_true (own.trans (same.trans single)))
  · intro held member
    rcases List.mem_append.mp member with known | last
    · exact keyed.pending held known
    · rw [List.mem_singleton.mp last]
      rw [saveReads] at checked
      obtain ⟨found, -⟩ := require_bind_eq_ok.mp checked
      obtain ⟨row, known, holds⟩ := List.any_eq_true.mp found
      simp only [Bool.and_eq_true, decide_eq_true_iff] at holds
      exact ⟨row, known, holds.1.1, holds.1.2, holds.2⟩

theorem release (keyed : store.Keyed) (kept : Saving → Bool) : Keyed { store with saving := store.saving.filter kept } where
  runIds := keyed.runIds
  catalogIds := keyed.catalogIds
  owners := keyed.owners
  owned := keyed.owned
  savings := keyed.savings.sublist (List.filter_sublist.map _)
  pending save member := keyed.pending save (List.mem_filter.mp member).1
  flight := keyed.flight

theorem retained_row (keyed : store.Keyed) {save : Saving} (pending : save ∈ store.saving) {row : SyncRun}
    (member : row ∈ store.runs) :
    row.runId = save.call.runId ∧ row.sourceId = save.call.sourceId ∧ row.state = .verifying ∧
        updateRow save.call.runId (· = RunState.verifying) save.retain row = save.retain row ∨
      row.runId ≠ save.call.runId ∧ updateRow save.call.runId (· = RunState.verifying) save.retain row = row := by
  by_cases own : row.runId = save.call.runId
  · obtain ⟨run, known, own', source, verifying⟩ := keyed.pending save pending
    cases keyed.run_eq member known (own.trans own'.symm)
    exact Or.inl ⟨own, source, verifying, if_pos ((Bool.and_eq_true _ _).mpr ⟨decide_eq_true own, decide_eq_true verifying⟩)⟩
  · exact Or.inr ⟨own, if_neg (by rw [decide_eq_false own]; exact Bool.false_ne_true)⟩

theorem retain (keyed : store.Keyed) {save : Saving} (pending : save ∈ store.saving) (admitted : store.admits save.call = true) :
    Keyed ({ store with
      saving := store.saving.filter (· ≠ save)
      catalogs := store.catalogs ++ [save.call.catalog] }.updateRun save.call.runId (· = RunState.verifying) save.retain) := by
  have row {run : SyncRun} (member : run ∈ store.runs) := keyed.retained_row pending member
  have ids (run : SyncRun) (member : run ∈ store.runs) :
      (updateRow save.call.runId (· = RunState.verifying) save.retain run).runId = run.runId ∧
      (updateRow save.call.runId (· = RunState.verifying) save.retain run).sourceId = run.sourceId ∧
      ((updateRow save.call.runId (· = RunState.verifying) save.retain run).state.active = true → run.state.active = true) ∧
      (run.state.retained = true →
        (updateRow save.call.runId (· = RunState.verifying) save.retain run).state.retained = true) := by
    rcases row member with ⟨-, -, verifying, same⟩ | ⟨-, same⟩ <;> rw [same]
    · exact ⟨rfl, rfl, fun _ => by rw [verifying]; rfl, fun _ => rfl⟩
    · exact ⟨rfl, rfl, id, id⟩
  rw [admits, Bool.and_eq_true, List.all_eq_true] at admitted
  have apart {catalog : SyncCatalog} (member : catalog ∈ store.catalogs) :
      catalog.catalogId ≠ save.call.catalogId ∧ catalog.runId ≠ save.call.runId := by
    have here := admitted.2 catalog member
    simp only [Bool.and_eq_true, decide_eq_true_iff] at here
    exact here.1
  refine ⟨?_, ?_, ?_, ?_, ?_, ?_, ?_⟩
  · show ((store.runs.map _).map _).Nodup
    rw [List.map_map, show store.runs.map ((·.runId) ∘ updateRow save.call.runId (· = RunState.verifying) save.retain) =
      store.runs.map (·.runId) from List.map_congr_left fun run member => (ids run member).1]
    exact keyed.runIds
  · show ((store.catalogs ++ [save.call.catalog]).map (·.catalogId)).Nodup
    rw [List.map_append, List.nodup_append]
    refine ⟨keyed.catalogIds, List.nodup_singleton _, ?_⟩
    intro id member other single same
    obtain ⟨catalog, known, own⟩ := List.mem_map.mp member
    rw [List.map_singleton, List.mem_singleton] at single
    exact (apart known).1 (own.trans (same.trans single))
  · show ((store.catalogs ++ [save.call.catalog]).map (·.runId)).Nodup
    rw [List.map_append, List.nodup_append]
    refine ⟨keyed.owners, List.nodup_singleton _, ?_⟩
    intro id member other single same
    obtain ⟨catalog, known, own⟩ := List.mem_map.mp member
    rw [List.map_singleton, List.mem_singleton] at single
    exact (apart known).2 (own.trans (same.trans single))
  · intro catalog member
    rcases List.mem_append.mp member with known | last
    · obtain ⟨run, held, own, source, retained⟩ := keyed.owned catalog known
      obtain ⟨same, same', -, keeps⟩ := ids _ held
      exact ⟨_, List.mem_map_of_mem held, same.trans own, same'.trans source, keeps retained⟩
    · rw [List.mem_singleton.mp last]
      obtain ⟨run, held, own, source, verifying⟩ := keyed.pending save pending
      obtain ⟨same, same', -⟩ := ids _ held
      refine ⟨_, List.mem_map_of_mem held, same.trans own, same'.trans source, ?_⟩
      rcases row held with ⟨-, -, -, retains⟩ | ⟨other, -⟩
      · rw [retains]
        rfl
      · exact absurd own other
  · exact keyed.savings.sublist (List.filter_sublist.map _)
  · intro other member
    obtain ⟨held, apart⟩ := List.mem_filter.mp member
    obtain ⟨run, known, own, source, verifying⟩ := keyed.pending other held
    rcases row known with ⟨own', -⟩ | ⟨-, same⟩
    · exact absurd (List.inj_on_of_nodup_map keyed.savings held pending (own.symm.trans own')) (of_decide_eq_true apart)
    · exact ⟨run, List.mem_map.mpr ⟨run, known, same⟩, own, source, verifying⟩
  · intro run member other member' active active' source
    obtain ⟨before, known, rfl⟩ := List.mem_map.mp member
    obtain ⟨before', known', rfl⟩ := List.mem_map.mp member'
    obtain ⟨same, from', keeps, -⟩ := ids _ known
    obtain ⟨same', from'', keeps', -⟩ := ids _ known'
    rw [same, same']
    exact keyed.flight before known before' known' (keeps active) (keeps' active') (from'.symm.trans (source.trans from''))

theorem activated_row (keyed : store.Keyed) {run : SyncRun} (known : run ∈ store.runs) (approved : run.state = .approved)
    (catalogId : String) {row : SyncRun} (member : row ∈ store.runs) :
    Onward row (activateRow run.runId catalogId row) := by
  unfold activateRow
  split
  case isFalse => exact .refl row
  case isTrue own =>
    cases keyed.run_eq member known own
    refine ⟨rfl, rfl, (fun active => by cases active), fun _ => rfl, fun done => ?_⟩
    rw [approved] at done
    cases done

theorem activate (keyed : store.Keyed) {run : SyncRun} (known : run ∈ store.runs) (approved : run.state = .approved)
    (catalogId : String) :
    Keyed { store with runs := store.runs.map (activateRow run.runId catalogId) } := by
  apply keyed.runs fun row member => keyed.activated_row known approved catalogId member
  intro row member locked
  rw [activateRow, if_neg]
  intro own
  have verifying := keyed.locked row member locked
  rw [keyed.run_eq member known own, approved] at verifying
  cases verifying

theorem move (keyed : store.Keyed) {next : SyncStore} (moved : Move store next) : next.Keyed := by
  cases moved with
  | create run created fresh free => exact keyed.create fresh free
  | progress change rows unlocked => exact keyed.runs (fun row member => (rows row member).onward.1) unlocked
  | read save checked free => exact keyed.read checked free
  | release kept => exact keyed.release kept
  | retain save pending admitted => exact keyed.retain pending admitted
  | activate tables control operator run target known retained owner approved unexpired baseline =>
    exact (keyed.activate known approved target.catalogId).switch tables control operator .activate target
  | rollback tables control operator target retained activated idle => exact keyed.switch tables control operator .rollback target

end SyncStore.Keyed

theorem switchRow_kept (target : SyncCatalog) (action : ControlAction) (now : Time) (row : SyncCatalog) :
    (switchRow target action now row).catalogId = row.catalogId ∧ (switchRow target action now row).runId = row.runId ∧
      (switchRow target action now row).sourceId = row.sourceId ∧
      (switchRow target action now row).catalogSequence = row.catalogSequence ∧
      (switchRow target action now row).manifestExpiresAt = row.manifestExpiresAt := by
  unfold switchRow
  split
  · exact ⟨rfl, rfl, rfl, rfl, rfl⟩
  · split <;> exact ⟨rfl, rfl, rfl, rfl, rfl⟩

/-- The later activation of two brings the newer catalog. -/
def Newer (catalogs : List SyncCatalog) (earlier later : CatalogActivation) : Prop :=
  later.action = .activate → earlier.sourceId = later.sourceId → ∀ old ∈ catalogs, ∀ new ∈ catalogs,
    old.catalogId = earlier.catalogId → new.catalogId = later.catalogId → old.catalogSequence < new.catalogSequence

/-- What is to become active is newer than all that was active before on its source. -/
structure SyncStore.Ahead (store : SyncStore) : Prop where
  saving : ∀ save ∈ store.saving, ∀ catalog ∈ store.catalogs, catalog.sourceId = save.call.sourceId →
    store.activated catalog.catalogId = true → catalog.catalogSequence < save.call.bundle.catalogSequence
  waiting : ∀ catalog ∈ store.catalogs, ∀ run ∈ store.runs, run.runId = catalog.runId → run.state.waiting = true →
    store.activated catalog.catalogId = false ∧ ∀ other ∈ store.catalogs, other.sourceId = catalog.sourceId →
      store.activated other.catalogId = true → other.catalogSequence < catalog.catalogSequence
  counted : ∀ catalog ∈ store.catalogs, 1 ≤ catalog.activationCount → store.activated catalog.catalogId = true
  listed : ∀ entry ∈ store.activations, ∃ catalog ∈ store.catalogs, catalog.catalogId = entry.catalogId ∧
    catalog.sourceId = entry.sourceId
  ordered : store.activations.Pairwise (Newer store.catalogs)

namespace SyncStore.Ahead

variable {store : SyncStore}

theorem retained (ahead : store.Ahead) {catalogId : String} (activated : store.activated catalogId = true) :
    ∃ catalog ∈ store.catalogs, catalog.catalogId = catalogId := by
  obtain ⟨entry, member, same⟩ := List.any_eq_true.mp activated
  obtain ⟨catalog, retained, own, -⟩ := ahead.listed entry member
  exact ⟨catalog, retained, own.trans (of_decide_eq_true same)⟩

theorem runs (ahead : store.Ahead) {runs : List SyncRun}
    (rows : ∀ row' ∈ runs, row'.state.waiting = true → ∃ row ∈ store.runs, row.runId = row'.runId ∧ row.state.waiting = true) :
    Ahead { store with runs } where
  saving := ahead.saving
  waiting catalog member run known own waits := by
    obtain ⟨row, known', same, waits'⟩ := rows run known waits
    exact ahead.waiting catalog member row known' (same.trans own) waits'
  counted := ahead.counted
  listed := ahead.listed
  ordered := ahead.ordered

theorem read (ahead : store.Ahead) {save : Saving} (checked : saveReads store save.call = .ok save.activeBefore) :
    Ahead { store with saving := store.saving ++ [save] } := by
  refine ⟨?_, ahead.waiting, ahead.counted, ahead.listed, ahead.ordered⟩
  intro held member catalog retained source activated
  rcases List.mem_append.mp member with known | last
  · exact ahead.saving held known catalog retained source activated
  · rw [List.mem_singleton.mp last] at source ⊢
    rw [saveReads] at checked
    obtain ⟨-, checked⟩ := require_bind_eq_ok.mp checked
    obtain ⟨-, checked⟩ := require_bind_eq_ok.mp checked
    obtain ⟨newer, -⟩ := require_bind_eq_ok.mp checked
    have listed : catalog ∈ (store.ofSource save.call.sourceId).filter fun row => store.activated row.catalogId :=
      List.mem_filter.mpr ⟨List.mem_filter.mpr ⟨retained, decide_eq_true source⟩, activated⟩
    cases found : store.prior save.call.sourceId with
    | none => exact absurd listed (List.argmax_eq_none.mp found ▸ List.not_mem_nil)
    | some prior =>
      rw [found] at newer
      have bound : catalog.catalogSequence ≤ prior.catalogSequence :=
        @List.le_of_mem_argmax SyncCatalog Nat _ (·.catalogSequence) _ _ _ listed found
      exact lt_of_le_of_lt bound (of_decide_eq_true newer)

theorem release (ahead : store.Ahead) (kept : Saving → Bool) : Ahead { store with saving := store.saving.filter kept } :=
  ⟨fun save member => ahead.saving save (List.mem_filter.mp member).1, ahead.waiting, ahead.counted, ahead.listed, ahead.ordered⟩

theorem retain (ahead : store.Ahead) (keyed : store.Keyed) {save : Saving} (pending : save ∈ store.saving)
    (admitted : store.admits save.call = true) :
    Ahead ({ store with
      saving := store.saving.filter (· ≠ save)
      catalogs := store.catalogs ++ [save.call.catalog] }.updateRun save.call.runId (· = RunState.verifying) save.retain) := by
  rw [admits, Bool.and_eq_true, List.all_eq_true] at admitted
  have apart {catalog : SyncCatalog} (member : catalog ∈ store.catalogs) :
      catalog.catalogId ≠ save.call.catalogId ∧ catalog.runId ≠ save.call.runId := by
    have here := admitted.2 catalog member
    simp only [Bool.and_eq_true, decide_eq_true_iff] at here
    exact here.1
  have fresh : store.activated save.call.catalog.catalogId = false := by
    apply Bool.eq_false_iff.mpr
    intro activated
    obtain ⟨catalog, retained, own⟩ := ahead.retained activated
    exact (apart retained).1 own
  have known {catalog : SyncCatalog} (member : catalog ∈ store.catalogs ++ [save.call.catalog])
      (activated : store.activated catalog.catalogId = true) : catalog ∈ store.catalogs := by
    rcases List.mem_append.mp member with known | last
    · exact known
    · rw [List.mem_singleton.mp last, fresh] at activated
      cases activated
  refine ⟨?_, ?_, ?_, ?_, ?_⟩
  · intro other member catalog retained source activated
    exact ahead.saving other (List.mem_filter.mp member).1 catalog (known retained activated) source activated
  · intro catalog member run held own waits
    obtain ⟨row, before, rfl⟩ := List.mem_map.mp held
    rcases List.mem_append.mp member with old | last
    · rcases keyed.retained_row pending before with ⟨own', -, -, same⟩ | ⟨-, same⟩
      · rw [same] at own
        exact absurd (own.symm.trans own') (apart old).2
      · rw [same] at own waits
        obtain ⟨idle, newer⟩ := ahead.waiting catalog old row before own waits
        exact ⟨idle, fun other retained source activated => newer other (known retained activated) source activated⟩
    · rw [List.mem_singleton.mp last]
      exact ⟨fresh, fun other retained source activated => ahead.saving save pending other (known retained activated)
        source activated⟩
  · intro catalog member counted
    rcases List.mem_append.mp member with old | last
    · exact ahead.counted catalog old counted
    · rw [List.mem_singleton.mp last] at counted
      cases counted
  · intro entry member
    obtain ⟨catalog, retained, facts⟩ := ahead.listed entry member
    exact ⟨catalog, List.mem_append_left _ retained, facts⟩
  · apply ahead.ordered.imp_of_mem
    intro earlier later member member' newer activates source old retained new retained' own own'
    have ids {entry : CatalogActivation} (listed : entry ∈ store.activations) : store.activated entry.catalogId = true :=
      List.any_eq_true.mpr ⟨entry, listed, decide_eq_true rfl⟩
    exact newer activates source old (known retained (own ▸ ids member)) new (known retained' (own' ▸ ids member')) own own'

theorem switch (ahead : store.Ahead) (keyed : store.Keyed) (tables : AdvisoryTables) (control : ControlCall) (operator : String)
    {action : ControlAction} {target : SyncCatalog} (retained : target ∈ store.catalogs)
    (either : action = .rollback ∧ store.activated target.catalogId = true ∨ action = .activate ∧
      (∀ run ∈ store.runs, run.sourceId = target.sourceId → run.state.active = false) ∧
      ∀ other ∈ store.catalogs, other.sourceId = target.sourceId → store.activated other.catalogId = true →
        other.catalogSequence < target.catalogSequence) :
    Ahead (store.switch tables control operator action target) := by
  have activated {catalogId : String} : (store.switch tables control operator action target).activated catalogId = true ↔
      store.activated catalogId = true ∨ catalogId = target.catalogId := by
    show (store.activations ++ [_]).any _ = true ↔ _
    rw [List.any_append, Bool.or_eq_true, List.any_cons, List.any_nil, Bool.or_false, decide_eq_true_iff, eq_comm (a :=
      catalogId)]
    exact Iff.rfl
  have kept (row : SyncCatalog) := switchRow_kept target action control.now row
  -- No run of the source is under way when a catalog is activated.
  have quiet {run : SyncRun} (known : run ∈ store.runs) (active : run.state.active = true)
      (source : run.sourceId = target.sourceId)
      (idle : store.activated target.catalogId = false) : False := by
    rcases either with ⟨-, activated⟩ | ⟨-, quiet, -⟩
    · rw [idle] at activated
      cases activated
    · rw [quiet run known source] at active
      cases active
  have known {catalog : SyncCatalog} (member : catalog ∈ store.catalogs) (same : catalog.catalogId = target.catalogId) :
      catalog = target := keyed.catalog_eq member retained same
  have owner {catalog : SyncCatalog} (member : catalog ∈ store.catalogs) {run : SyncRun} (held : run ∈ store.runs)
      (own : run.runId = catalog.runId) : run.sourceId = catalog.sourceId := by
    obtain ⟨row, held', own', source, -⟩ := keyed.owned catalog member
    rw [keyed.run_eq held held' (own.trans own'.symm)]
    exact source
  have newly {catalog : SyncCatalog} (member : catalog ∈ store.catalogs)
      (listed : (store.switch tables control operator action target).activated catalog.catalogId = true) :
      store.activated catalog.catalogId = true ∨ catalog = target ∧ store.activated target.catalogId = false := by
    cases before : store.activated catalog.catalogId with
    | true => exact Or.inl rfl
    | false =>
      rcases activated.mp listed with already | same
      · rw [before] at already
        cases already
      · have here := known member same
        exact Or.inr ⟨here, here ▸ before⟩
  refine ⟨?_, ?_, ?_, ?_, ?_⟩
  · intro save member catalog mapped source listed
    obtain ⟨row, old, rfl⟩ := List.mem_map.mp mapped
    rw [(kept row).1] at listed
    rw [(kept row).2.2.1] at source
    rw [(kept row).2.2.2.1]
    rcases newly old listed with before | ⟨rfl, idle⟩
    · exact ahead.saving save member row old source before
    · obtain ⟨run, held, -, from', verifying⟩ := keyed.pending save member
      exact (quiet held (by rw [verifying]; rfl) (from'.trans source.symm) idle).elim
  · intro catalog mapped run held own waits
    obtain ⟨row, old, rfl⟩ := List.mem_map.mp mapped
    rw [(kept row).2.1] at own
    rw [(kept row).1, (kept row).2.2.1, (kept row).2.2.2.1]
    obtain ⟨idle, newer⟩ := ahead.waiting row old run held own waits
    have active : run.state.active = true := by
      cases state : run.state <;> rw [state] at waits <;> first | rfl | cases waits
    constructor
    · apply Bool.eq_false_iff.mpr
      intro listed
      rcases newly old listed with before | ⟨rfl, still⟩
      · rw [idle] at before
        cases before
      · exact quiet held active (owner old held own) still
    · intro other mapped' source listed
      obtain ⟨row', old', rfl⟩ := List.mem_map.mp mapped'
      rw [(kept row').1] at listed
      rw [(kept row').2.2.1] at source
      rw [(kept row').2.2.2.1]
      rcases newly old' listed with before | ⟨rfl, still⟩
      · exact newer row' old' source before
      · exact (quiet held active ((owner old held own).trans source.symm) still).elim
  · intro catalog mapped counted
    obtain ⟨row, old, rfl⟩ := List.mem_map.mp mapped
    rw [(kept row).1, activated]
    by_cases same : row.catalogId = target.catalogId
    · exact Or.inr same
    · have count : (switchRow target action control.now row).activationCount = row.activationCount := by
        rw [switchRow, if_neg same]
        split <;> rfl
      exact Or.inl (ahead.counted row old (count ▸ counted))
  · intro entry member
    rcases List.mem_append.mp member with old | last
    · obtain ⟨row, held, own, source⟩ := ahead.listed entry old
      exact ⟨_, List.mem_map_of_mem held, (kept row).1.trans own, (kept row).2.2.1.trans source⟩
    · rw [List.mem_singleton.mp last]
      exact ⟨_, List.mem_map_of_mem retained, (kept target).1, (kept target).2.2.1⟩
  · show (store.activations ++ [_]).Pairwise _
    rw [List.pairwise_append]
    refine ⟨?_, List.pairwise_singleton _ _, ?_⟩
    · apply ahead.ordered.imp
      intro earlier later newer activates source old mapped new mapped' own own'
      obtain ⟨row, held, rfl⟩ := List.mem_map.mp mapped
      obtain ⟨row', held', rfl⟩ := List.mem_map.mp mapped'
      rw [(kept row).2.2.2.1, (kept row').2.2.2.1]
      exact newer activates source row held row' held' ((kept row).1.symm.trans own) ((kept row').1.symm.trans own')
    · intro earlier member later last activates source old mapped new mapped' own own'
      rw [List.mem_singleton.mp last] at activates source own'
      obtain ⟨row, held, rfl⟩ := List.mem_map.mp mapped
      obtain ⟨row', held', rfl⟩ := List.mem_map.mp mapped'
      rw [(kept row).2.2.2.1, (kept row').2.2.2.1]
      rw [(kept row).1] at own
      rw [(kept row').1] at own'
      rcases either with ⟨rolls, -⟩ | ⟨-, -, newer⟩
      · rw [show action = .activate from activates] at rolls
        cases rolls
      · rw [known held' own']
        obtain ⟨row'', held'', same, from'⟩ := ahead.listed earlier member
        have here := keyed.catalog_eq held held'' (own.trans same.symm)
        apply newer row held
        · rw [here, from', source]
        · exact List.any_eq_true.mpr ⟨earlier, member, decide_eq_true own.symm⟩

end SyncStore.Ahead

end OpenAssetWatch.Advisory
