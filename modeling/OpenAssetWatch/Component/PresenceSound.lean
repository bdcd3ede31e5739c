import OpenAssetWatch.Component.PresenceRows

namespace OpenAssetWatch.Component

open Library Library.Run

section

variable {components : List NormalizedComponent} {snapshots : List ComponentSourceSnapshot} {snapshot : ComponentSourceSnapshot}
  {observed : List ComponentId} {store : ComponentStore} {key : PresenceKey} {id : ComponentId}

/-- The delivery reports the component of the presence from its source. -/
def Reports (components : List NormalizedComponent) (key : PresenceKey) : Prop :=
  ∃ item ∈ nativeComponents components, item.1 = key

theorem mem_observed : key.componentId ∈ observedBySource components key.scope ↔ Reports components key := by
  simp only [observedBySource, List.mem_dedup, List.mem_map, List.mem_filter, decide_eq_true_eq, Reports]
  constructor
  · rintro ⟨item, ⟨listed, scope⟩, same⟩
    refine ⟨item, listed, ?_⟩
    obtain ⟨⟨id, agent, source⟩, body⟩ := item
    obtain ⟨id', agent', source'⟩ := key
    simp only [PresenceKey.scope, SourceScope.mk.injEq] at scope same
    obtain ⟨-, -, rfl, rfl⟩ := scope
    rw [same]
  · rintro ⟨item, listed, rfl⟩
    exact ⟨item, ⟨listed, rfl⟩, rfl⟩

theorem isWithdrawn_iff {row : PresenceRow} :
    isWithdrawn snapshot (observedBySource components snapshot.scope) key row = true ↔
      snapshot.collectionStatus = .complete ∧ key.scope = snapshot.scope ∧ row.active = true ∧
        row.lastObservedAt ≤ snapshot.observedAt ∧ ¬Reports components key := by
  by_cases here : key.scope = snapshot.scope
  · have absent : (!(observedBySource components snapshot.scope).contains key.componentId) = true ↔ ¬Reports components key := by
      rw [← here, ← mem_observed, Bool.not_eq_true', ← Bool.not_eq_true, List.contains_iff_mem]
    simp only [isWithdrawn, omitsPresence, Bool.and_eq_true, beq_iff_eq, decide_eq_true_eq, absent, and_assoc]
  · simp only [isWithdrawn, omitsPresence, here, decide_false, Bool.false_and, Bool.and_false, Bool.false_eq_true, false_and,
      and_false]

variable (key) in
theorem project_presence (few : snapshot.collectionStatus = .complete →
      omitted snapshot (observedBySource components snapshot.scope) store.presences ≤ maxComponentsPerAsset) :
    (projectSnapshot components store snapshot).presences.get? key = (store.presences.get? key).map fun row =>
      if isWithdrawn snapshot (observedBySource components snapshot.scope) key row then withdrawnPresence snapshot row else row :=
  apply_presence few

theorem project_omits {later : ComponentSourceSnapshot} (few : snapshot.collectionStatus = .complete →
      omitted snapshot (observedBySource components snapshot.scope) store.presences ≤ maxComponentsPerAsset) :
    omitted later observed (projectSnapshot components store snapshot).presences ≤ omitted later observed store.presences := by
  apply Dict.countP_entries_le
  intro key row selected stored
  rw [project_presence _ few] at stored
  obtain ⟨old, here, turned⟩ := Option.map_eq_some_iff.mp stored
  split at turned
  · subst turned
    simp only [omitsPresence, withdrawnPresence, Bool.and_false, Bool.false_and, Bool.false_eq_true] at selected
  · rw [here, turned]

theorem projections_active (few : ∀ snapshot ∈ snapshots, snapshot.collectionStatus = .complete →
      omitted snapshot (observedBySource components snapshot.scope) store.presences ≤ maxComponentsPerAsset) :
    (∃ row, (snapshots.foldl (projectSnapshot components) store).presences.get? key = some row ∧ row.active = true) ↔
      ∃ row, store.presences.get? key = some row ∧ row.active = true ∧
        ∀ snapshot ∈ snapshots, isWithdrawn snapshot (observedBySource components snapshot.scope) key row = false := by
  induction snapshots generalizing store with
  | nil => simp
  | cons snapshot rest ih =>
    have first := few snapshot List.mem_cons_self
    have turn := project_presence key first
    rw [List.foldl_cons, ih fun later member complete =>
      (project_omits first).trans (few later (List.mem_cons_of_mem _ member) complete), turn]
    cases store.presences.get? key with
    | none => simp
    | some row =>
      simp only [Option.map_some, Option.some.injEq, exists_eq_left', List.mem_cons, forall_eq_or_imp]
      cases withdrawn : isWithdrawn snapshot (observedBySource components snapshot.scope) key row with
      | true => simp [withdrawnPresence]
      | false => simp

theorem project_shown (shown : AllShown store) : AllShown (projectSnapshot components store snapshot) :=
  apply_shown shown

theorem projections_shown (shown : AllShown store) : AllShown (snapshots.foldl (projectSnapshot components) store) := by
  induction snapshots generalizing store with
  | nil => exact shown
  | cons snapshot rest ih => exact ih (project_shown shown)

theorem withdrawals_shown {entries : List (PresenceKey × PresenceRow)}
    (foreign : ∀ entry ∈ entries, entry.1.componentId ≠ id) (shown : IsShown store.components id) :
    IsShown (entries.foldl (withdraw snapshot) store).components id := by
  induction entries generalizing store with
  | nil => exact shown
  | cons entry rest ih =>
    apply ih
    · exact fun other member => foreign other (List.mem_cons_of_mem _ member)
    · rcases (withdraw_component entry : _ ∨ _) with same | ⟨same, -⟩
      · rw [IsShown, same]
        exact shown
      · exact absurd same (foreign entry List.mem_cons_self)

theorem apply_only (shown : IsShown store.components id) :
    IsShown (applyCompleteSourceSnapshot snapshot observed store).components id ∨
      snapshot.collectionStatus = .complete ∧ id.siteId = snapshot.scope.siteId ∧ id.assetId = snapshot.scope.assetId := by
  rw [applyCompleteSourceSnapshot]
  by_cases complete : snapshot.collectionStatus = .complete
  · by_cases here : id.siteId = snapshot.scope.siteId ∧ id.assetId = snapshot.scope.assetId
    · exact .inr ⟨complete, here⟩
    · left
      rw [if_neg (not_not.mpr complete)]
      apply withdrawals_shown _ shown
      intro entry member same
      have selected := List.of_mem_filter (List.mem_of_mem_take member)
      simp only [omitsPresence, Bool.and_eq_true, decide_eq_true_eq] at selected
      apply here
      rw [← selected.1.1.1, ← same]
      exact ⟨rfl, rfl⟩
  · rw [if_pos complete]
    exact .inl shown

variable (store) in
theorem projections_only (shown : IsShown store.components id) :
    IsShown (snapshots.foldl (projectSnapshot components) store).components id ∨
      ∃ snapshot ∈ snapshots, snapshot.collectionStatus = .complete ∧ id.siteId = snapshot.scope.siteId ∧
        id.assetId = snapshot.scope.assetId := by
  induction snapshots generalizing store with
  | nil => exact .inl shown
  | cons snapshot rest ih =>
    have next : IsShown (projectSnapshot components store snapshot).components id ∨ _ := apply_only shown
    rcases next with still | hidden
    · rcases ih _ still with last | ⟨other, member, hidden⟩
      · exact .inl last
      · exact .inr ⟨other, List.mem_cons_of_mem _ member, hidden⟩
    · exact .inr ⟨snapshot, List.mem_cons_self, hidden⟩

end

section

variable (collation : String → String → Ordering) (hub : Hub)

/-- The checks of `persist_authenticated_endpoint_source_presence` on what it is given. -/
def isAdmitted (store : ComponentStore) (delivery : Delivery) : Prop :=
  delivery.sourceSnapshots ≠ [] → lockSite hub delivery.sourceSnapshots = .ok () ∧
    validateSnapshots hub store.sources [] delivery.sourceSnapshots = .ok () ∧
    (nativeComponents delivery.components).all (fun item => delivery.sourceSnapshots.any (·.scope = item.1.scope)) = true ∧
    checkCounts delivery.components delivery.sourceSnapshots = .ok ()

/-- The store once the components and the presences of a delivery are in, before its snapshots. -/
def landed (store : ComponentStore) (delivery : Delivery) : ComponentStore :=
  { store with
    components := (persistComponents collation delivery.components delivery.completeAssets store.components).rows
    presences := (nativeComponents delivery.components).foldl (upsertSourcePresence delivery.sourceSnapshots) store.presences }

def projected (store : ComponentStore) (delivery : Delivery) : ComponentStore :=
  delivery.sourceSnapshots.foldl (projectSnapshot delivery.components) (landed collation store delivery)

theorem upserts_unsourced (items : List (PresenceKey × NormalizedComponent × NativeReference)) (presences : Dict PresenceKey PresenceRow) :
    items.foldl (upsertSourcePresence []) presences = presences := by
  induction items with
  | nil => rfl
  | cons item rest ih => exact ih

theorem persistInventory_eq_ok {store next : ComponentStore} {delivery : Delivery}
    (accepted : persistInventory collation hub delivery store = .ok next) :
    isAdmitted hub store delivery ∧ next = projected collation store delivery := by
  rw [persistInventory] at accepted
  by_cases unsourced : delivery.sourceSnapshots = []
  · refine ⟨fun sourced => absurd unsourced sourced, ?_⟩
    rw [if_pos unsourced, persistSourcePresence, if_pos unsourced] at accepted
    rw [projected, landed, unsourced, upserts_unsourced]
    exact (Except.ok.inj accepted).symm
  · rw [if_neg unsourced, persistSourcePresence, if_neg unsourced] at accepted
    obtain ⟨_, locked, accepted⟩ := bind_eq_ok.mp accepted
    obtain ⟨_, -, accepted⟩ := bind_eq_ok.mp accepted
    obtain ⟨_, valid, accepted⟩ := bind_eq_ok.mp accepted
    obtain ⟨named, accepted⟩ := require_bind_eq_ok.mp accepted
    obtain ⟨_, counted, accepted⟩ := bind_eq_ok.mp accepted
    obtain ⟨-, accepted⟩ := require_bind_eq_ok.mp accepted
    exact ⟨fun _ => ⟨locked, valid, named, counted⟩, (Except.ok.inj accepted).symm⟩

end

section

variable {components : List NormalizedComponent} {snapshots : List ComponentSourceSnapshot} {snapshot : ComponentSourceSnapshot}
  {observed : List ComponentId} {store : ComponentStore} {scope : SourceScope}

theorem apply_sources : (applyCompleteSourceSnapshot snapshot observed store).sources = store.sources := by
  rw [applyCompleteSourceSnapshot]
  split
  · rfl
  · generalize List.take _ _ = entries
    induction entries generalizing store with
    | nil => rfl
    | cons entry rest ih =>
      rw [List.foldl_cons, ih]
      rfl

variable (snapshot) in
theorem recordSourceState_attempt {sources : Dict SourceScope SourceState} {previous : SourceState}
    (stored : sources.get? scope = some previous) :
    ∃ next, (recordSourceState sources snapshot).get? scope = some next ∧ previous.lastAttemptAt ≤ next.lastAttemptAt := by
  simp only [recordSourceState]
  split
  · rename_i newer
    rw [Dict.set, Dict.get?_update]
    by_cases here : scope = snapshot.scope
    · subst here
      rw [stored, Option.all_some, decide_eq_true_eq] at newer
      exact ⟨_, if_pos rfl, newer⟩
    · rw [if_neg here]
      exact ⟨previous, stored, le_rfl⟩
  · exact ⟨previous, stored, le_rfl⟩

variable (store) in
theorem projections_attempt {previous : SourceState} (stored : store.sources.get? scope = some previous) :
    ∃ next, (snapshots.foldl (projectSnapshot components) store).sources.get? scope = some next ∧
      previous.lastAttemptAt ≤ next.lastAttemptAt := by
  induction snapshots generalizing store previous with
  | nil => exact ⟨previous, stored, le_rfl⟩
  | cons snapshot rest ih =>
    obtain ⟨next, recorded, later⟩ := recordSourceState_attempt snapshot stored
    have turn : (projectSnapshot components store snapshot).sources.get? scope = some next := by
      rw [projectSnapshot, apply_sources]
      exact recorded
    obtain ⟨last, reached, latest⟩ := ih _ turn
    exact ⟨last, reached, later.trans latest⟩

theorem validated_inOrder {hub : Hub} {sources : Dict SourceScope SourceState} {seen : List SourceScope}
    (valid : validateSnapshots hub sources seen snapshots = .ok ()) (member : snapshot ∈ snapshots) :
    inOrder sources snapshot = true := by
  induction snapshots generalizing seen with
  | nil => cases member
  | cons first rest ih =>
    obtain ⟨_, passed, valid⟩ := bind_eq_ok.mp valid
    rcases List.mem_cons.mp member with rfl | later
    · rw [validateSnapshot] at passed
      simp only [require_bind_eq_ok, require_eq_ok] at passed
      exact passed.2.2.2.2.2
    · exact ih valid later

end

section

variable (collation : String → String → Ordering)

def Accepted (store : ComponentStore) (delivered : Hub × Delivery) : Prop :=
  ∃ next, persistInventory collation delivered.1 delivered.2 store = .ok next

/-- What a step does to presences, to components and to the attempts of a source. -/
structure PresenceSound (store : ComponentStore) (delivered : Hub × Delivery) : Prop where
  withdrawn : ∀ key row, store.presences.get? key = some row → row.active = true →
    ((∃ row, (deliver collation store delivered).presences.get? key = some row ∧ row.active = true) ↔
      ¬(Accepted collation store delivered ∧ ∃ snapshot ∈ delivered.2.sourceSnapshots,
        snapshot.collectionStatus = .complete ∧ key.scope = snapshot.scope ∧ row.lastObservedAt ≤ snapshot.observedAt ∧
          ¬Reports delivered.2.components key))
  hidden : ∀ id, IsShown store.components id → IsShown (deliver collation store delivered).components id ∨
    Accepted collation store delivered ∧
      ((∃ scope ∈ delivered.2.completeAssets, scope.siteId = id.siteId ∧ scope.assetId = id.assetId) ∨
        ∃ snapshot ∈ delivered.2.sourceSnapshots, snapshot.collectionStatus = .complete ∧
          id.siteId = snapshot.scope.siteId ∧ id.assetId = snapshot.scope.assetId)
  refused : ∀ snapshot ∈ delivered.2.sourceSnapshots, ∀ previous, store.sources.get? snapshot.scope = some previous →
    snapshot.observedAt < previous.lastAttemptAt → deliver collation store delivered = store
  shown : AllShown (deliver collation store delivered)
  attempts : ∀ scope previous, store.sources.get? scope = some previous →
    ∃ next, (deliver collation store delivered).sources.get? scope = some next ∧ previous.lastAttemptAt ≤ next.lastAttemptAt

/-- A delivery that passes the checks shows what it reports, and omits no more than one transaction withdraws. -/
structure KeepsShown (store : ComponentStore) (delivered : Hub × Delivery) : Prop where
  rows : isAdmitted delivered.1 store delivered.2 → RowsShown collation store delivered.2
  few : isAdmitted delivered.1 store delivered.2 → ∀ snapshot ∈ delivered.2.sourceSnapshots,
    snapshot.collectionStatus = .complete →
      omitted snapshot (observedBySource delivered.2.components snapshot.scope) store.presences ≤ maxComponentsPerAsset

end

section

variable {collation : String → String → Ordering} {store : ComponentStore} {delivery : Delivery}

theorem landed_shown (rows : RowsShown collation store delivery) (shown : AllShown store) :
    AllShown (landed collation store delivery) := by
  intro id active
  apply persisted_shown rows shown
  obtain ⟨key, row, stored, on, here⟩ := anyActive_iff.mp active
  by_cases unsourced : delivery.sourceSnapshots = []
  · left
    rw [landed, unsourced, upserts_unsourced] at stored
    exact anyActive_iff.mpr ⟨key, row, stored, on, here⟩
  · rcases upserts_active stored on with ⟨row, before, still⟩ | ⟨item, listed, rfl, applies⟩
    · exact .inl (anyActive_iff.mpr ⟨key, row, before, still, here⟩)
    · exact .inr ⟨unsourced, item, listed, here, applies⟩

variable (collation) in
theorem landed_omits {snapshot : ComponentSourceSnapshot} :
    omitted snapshot (observedBySource delivery.components snapshot.scope) (landed collation store delivery).presences ≤
      omitted snapshot (observedBySource delivery.components snapshot.scope) store.presences := by
  apply Dict.countP_entries_le
  intro key row selected stored
  simp only [omitsPresence, Bool.and_eq_true, decide_eq_true_eq, Bool.not_eq_true'] at selected
  obtain ⟨⟨⟨here, -⟩, -⟩, unlisted⟩ := selected
  rw [landed, upserts_absent] at stored
  · exact stored
  · intro item listed same
    have reported := mem_observed.mpr ⟨item, listed, same⟩
    rw [here, ← List.contains_iff_mem, unlisted] at reported
    cases reported

theorem landed_active {key : PresenceKey} {row : PresenceRow} (stored : store.presences.get? key = some row)
    (active : row.active = true) :
    (∃ row, (landed collation store delivery).presences.get? key = some row ∧ row.active = true ∧
        ∀ snapshot ∈ delivery.sourceSnapshots,
          isWithdrawn snapshot (observedBySource delivery.components snapshot.scope) key row = false) ↔
      ¬∃ snapshot ∈ delivery.sourceSnapshots, snapshot.collectionStatus = .complete ∧ key.scope = snapshot.scope ∧
        row.lastObservedAt ≤ snapshot.observedAt ∧ ¬Reports delivery.components key := by
  by_cases reported : Reports delivery.components key
  · obtain ⟨row', upserted, on⟩ := upserts_kept delivery.sourceSnapshots
      (nativeComponents delivery.components) stored active
    refine iff_of_true ⟨row', upserted, on, fun snapshot _ => ?_⟩ ?_
    · rw [Bool.eq_false_iff, Ne, isWithdrawn_iff]
      exact fun withdrawn => withdrawn.2.2.2.2 reported
    · rintro ⟨_, -, -, -, -, unreported⟩
      exact unreported reported
  · have same : (landed collation store delivery).presences.get? key = some row := by
      rw [landed, upserts_absent fun item listed here => reported ⟨item, listed, here⟩, stored]
    rw [same]
    simp only [Option.some.injEq, exists_eq_left', active, true_and, Bool.eq_false_iff, Ne, isWithdrawn_iff, reported,
      not_false_eq_true, and_true, true_implies, not_exists, not_and]

end

section

variable {collation : String → String → Ordering} {store : ComponentStore} {delivered : Hub × Delivery}

theorem deliver_accepted (accepted : Accepted collation store delivered) :
    isAdmitted delivered.1 store delivered.2 ∧
      deliver collation store delivered = projected collation store delivered.2 := by
  obtain ⟨next, persisted⟩ := accepted
  obtain ⟨admitted, same⟩ := persistInventory_eq_ok collation delivered.1 persisted
  rw [deliver, persisted]
  exact ⟨admitted, same⟩

theorem deliver_refused (refused : ¬Accepted collation store delivered) : deliver collation store delivered = store := by
  rw [deliver]
  cases persisted : persistInventory collation delivered.1 delivered.2 store with
  | error _ => rfl
  | ok next => exact absurd ⟨next, persisted⟩ refused

theorem deliver_shown (shown : AllShown store) (keeps : KeepsShown collation store delivered) :
    AllShown (deliver collation store delivered) := by
  by_cases accepted : Accepted collation store delivered
  · obtain ⟨admitted, same⟩ := deliver_accepted accepted
    rw [same]
    exact projections_shown (landed_shown (keeps.rows admitted) shown)
  · rw [deliver_refused accepted]
    exact shown

theorem deliver_withdrawn (keeps : KeepsShown collation store delivered) {key : PresenceKey} {row : PresenceRow}
    (stored : store.presences.get? key = some row) (active : row.active = true) :
    (∃ row, (deliver collation store delivered).presences.get? key = some row ∧ row.active = true) ↔
      ¬(Accepted collation store delivered ∧ ∃ snapshot ∈ delivered.2.sourceSnapshots,
        snapshot.collectionStatus = .complete ∧ key.scope = snapshot.scope ∧ row.lastObservedAt ≤ snapshot.observedAt ∧
          ¬Reports delivered.2.components key) := by
  by_cases accepted : Accepted collation store delivered
  · obtain ⟨admitted, same⟩ := deliver_accepted accepted
    have few := fun snapshot member complete =>
      (landed_omits collation).trans (keeps.few admitted snapshot member complete)
    rw [same, projected, projections_active few, landed_active stored active]
    simp only [accepted, true_and]
  · rw [deliver_refused accepted]
    exact iff_of_true ⟨row, stored, active⟩ fun withdrawn => accepted withdrawn.1

theorem deliver_hidden {id : ComponentId} (shown : IsShown store.components id) :
    IsShown (deliver collation store delivered).components id ∨ Accepted collation store delivered ∧
      ((∃ scope ∈ delivered.2.completeAssets, scope.siteId = id.siteId ∧ scope.assetId = id.assetId) ∨
        ∃ snapshot ∈ delivered.2.sourceSnapshots, snapshot.collectionStatus = .complete ∧
          id.siteId = snapshot.scope.siteId ∧ id.assetId = snapshot.scope.assetId) := by
  by_cases accepted : Accepted collation store delivered
  · rw [(deliver_accepted accepted).2, projected]
    have observed : IsShown ((bounded delivered.2.components).foldl (persistComponent collation)
        { rows := store.components }).rows id := by
      rw [IsShown, persistComponent_row]
      exact observe_active (.inl shown)
    rcases omitRows_only delivered.2.components delivered.2.completeAssets observed with
      still | omitted
    · rcases projections_only (landed collation store delivered.2) still with last | hidden
      · exact .inl last
      · exact .inr ⟨accepted, .inr hidden⟩
    · exact .inr ⟨accepted, .inl omitted⟩
  · rw [deliver_refused accepted]
    exact .inl shown

theorem deliver_outOfOrder {snapshot : ComponentSourceSnapshot} (member : snapshot ∈ delivered.2.sourceSnapshots)
    {previous : SourceState} (stored : store.sources.get? snapshot.scope = some previous)
    (older : snapshot.observedAt < previous.lastAttemptAt) : deliver collation store delivered = store := by
  apply deliver_refused
  intro accepted
  obtain ⟨admitted, -⟩ := deliver_accepted accepted
  have ordered := validated_inOrder (admitted (List.ne_nil_of_mem member)).2.1 member
  simp only [inOrder, stored, older, decide_true, Bool.true_or, Bool.not_true, Bool.false_eq_true] at ordered

theorem deliver_attempt {scope : SourceScope} {previous : SourceState} (stored : store.sources.get? scope = some previous) :
    ∃ next, (deliver collation store delivered).sources.get? scope = some next ∧ previous.lastAttemptAt ≤ next.lastAttemptAt := by
  by_cases accepted : Accepted collation store delivered
  · rw [(deliver_accepted accepted).2]
    exact projections_attempt (landed collation store delivered.2) stored
  · rw [deliver_refused accepted]
    exact ⟨previous, stored, le_rfl⟩

theorem deliver_sound (shown : AllShown store) (keeps : KeepsShown collation store delivered) :
    PresenceSound collation store delivered where
  withdrawn _ _ stored active := deliver_withdrawn keeps stored active
  hidden _ shown := deliver_hidden shown
  refused _ member _ stored older := deliver_outOfOrder member stored older
  shown := deliver_shown shown keeps
  attempts _ _ stored := deliver_attempt stored

end

theorem empty_shown : AllShown {} := by
  intro id active
  cases active

/-- Presences and components stay sound in every run whose deliveries show what they report. -/
theorem presence_sound (collation : String → String → Ordering) (deliveries : List (Hub × Delivery))
    (keeps : Along (deliver collation) (KeepsShown collation) {} deliveries) :
    Along (deliver collation) (PresenceSound collation) {} deliveries :=
  along_of_admitted AllShown (fun _ _ shown here => ⟨deliver_sound shown here, deliver_shown shown here⟩) empty_shown keeps

def sampleScope (agent : String) : SourceScope :=
  { siteId := "site", assetId := "asset", agentSourceId := agent, collectionSourceId := "windows-uninstall-64" }

/-- A complete snapshot of one agent, with its authority. -/
def sampleSnapshot (agent : String) (observedAt : Time) (recordCount : Nat) : ComponentSourceSnapshot where
  sourceSnapshotId := ⟨agent, sampleScope agent⟩
  canonicalCollectionId := agent
  scope := sampleScope agent
  platform := .windows
  collectionStatus := .complete
  observedAt := observedAt
  recordCount := recordCount
  truncated := false
  errorCode := none
  limitations := []

def sampleHub (observedAt : Time) : Hub where
  configured site := site = "site"
  authority agent := some (boundEndpoint (sampleSnapshot agent observedAt 0))

def agentComponent (agent : String) (observedAt : Time) : NormalizedComponent :=
  { sampleComponent "endpoint-collector" "1.0" observedAt with
    sourceId := agent
    native := some { collectionSourceId := "windows-uninstall-64", sourceRecordId := "record", evidenceMethod := "registry" }
    firstSeen := rfl
    lastSeen := rfl }

def sampleDelivery (agent : String) (observedAt : Time) (reports : Bool) : Hub × Delivery where
  fst := sampleHub observedAt
  snd :=
    { components := if reports then [agentComponent agent observedAt] else []
      completeAssets := []
      sourceSnapshots := [sampleSnapshot agent observedAt (if reports then 1 else 0)]
      oneSource := by simp
      admitted := by split <;> simp }

theorem presence_sound_sample :
    Along (deliver compare) (PresenceSound compare) {} [sampleDelivery "a" 10 true, sampleDelivery "a" 20 false] := by
  apply presence_sound
  refine ⟨⟨fun _ => ⟨fun _ item member _ => ?_, nofun⟩, fun _ => by decide⟩,
    ⟨fun _ => ⟨fun _ item member _ => ?_, nofun⟩, fun _ => by decide⟩, trivial⟩
  · rw [List.mem_singleton.mp member]
    exact .inr ⟨_, List.mem_singleton_self _, rfl, rfl⟩
  · cases member

/-- After one agent omitted a component, an earlier sighting by another one arrives and is recorded, but the component
stays inactive. -/
theorem late_sighting_hidden :
    let store := [sampleDelivery "a" 10 true, sampleDelivery "a" 20 false, sampleDelivery "b" 15 true].foldl (deliver compare) {}
    anyActive store.presences sampleId = true ∧ (store.components.get? sampleId).map (·.active) = some false := by
  decide

end OpenAssetWatch.Component
