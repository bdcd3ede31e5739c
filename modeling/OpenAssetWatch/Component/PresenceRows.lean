import OpenAssetWatch.Component.Convergence
import OpenAssetWatch.Component.Presence
import OpenAssetWatch.Library.Run

namespace OpenAssetWatch.Component

open Library Library.Run

def IsShown (components : ComponentTable) (id : ComponentId) : Prop :=
  ∃ row, components.get? id = some row ∧ row.active = true

section

variable {collation : String → String → Ordering} {id : ComponentId} {components : List NormalizedComponent}
  {state : Persisted} {scope : CompleteAsset}

theorem observe_active {stored : Option ComponentRow} {observations : List NormalizedComponent}
    (shown : (∃ row, stored = some row ∧ row.active = true) ∨
      ∃ component ∈ observations, replaces collation stored component = true) :
    ∃ row, observe collation stored observations = some row ∧ row.active = true := by
  induction observations generalizing stored with
  | nil =>
    rcases shown with shown | ⟨component, impossible, -⟩
    · exact shown
    · cases impossible
  | cons component rest ih =>
    rw [observe_cons]
    by_cases first : replaces collation stored component = true
    · rw [if_pos first]
      apply ih
      left
      cases stored with
      | none => exact ⟨_, rfl, rfl⟩
      | some row => exact ⟨_, rfl, rfl⟩
    · rw [if_neg first]
      apply ih
      rcases shown with shown | ⟨other, member, replaced⟩
      · exact .inl shown
      · rcases List.mem_cons.mp member with rfl | later
        · exact absurd replaced first
        · exact .inr ⟨other, later, replaced⟩

theorem omitRows_row : (omitRows components state scope).rows.get? id = state.rows.get? id ∨
    ∃ row, state.rows.get? id = some row ∧ omitsRow components scope (id, row) = true ∧
      (omitRows components state scope).rows.get? id = some (omittedRow scope.observedAt row) := by
  have distinct : (((state.rows.entries.filter (omitsRow components scope)).take maxComponentsPerAsset).map Prod.fst).Nodup :=
    (state.rows.nodup_filter_keys _).sublist ((List.take_sublist _ _).map Prod.fst)
  have turns := foldl_at_key (fun id (state : Persisted) => state.rows.get? id) Prod.fst (omitRow scope)
    (fun entry row => some (omittedRow scope.observedAt (row.getD entry.2)))
    (fun state entry => Dict.get?_update_self ..) (fun state entry other apart => Dict.get?_update_ne _ apart _)
    _ distinct state id
  rw [omitRows, turns]
  cases found : List.find? (fun entry => entry.1 = id)
      ((state.rows.entries.filter (omitsRow components scope)).take maxComponentsPerAsset) with
  | none => exact .inl rfl
  | some entry =>
    have same : entry.1 = id := by simpa using List.find?_some found
    obtain ⟨stored, selected⟩ := List.mem_filter.mp (List.mem_of_mem_take (List.mem_of_find?_eq_some found))
    obtain ⟨key, row⟩ := entry
    have here := (state.rows.get?_eq_some key row).mpr stored
    cases same
    refine .inr ⟨row, here, selected, ?_⟩
    simp only [Option.elim_some, here, Option.getD_some]

theorem omitRows_kept {completeAssets : List CompleteAsset} {row : ComponentRow} (stored : state.rows.get? id = some row)
    (kept : ∀ scope ∈ completeAssets, omitsRow components scope (id, row) = false) :
    (completeAssets.foldl (omitRows components) state).rows.get? id = some row := by
  induction completeAssets generalizing state with
  | nil => exact stored
  | cons scope rest ih =>
    rw [List.foldl_cons]
    refine ih ?_ fun other member => kept other (List.mem_cons_of_mem _ member)
    rcases (omitRows_row : _ ∨ _) with same | ⟨other, here, selected, -⟩
    · rw [same]
      exact stored
    · rw [stored] at here
      cases here
      rw [kept scope List.mem_cons_self] at selected
      cases selected

variable (components) in
theorem omitRows_only (completeAssets : List CompleteAsset) (shown : IsShown state.rows id) :
    IsShown (completeAssets.foldl (omitRows components) state).rows id ∨
      ∃ scope ∈ completeAssets, scope.siteId = id.siteId ∧ scope.assetId = id.assetId := by
  induction completeAssets generalizing state with
  | nil => exact .inl shown
  | cons scope rest ih =>
    rw [List.foldl_cons]
    rcases (omitRows_row : _ ∨ _) with same | ⟨row, -, selected, -⟩
    · have next : IsShown (omitRows components state scope).rows id := by
        rw [IsShown, same]
        exact shown
      rcases ih next with still | ⟨other, member, here⟩
      · exact .inl still
      · exact .inr ⟨other, List.mem_cons_of_mem _ member, here⟩
    · simp only [omitsRow, CompleteAsset.covers, Bool.and_eq_true, beq_iff_eq] at selected
      exact .inr ⟨scope, List.mem_cons_self, selected.1.1.1.1.1.symm, selected.1.1.1.1.2.symm⟩

/-- What a delivery may not do to rows that it would show, or that other sources show. -/
structure RowsShown (collation : String → String → Ordering) (store : ComponentStore) (delivery : Delivery) : Prop where
  refreshed : delivery.sourceSnapshots ≠ [] → ∀ item ∈ nativeComponents delivery.components,
    presenceApplies (store.presences.get? item.1) item.2.1 = true → IsShown store.components item.1.componentId ∨
      ∃ component ∈ delivery.components, component.componentId = item.1.componentId ∧
        replaces collation (store.components.get? item.1.componentId) component = true
  spared : ∀ scope ∈ delivery.completeAssets, ∀ id row, store.components.get? id = some row →
    scope.covers id row.sourceId = true → row.observedAt ≤ scope.observedAt →
    (∀ component ∈ delivery.components, component.componentId ≠ id) → anyActive store.presences id = false

theorem bounded_delivery (delivery : Delivery) : bounded delivery.components = delivery.components :=
  List.take_of_length_le (delivery.admitted.trans (by decide))

theorem anyActive_iff {presences : Dict PresenceKey PresenceRow} : anyActive presences id = true ↔
    ∃ key row, presences.get? key = some row ∧ row.active = true ∧ key.componentId = id := by
  simp only [anyActive, List.any_eq_true, Prod.exists, Bool.and_eq_true, beq_iff_eq, Dict.get?_eq_some]
  exact exists_congr fun key => exists_congr fun row => and_congr_right fun _ => and_comm

theorem mem_native {item : PresenceKey × NormalizedComponent × NativeReference} (member : item ∈ nativeComponents components) :
    item.2.1 ∈ components ∧ item.2.1.componentId = item.1.componentId := by
  obtain ⟨component, listed, named⟩ := List.mem_filterMap.mp member
  obtain ⟨native, -, rfl⟩ := Option.map_eq_some_iff.mp named
  exact ⟨listed, rfl⟩

theorem persisted_shown {store : ComponentStore} {delivery : Delivery} (shown : RowsShown collation store delivery)
    (sound : ∀ id, anyActive store.presences id = true → IsShown store.components id)
    (due : anyActive store.presences id = true ∨ (delivery.sourceSnapshots ≠ [] ∧
      ∃ item ∈ nativeComponents delivery.components, item.1.componentId = id ∧
        presenceApplies (store.presences.get? item.1) item.2.1 = true)) :
    IsShown (persistComponents collation delivery.components delivery.completeAssets store.components).rows id := by
  have turns : ((bounded delivery.components).foldl (persistComponent collation) { rows := store.components }).rows.get? id =
      observe collation (store.components.get? id) (delivery.components.filter (·.componentId = id)) := by
    rw [bounded_delivery, persistComponent_row]
  have refreshed : IsShown store.components id ∨ ∃ component ∈ delivery.components.filter (·.componentId = id),
      replaces collation (store.components.get? id) component = true := by
    rcases due with active | ⟨snapshots, item, member, here, applies⟩
    · exact .inl (sound id active)
    · rcases shown.refreshed snapshots item member applies with now | ⟨component, listed, same, replaced⟩
      · exact .inl (here ▸ now)
      · rw [here] at same replaced
        exact .inr ⟨component, List.mem_filter.mpr ⟨listed, decide_eq_true same⟩, replaced⟩
  obtain ⟨row, observed, active⟩ := observe_active refreshed
  refine ⟨row, omitRows_kept (turns.trans observed) fun scope member => ?_, active⟩
  by_contra selected
  simp only [Bool.not_eq_false, omitsRow, Bool.and_eq_true, decide_eq_true_eq, Bool.not_eq_true'] at selected
  obtain ⟨⟨⟨covers, -⟩, older⟩, unlisted⟩ := selected
  have place := covers
  simp only [CompleteAsset.covers, Bool.and_eq_true, beq_iff_eq] at place
  by_cases reported : ∃ component ∈ delivery.components, component.componentId = id
  · obtain ⟨component, listed, rfl⟩ := reported
    have source := delivery.oneSource scope member component listed place.1.1 place.1.2
    have here : component.componentId ∈ observedIds delivery.components scope := by
      rw [observedIds, bounded_delivery]
      refine List.mem_map.mpr ⟨component, List.mem_filter.mpr ⟨listed, ?_⟩, rfl⟩
      simp only [CompleteAsset.covers, place.1.1, place.1.2, source, beq_self_eq_true, Bool.and_self]
    rw [List.contains_iff_mem.mpr here] at unlisted
    cases unlisted
  · have unreported : ∀ component ∈ delivery.components, component.componentId ≠ id :=
      fun component listed same => reported ⟨component, listed, same⟩
    have none_observed : delivery.components.filter (·.componentId = id) = [] := by
      rw [List.filter_eq_nil_iff]
      exact fun component listed same => unreported component listed (of_decide_eq_true same)
    rw [none_observed] at observed
    have hidden := shown.spared scope member id row observed covers older unreported
    rcases due with active | ⟨-, item, listed, here, -⟩
    · rw [hidden] at active
      cases active
    · obtain ⟨reported, same⟩ := mem_native listed
      exact unreported _ reported (same.trans here)

end

section

variable {snapshots : List ComponentSourceSnapshot} {items : List (PresenceKey × NormalizedComponent × NativeReference)}
  {presences : Dict PresenceKey PresenceRow} {key : PresenceKey}

def upsertTurn (snapshots : List ComponentSourceSnapshot) (item : PresenceKey × NormalizedComponent × NativeReference)
    (stored : Option PresenceRow) : Option PresenceRow :=
  match snapshots.find? (·.scope = item.1.scope) with
  | none => stored
  | some snapshot =>
    if presenceApplies stored item.2.1 then
      some (upsertedPresence stored item.2.1 item.2.2 snapshot.sourceSnapshotId)
    else stored

theorem upserts_row : (items.foldl (upsertSourcePresence snapshots) presences).get? key =
    (items.filter (·.1 = key)).foldl (fun stored item => upsertTurn snapshots item stored) (presences.get? key) := by
  refine foldl_turns_at_key (fun key (presences : Dict PresenceKey PresenceRow) => presences.get? key) Prod.fst
    (upsertSourcePresence snapshots) (upsertTurn snapshots) ?_ ?_ items presences key
  · intro presences item
    simp only [upsertSourcePresence, upsertTurn]
    cases snapshots.find? (·.scope = item.1.scope) with
    | none => rfl
    | some snapshot =>
      by_cases applies : presenceApplies (presences.get? item.1) item.2.1 = true
      · simp only [if_pos applies, Dict.set, Dict.get?_update_self]
      · simp only [if_neg applies]
  · intro presences item other apart
    simp only [upsertSourcePresence]
    split
    · rfl
    · split
      · simp only [Dict.set, Dict.get?_update_ne _ apart]
      · rfl

theorem upserts_absent (absent : ∀ item ∈ items, item.1 ≠ key) :
    (items.foldl (upsertSourcePresence snapshots) presences).get? key = presences.get? key := by
  have unnamed : items.filter (·.1 = key) = [] := by
    rw [List.filter_eq_nil_iff]
    exact fun item member same => absent item member (of_decide_eq_true same)
  rw [upserts_row, unnamed]
  rfl

theorem upserted_active (stored : Option PresenceRow) (component : NormalizedComponent) (native : NativeReference)
    (id : SnapshotId) : (upsertedPresence stored component native id).active = true := by
  cases stored <;> rfl

variable (snapshots items) in
theorem upserts_kept {row : PresenceRow} (stored : presences.get? key = some row) (active : row.active = true) :
    ∃ row', (items.foldl (upsertSourcePresence snapshots) presences).get? key = some row' ∧ row'.active = true := by
  rw [upserts_row, stored]
  clear stored
  induction items.filter (·.1 = key) generalizing row with
  | nil => exact ⟨row, rfl, active⟩
  | cons item rest ih =>
    rw [List.foldl_cons, upsertTurn]
    split
    · exact ih active
    · split
      · exact ih (upserted_active ..)
      · exact ih active

theorem unapplied_turns {stored : Option PresenceRow} (unapplied : ∀ item ∈ items, presenceApplies stored item.2.1 = false) :
    items.foldl (fun stored item => upsertTurn snapshots item stored) stored = stored := by
  induction items with
  | nil => rfl
  | cons item rest ih =>
    have turn : upsertTurn snapshots item stored = stored := by
      simp only [upsertTurn, unapplied item List.mem_cons_self, Bool.false_eq_true, if_false]
      split <;> rfl
    rw [List.foldl_cons, turn]
    exact ih fun other later => unapplied other (List.mem_cons_of_mem _ later)

theorem upserts_active {row : PresenceRow} (shown : (items.foldl (upsertSourcePresence snapshots) presences).get? key = some row)
    (active : row.active = true) : (∃ row, presences.get? key = some row ∧ row.active = true) ∨
      ∃ item ∈ items, item.1 = key ∧ presenceApplies (presences.get? key) item.2.1 = true := by
  by_cases applied : ∃ item ∈ items, item.1 = key ∧ presenceApplies (presences.get? key) item.2.1 = true
  · exact .inr applied
  · left
    refine ⟨row, ?_, active⟩
    have unapplied : ∀ item ∈ items.filter (·.1 = key), presenceApplies (presences.get? key) item.2.1 = false := by
      intro item member
      obtain ⟨listed, same⟩ := List.mem_filter.mp member
      exact Bool.eq_false_iff.mpr fun applies => applied ⟨item, listed, of_decide_eq_true same, applies⟩
    rw [upserts_row, unapplied_turns unapplied] at shown
    exact shown

end

section

variable {snapshot : ComponentSourceSnapshot} {observed : List ComponentId} {store : ComponentStore} {key : PresenceKey}
  {id : ComponentId}

/-- A component is active while a source shows it. -/
def AllShown (store : ComponentStore) : Prop :=
  ∀ id, anyActive store.presences id = true → IsShown store.components id

theorem omitComponent_row (components : ComponentTable) (time : Time) {other : ComponentId} (apart : other ≠ id) :
    (omitComponent components id time).get? other = components.get? other := by
  simp only [omitComponent]
  split
  · rfl
  · split
    · simp only [Dict.set, Dict.get?_update_ne _ apart]
    · rfl

theorem withdraw_presence (entry : PresenceKey × PresenceRow) :
    (withdraw snapshot store entry).presences.get? key =
      if key = entry.1 then some (withdrawnPresence snapshot entry.2) else store.presences.get? key := by
  simp only [withdraw, Dict.set, Dict.get?_update]

theorem withdraw_component (entry : PresenceKey × PresenceRow) :
    (withdraw snapshot store entry).components.get? id = store.components.get? id ∨
      entry.1.componentId = id ∧ anyActive (withdraw snapshot store entry).presences id = false := by
  by_cases here : entry.1.componentId = id
  · cases active : anyActive (withdraw snapshot store entry).presences id with
    | false => exact .inr ⟨here, rfl⟩
    | true =>
      left
      rw [← here] at active
      simp only [withdraw] at active ⊢
      rw [if_pos active]
  · left
    simp only [withdraw]
    split
    · rfl
    · exact omitComponent_row _ _ fun same => here same.symm

theorem withdraw_shown {entry : PresenceKey × PresenceRow} (shown : AllShown store) : AllShown (withdraw snapshot store entry) := by
  intro id active
  rcases (withdraw_component entry : _ ∨ _) with same | ⟨-, hidden⟩
  · rw [IsShown, same]
    apply shown
    obtain ⟨key, row, stored, on, here⟩ := anyActive_iff.mp active
    rw [withdraw_presence] at stored
    split at stored
    · cases stored
      cases on
    · exact anyActive_iff.mpr ⟨key, row, stored, on, here⟩
  · rw [hidden] at active
    cases active

theorem withdraw_fold {entries : List (PresenceKey × PresenceRow)} (distinct : (entries.map Prod.fst).Nodup) :
    (entries.foldl (withdraw snapshot) store).presences.get? key =
      (entries.find? (·.1 = key)).elim (store.presences.get? key) fun entry => some (withdrawnPresence snapshot entry.2) :=
  foldl_at_key (fun key (store : ComponentStore) => store.presences.get? key) Prod.fst (withdraw snapshot)
    (fun entry _ => some (withdrawnPresence snapshot entry.2))
    (fun store entry => by rw [withdraw_presence, if_pos rfl])
    (fun store entry other apart => by rw [withdraw_presence, if_neg apart]) entries distinct store key

def omitted (snapshot : ComponentSourceSnapshot) (observed : List ComponentId) (presences : Dict PresenceKey PresenceRow) : Nat :=
  presences.entries.countP fun (key, row) => omitsPresence snapshot observed key row

def isWithdrawn (snapshot : ComponentSourceSnapshot) (observed : List ComponentId) (key : PresenceKey) (row : PresenceRow) : Bool :=
  snapshot.collectionStatus == .complete && omitsPresence snapshot observed key row

theorem apply_presence (few : snapshot.collectionStatus = .complete →
      omitted snapshot observed store.presences ≤ maxComponentsPerAsset) :
    (applyCompleteSourceSnapshot snapshot observed store).presences.get? key =
      (store.presences.get? key).map fun row =>
        if isWithdrawn snapshot observed key row then withdrawnPresence snapshot row else row := by
  rw [applyCompleteSourceSnapshot]
  by_cases complete : snapshot.collectionStatus = .complete
  · have whole : (store.presences.entries.filter fun (key, row) => omitsPresence snapshot observed key row).take
        maxComponentsPerAsset = store.presences.entries.filter fun (key, row) => omitsPresence snapshot observed key row := by
      have bound := few complete
      rw [omitted, List.countP_eq_length_filter] at bound
      exact List.take_of_length_le bound
    rw [if_neg (not_not.mpr complete), whole, withdraw_fold (store.presences.nodup_filter_keys _), Dict.find?_filter_entries]
    cases store.presences.get? key with
    | none => rfl
    | some row =>
      simp only [isWithdrawn, complete, beq_self_eq_true, Bool.true_and, Option.bind_some, Option.map_some]
      by_cases omits : omitsPresence snapshot observed key row = true
      · rw [if_pos omits, if_pos omits]
        rfl
      · rw [if_neg omits, if_neg omits]
        rfl
  · have other : (snapshot.collectionStatus == .complete) = false := beq_eq_false_iff_ne.mpr complete
    rw [if_pos complete]
    simp only [isWithdrawn, other, Bool.false_and, Bool.false_eq_true, if_false, Option.map_id']

theorem apply_shown (shown : AllShown store) : AllShown (applyCompleteSourceSnapshot snapshot observed store) := by
  rw [applyCompleteSourceSnapshot]
  split
  · exact shown
  · induction (store.presences.entries.filter fun (key, row) => omitsPresence snapshot observed key row).take
        maxComponentsPerAsset generalizing store with
    | nil => exact shown
    | cons entry rest ih => exact ih (withdraw_shown shown)

end

end OpenAssetWatch.Component
