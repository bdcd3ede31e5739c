import OpenAssetWatch.Agent.InventoryRefinement

namespace OpenAssetWatch.Agent

open Sensor Text
open Sensor.GoString (ofText)

section Loop

variable {beyond : Char → Char} {state : Finalizing} {component : SoftwareComponent} {starts : List SoftwareSourceResult}
  {done : List SoftwareComponent}

/-- The component has a name and a record. -/
def IsFormed (component : SoftwareComponent) : Prop := component.name ≠ [] ∧ component.sourceRecordId ≠ []

/-- The source of the component is there and reports something. -/
def IsReported (starts : List SoftwareSourceResult) (component : SoftwareComponent) : Prop :=
  ∃ start ∈ starts, start.sourceId = component.collectionSource ∧ start.status.isUnsuccessful = false

/-- What the loop keeps of any sources and components. -/
structure Accounting (beyond : Char → Char) (starts : List SoftwareSourceResult) (done : List SoftwareComponent) (state : Finalizing) :
    Prop where
  sourceIds : state.sources.map (·.sourceId) = starts.map (·.sourceId)
  status : ∀ source ∈ state.sources, ∀ start ∈ starts, start.sourceId = source.sourceId →
    source.status.isUnsuccessful = start.status.isUnsuccessful
  counted : ∀ source ∈ state.sources, source.recordCount = state.components.countP (·.collectionSource = source.sourceId)
  few : state.components.length ≤ maxPackages
  seen : ∀ key, key ∈ state.seen ↔ key ∈ state.components.map (componentKey beyond)
  distinct : (state.components.map (componentKey beyond)).Nodup
  kept : ∀ component ∈ state.components, component ∈ done ∧ IsFormed component ∧ IsReported starts component
  room : ∀ component ∈ done, IsFormed component → IsReported starts component →
    componentKey beyond component ∈ state.seen ∨ maxPackages ≤ state.components.length
  complete : ∀ source ∈ state.sources, ∀ start ∈ starts, start.sourceId = source.sourceId →
    (source.status = .complete ↔ start.status = .complete ∧ ∀ component ∈ done, component.collectionSource = source.sourceId →
      IsFormed component ∧ componentKey beyond component ∈ state.seen)

theorem markPartial_not_complete {limitation : String} {source : SoftwareSourceResult} :
    (markPartial beyond limitation source).status ≠ .complete := by
  unfold markPartial
  split
  case isTrue unsuccessful =>
    intro complete
    rw [complete] at unsuccessful
    cases unsuccessful
  case isFalse => exact fun impossible => by cases impossible

theorem Accounting.passed (accounting : Accounting beyond starts done state) (distinct : (starts.map (·.sourceId)).Nodup)
    (component : SoftwareComponent) (change : SoftwareSourceResult → SoftwareSourceResult)
    (ids : ∀ source, (change source).sourceId = source.sourceId ∧ (change source).recordCount = source.recordCount ∧
      (change source).status.isUnsuccessful = source.status.isUnsuccessful)
    (room : IsFormed component → IsReported starts component →
      componentKey beyond component ∈ state.seen ∨ maxPackages ≤ state.components.length)
    (complete : ∀ source ∈ state.sources, ∀ start ∈ starts, start.sourceId = source.sourceId →
      source.sourceId = component.collectionSource → ((change source).status = .complete ↔
        source.status = .complete ∧ IsFormed component ∧ componentKey beyond component ∈ state.seen)) :
    Accounting beyond starts (done ++ [component])
      { state with sources := updateSource component.collectionSource change state.sources } := by
  have listed : (state.sources.map (·.sourceId)).Nodup := by
    rw [accounting.sourceIds]
    exact distinct
  rw [updateSource_eq_map listed]
  have kept (source : SoftwareSourceResult) :
      (if source.sourceId = component.collectionSource then change source else source).sourceId = source.sourceId ∧
      (if source.sourceId = component.collectionSource then change source else source).recordCount = source.recordCount ∧
      (if source.sourceId = component.collectionSource then change source else source).status.isUnsuccessful =
        source.status.isUnsuccessful := by
    split
    · exact ids source
    · exact ⟨rfl, rfl, rfl⟩
  refine ⟨?_, ?_, ?_, accounting.few, accounting.seen, accounting.distinct, ?_, ?_, ?_⟩
  · show (state.sources.map _).map _ = _
    rw [List.map_map, ← accounting.sourceIds]
    exact List.map_congr_left fun source _ => (kept source).1
  · intro source' member start first same
    obtain ⟨source, old, rfl⟩ := List.mem_map.mp member
    rw [(kept source).2.2]
    exact accounting.status source old start first (same.trans (kept source).1)
  · intro source' member
    obtain ⟨source, old, rfl⟩ := List.mem_map.mp member
    rw [(kept source).1, (kept source).2.1]
    exact accounting.counted source old
  · intro item member
    obtain ⟨old, facts⟩ := accounting.kept item member
    exact ⟨List.mem_append_left _ old, facts⟩
  · intro item member formed reported
    rcases List.mem_append.mp member with old | last
    · exact accounting.room item old formed reported
    · rw [List.mem_singleton.mp last] at formed reported ⊢
      exact room formed reported
  · intro source' member start first same
    obtain ⟨source, old, rfl⟩ := List.mem_map.mp member
    rw [(kept source).1] at same ⊢
    have before := accounting.complete source old start first same
    have all : (∀ item ∈ done ++ [component], item.collectionSource = source.sourceId →
        IsFormed item ∧ componentKey beyond item ∈ state.seen) ↔
        (∀ item ∈ done, item.collectionSource = source.sourceId → IsFormed item ∧ componentKey beyond item ∈ state.seen) ∧
        (component.collectionSource = source.sourceId → IsFormed component ∧ componentKey beyond component ∈ state.seen) := by
      rw [List.forall_mem_append, List.forall_mem_singleton]
    rw [all]
    split
    case isTrue own =>
      rw [complete source old start first same own, before, and_assoc]
      constructor
      · exact fun facts => ⟨facts.1, facts.2.1, fun _ => facts.2.2⟩
      · exact fun facts => ⟨facts.1, facts.2.1, facts.2.2 own.symm⟩
    case isFalse other =>
      rw [before]
      constructor
      · exact fun facts => ⟨facts.1, facts.2, fun own => absurd own.symm other⟩
      · exact fun facts => ⟨facts.1, facts.2.1⟩

theorem Accounting.taken (accounting : Accounting beyond starts done state) (distinct : (starts.map (·.sourceId)).Nodup)
    (formed : IsFormed component) (reported : IsReported starts component) (new : componentKey beyond component ∉ state.seen)
    (room : state.components.length < maxPackages) :
    Accounting beyond starts (done ++ [component])
      { sources := updateSource component.collectionSource (fun source => { source with recordCount := source.recordCount + 1 })
          state.sources
        components := state.components ++ [component]
        seen := componentKey beyond component :: state.seen } := by
  have listed : (state.sources.map (·.sourceId)).Nodup := by
    rw [accounting.sourceIds]
    exact distinct
  rw [updateSource_eq_map listed]
  have kept (source : SoftwareSourceResult) :
      (if source.sourceId = component.collectionSource then { source with recordCount := source.recordCount + 1 }
        else source).sourceId = source.sourceId ∧
      (if source.sourceId = component.collectionSource then { source with recordCount := source.recordCount + 1 }
        else source).status = source.status := by
    split <;> exact ⟨rfl, rfl⟩
  refine ⟨?_, ?_, ?_, ?_, ?_, ?_, ?_, ?_, ?_⟩
  · show (state.sources.map _).map _ = _
    rw [List.map_map, ← accounting.sourceIds]
    exact List.map_congr_left fun source _ => (kept source).1
  · intro source' member start first same
    obtain ⟨source, old, rfl⟩ := List.mem_map.mp member
    rw [(kept source).2]
    exact accounting.status source old start first (same.trans (kept source).1)
  · intro source' member
    obtain ⟨source, old, rfl⟩ := List.mem_map.mp member
    rw [(kept source).1, List.countP_append, List.countP_singleton, ← accounting.counted source old]
    by_cases own : component.collectionSource = source.sourceId
    · rw [if_pos own.symm, if_pos (decide_eq_true own)]
    · rw [if_neg fun same => own same.symm, if_neg fun same => own (of_decide_eq_true same), Nat.add_zero]
  · show (state.components ++ [component]).length ≤ _
    rw [List.length_append, List.length_singleton]
    exact room
  · intro key
    rw [List.mem_cons, List.map_append, List.mem_append, accounting.seen, List.map_singleton, List.mem_singleton, or_comm]
  · rw [List.map_append, List.nodup_append]
    refine ⟨accounting.distinct, List.nodup_singleton _, ?_⟩
    intro key member other single same
    rw [List.map_singleton, List.mem_singleton] at single
    exact new ((accounting.seen _).mpr (single ▸ same ▸ member))
  · intro item member
    rcases List.mem_append.mp member with old | last
    · obtain ⟨before, facts⟩ := accounting.kept item old
      exact ⟨List.mem_append_left _ before, facts⟩
    · rw [List.mem_singleton.mp last]
      exact ⟨List.mem_append_right _ (List.mem_singleton_self _), formed, reported⟩
  · intro item member formed' reported'
    rcases List.mem_append.mp member with old | last
    · rcases accounting.room item old formed' reported' with seen | full
      · exact Or.inl (List.mem_cons_of_mem _ seen)
      · exact absurd room (not_lt.mpr full)
    · rw [List.mem_singleton.mp last]
      exact Or.inl List.mem_cons_self
  · intro source' member start first same
    obtain ⟨source, old, rfl⟩ := List.mem_map.mp member
    rw [(kept source).1] at same ⊢
    rw [(kept source).2, accounting.complete source old start first same]
    constructor
    · rintro ⟨complete, all⟩
      refine ⟨complete, ?_⟩
      rw [List.forall_mem_append, List.forall_mem_singleton]
      refine ⟨fun item before own => ?_, fun _ => ⟨formed, List.mem_cons_self⟩⟩
      exact ⟨(all item before own).1, List.mem_cons_of_mem _ (all item before own).2⟩
    · rintro ⟨complete, all⟩
      refine ⟨complete, fun item before own => ?_⟩
      have formed' := (all item (List.mem_append_left _ before) own).1
      have successful : start.status.isUnsuccessful = false := by rw [complete]; rfl
      -- There was room until now, so that whatever is formed was seen before.
      rcases accounting.room item before formed' ⟨start, first, same.trans own.symm, successful⟩ with seen | full
      · exact ⟨formed', seen⟩
      · exact absurd room (not_lt.mpr full)

theorem Accounting.take (accounting : Accounting beyond starts done state) (distinct : (starts.map (·.sourceId)).Nodup)
    (component : SoftwareComponent) : Accounting beyond starts (done ++ [component]) (state.take beyond component) := by
  have listed : (state.sources.map (·.sourceId)).Nodup := by
    rw [accounting.sourceIds]
    exact distinct
  have same : updateSource component.collectionSource id state.sources = state.sources := by
    rw [updateSource_eq_map listed]
    simp
  have partially (limitation : String) (source : SoftwareSourceResult) :
      (markPartial beyond limitation source).sourceId = source.sourceId ∧
      (markPartial beyond limitation source).recordCount = source.recordCount ∧
      (markPartial beyond limitation source).status.isUnsuccessful = source.status.isUnsuccessful :=
    ⟨(markPartial_unchanged limitation source).1, (markPartial_unchanged limitation source).2,
      isUnsuccessful_markPartial limitation source⟩
  have passes := accounting.passed distinct component id fun _ => ⟨rfl, rfl, rfl⟩
  rw [same] at passes
  unfold Finalizing.take
  cases found : sourceNamed component.collectionSource state.sources with
  | none =>
    have absent (source : SoftwareSourceResult) (member : source ∈ state.sources) :
        source.sourceId ≠ component.collectionSource := by
      intro own
      have present := sourceNamed_isSome member own
      rw [found] at present
      cases present
    apply passes
    · rintro _ ⟨start, first, own, -⟩
      obtain ⟨source, member, same⟩ := List.mem_map.mp (accounting.sourceIds ▸ List.mem_map_of_mem first)
      exact absurd (same.trans own) (absent source member)
    · exact fun source member start first _ own => absurd own (absent source member)
  | some source =>
    obtain ⟨member, own⟩ := sourceNamed_eq_some found
    dsimp only
    have only {other : SoftwareSourceResult} (member' : other ∈ state.sources) (own' : other.sourceId = component.collectionSource) :
        other = source := List.inj_on_of_nodup_map listed member' member (own'.trans own.symm)
    obtain ⟨start, first, named⟩ := List.mem_map.mp (accounting.sourceIds ▸ List.mem_map_of_mem member :
      source.sourceId ∈ starts.map (·.sourceId))
    have status := accounting.status source member start first named
    split
    case isTrue unsuccessful =>
      apply passes
      · rintro _ ⟨start', first', own', successful⟩
        rw [List.inj_on_of_nodup_map distinct first' first (own'.trans (own.symm.trans named.symm)), ← status, unsuccessful] at successful
        cases successful
      · intro other member' _ _ _ own'
        rw [only member' own']
        have other : source.status ≠ .complete := by
          intro complete
          rw [complete] at unsuccessful
          cases unsuccessful
        exact ⟨fun complete => absurd complete other, fun facts => absurd facts.1 other⟩
    case isFalse successful =>
      have reported : IsReported starts component :=
        ⟨start, first, named.trans own, by rw [← status]; exact Bool.eq_false_iff.mpr successful⟩
      split
      case isTrue empty =>
        have malformed : ¬IsFormed component := fun formed => empty.elim formed.1 formed.2
        apply accounting.passed distinct component _ (partially _)
        · exact fun formed => absurd formed malformed
        · exact fun other _ _ _ _ _ =>
            ⟨fun complete => absurd complete markPartial_not_complete, fun facts => absurd facts.2.1 malformed⟩
      case isFalse full =>
        have formed : IsFormed component := not_or.mp full
        split
        case isTrue seen =>
          apply passes
          · exact fun _ _ => Or.inl seen
          · exact fun other _ _ _ _ _ => ⟨fun complete => ⟨complete, formed, seen⟩, fun facts => facts.1⟩
        case isFalse new =>
          split
          case isTrue limit =>
            apply accounting.passed distinct component
              (fun source => { markPartial beyond "package-count-limit" source with truncated := true })
              fun other => partially "package-count-limit" other
            · exact fun _ _ => Or.inr limit
            · exact fun other _ _ _ _ _ =>
                ⟨fun complete => absurd complete markPartial_not_complete, fun facts => absurd facts.2.2 new⟩
          case isFalse limit => exact accounting.taken distinct formed reported new (not_le.mp limit)

theorem Accounting.foldl (accounting : Accounting beyond starts done state) (distinct : (starts.map (·.sourceId)).Nodup)
    (items : List SoftwareComponent) : Accounting beyond starts (done ++ items) (items.foldl (Finalizing.take beyond) state) := by
  induction items generalizing done state with
  | nil =>
    rw [List.append_nil]
    exact accounting
  | cons item rest ih =>
    have next := ih (accounting.take distinct item)
    rw [List.append_assoc] at next
    exact next

end Loop

section Results

variable (sorting : SliceSort) (beyond : Char → Char) (result : PlatformResult) (observedAt : Time)

/-- The sources as `finalize` begins with them. -/
def boundedSources : List SoftwareSourceResult := result.sources.map (boundedSource beyond · observedAt)

theorem accounting_start (distinct : ((boundedSources beyond result observedAt).map (·.sourceId)).Nodup) :
    Accounting beyond (boundedSources beyond result observedAt) [] { sources := boundedSources beyond result observedAt } where
  sourceIds := rfl
  status source member start first same := by rw [List.inj_on_of_nodup_map distinct first member same]
  counted source member := by
    obtain ⟨source, -, rfl⟩ := List.mem_map.mp member
    rfl
  few := Nat.zero_le _
  seen key := by rw [List.map_nil]
  distinct := List.nodup_nil
  kept component member := by cases member
  room component member := by cases member
  complete source member start first same := by
    rw [List.inj_on_of_nodup_map distinct first member same]
    exact ⟨fun complete => ⟨complete, by simp⟩, And.left⟩

/-- What is returned accounts for what was collected: every record is of a component that was collected and of its own, every
source counts its records, and a source is complete when it was and each of its components is there under its key. -/
structure Accounted (components : List SoftwareComponent) (sources : List SoftwareSourceResult) : Prop where
  sourceIds : (sources.map (·.sourceId)).Perm ((boundedSources beyond result observedAt).map (·.sourceId))
  counted : ∀ source ∈ sources, source.recordCount = components.countP (·.collectionSource = source.sourceId)
  few : components.length ≤ maxPackages
  distinct : (components.map (componentKey beyond)).Nodup
  collected : ∀ component ∈ components, IsFormed component ∧ IsReported (boundedSources beyond result observedAt) component ∧
    ∃ item ∈ result.components, component = boundedComponent beyond item observedAt
  complete : ∀ source ∈ sources, ∀ start ∈ boundedSources beyond result observedAt, start.sourceId = source.sourceId →
    (source.status = .complete ↔ start.status = .complete ∧ ∀ item ∈ result.components,
      (boundedComponent beyond item observedAt).collectionSource = source.sourceId →
        IsFormed (boundedComponent beyond item observedAt) ∧
        ∃ component ∈ components, componentKey beyond component = componentKey beyond (boundedComponent beyond item observedAt))

/-- `finalize` accounts for any components of any sources whose identifiers stay apart. -/
theorem finalize_accounted (distinct : ((boundedSources beyond result observedAt).map (·.sourceId)).Nodup) :
    Accounted beyond result observedAt (finalize sorting beyond result observedAt).1
      (finalize sorting beyond result observedAt).2 := by
  have accounting := (accounting_start beyond result observedAt distinct).foldl distinct
    (orderedComponents sorting beyond result observedAt)
  rw [List.nil_append] at accounting
  have components := sorting.perm (componentLess beyond) (finalizing sorting beyond result observedAt).components
  have sources := sorting.perm (fun a b : SoftwareSourceResult => goLess a.sourceId b.sourceId)
    (finalizing sorting beyond result observedAt).sources
  have ordered (component : SoftwareComponent) : component ∈ orderedComponents sorting beyond result observedAt ↔
      ∃ item ∈ result.components, boundedComponent beyond item observedAt = component := by
    rw [orderedComponents, List.mem_map]
    simp only [(sorting.perm (componentLess beyond) result.components).mem_iff]
  refine ⟨?_, ?_, ?_, ?_, ?_, ?_⟩
  · rw [← accounting.sourceIds]
    exact sources.map _
  · intro source member
    rw [accounting.counted source (sources.mem_iff.mp member)]
    exact (components.countP_eq _).symm
  · exact components.length_eq ▸ accounting.few
  · exact (components.map (componentKey beyond)).nodup_iff.mpr accounting.distinct
  · intro component member
    obtain ⟨listed, formed, reported⟩ := accounting.kept component (components.mem_iff.mp member)
    obtain ⟨item, given, same⟩ := (ordered component).mp listed
    exact ⟨formed, reported, item, given, same.symm⟩
  · intro source member start first same
    rw [accounting.complete source (sources.mem_iff.mp member) start first same]
    refine and_congr_right fun _ => ?_
    constructor
    · intro all item given own
      obtain ⟨formed, seen⟩ := all _ ((ordered _).mpr ⟨item, given, rfl⟩) own
      obtain ⟨component, kept, key⟩ := List.mem_map.mp ((accounting.seen _).mp seen)
      exact ⟨formed, component, components.mem_iff.mpr kept, key⟩
    · intro all component listed own
      obtain ⟨item, given, rfl⟩ := (ordered component).mp listed
      obtain ⟨formed, kept, member', key⟩ := all item given own
      exact ⟨formed, (accounting.seen _).mpr (List.mem_map.mpr ⟨kept, components.mem_iff.mp member', key⟩)⟩

theorem goLess_iff {a b : GoString} : goLess a b = true ↔ a.bytes < b.bytes := decide_eq_true_iff

theorem goLess_false {a b : GoString} : goLess a b = false ↔ b.bytes ≤ a.bytes :=
  decide_eq_false_iff_not.trans List.not_lt

theorem goLess_asymm (a b : GoString) (less : goLess a b = true) : goLess b a = false :=
  decide_eq_false (List.lt_asymm (goLess_iff.mp less))

theorem goLess_trans (a b c : GoString) (first : goLess a b = false) (second : goLess b c = false) : goLess a c = false :=
  goLess_false.mpr (List.le_trans (goLess_false.mp second) (goLess_false.mp first))

/-- Components that differ in their sort keys are taken in one order, whatever the order in which they were collected. -/
theorem finalize_order (other : PlatformResult) (sources : other.sources = result.sources)
    (same : other.components.Perm result.components)
    (apart : (result.components.map fun component => (componentOrder beyond component).bytes).Nodup) :
    finalize sorting beyond other observedAt = finalize sorting beyond result observedAt := by
  have sorted (items : List SoftwareComponent) := sorting.sorted (componentLess beyond) items
    (fun a b => goLess_asymm _ _) (fun a b c => goLess_trans _ _ _)
  have ordered : sorting.sort (componentLess beyond) other.components = sorting.sort (componentLess beyond) result.components := by
    have here := sorting.perm (componentLess beyond) result.components
    have there := (sorting.perm (componentLess beyond) other.components).trans same
    apply List.Perm.eq_of_pairwise _ (sorted _) (sorted _) (there.trans here.symm)
    intro a b first second notBefore notAfter
    apply List.inj_on_of_nodup_map apart (there.mem_iff.mp first) (here.mem_iff.mp second)
    exact List.le_antisymm (goLess_false.mp notBefore) (goLess_false.mp notAfter)
  have loops : finalizing sorting beyond other observedAt = finalizing sorting beyond result observedAt := by
    unfold finalizing orderedComponents
    rw [ordered, sources]
  unfold finalize
  rw [loops]

end Results

/-- A source that reports one application for each name. -/
def namedApplications (names : List Char) : PlatformResult where
  components := names.map fun name =>
    { componentType := [], ecosystem := [], name := [.char name], version := [], architecture := [], packageManager := []
      installScope := [], collectionSource := [.char 's'], sourceRecordId := [.char name], evidenceMethod := []
      observedAt := none, confidence := 1 }
  sources := [{ sourceId := [.char 's'], platform := [], status := .complete, observedAt := none }]

theorem finalize_accounted_applications : Accounted id (namedApplications ['b', 'a']) 0
    (finalize stableSort id (namedApplications ['b', 'a']) 0).1 (finalize stableSort id (namedApplications ['b', 'a']) 0).2 :=
  finalize_accounted stableSort id _ 0 (by decide)

theorem finalize_order_applications :
    finalize stableSort id (namedApplications ['b', 'a']) 0 = finalize stableSort id (namedApplications ['a', 'b']) 0 :=
  finalize_order stableSort id _ 0 _ rfl (List.Perm.swap _ _ _) (by decide)

end OpenAssetWatch.Agent
