import OpenAssetWatch.Agent.FinalizeLaw

namespace OpenAssetWatch.Agent

open Sensor Text
open Sensor.GoString (ofText)

section Sources

variable {sources : List SoftwareSourceResult} {source : SoftwareSourceResult} {sourceId : GoString}
  {change : SoftwareSourceResult → SoftwareSourceResult}

theorem sourceNamed_eq_some (found : sourceNamed sourceId sources = some source) : source ∈ sources ∧ source.sourceId = sourceId := by
  induction sources with
  | nil => cases found
  | cons first rest ih =>
    rw [sourceNamed] at found
    cases later : sourceNamed sourceId rest with
    | some other =>
      rw [later] at found
      cases found
      obtain ⟨member, same⟩ := ih later
      exact ⟨List.mem_cons_of_mem _ member, same⟩
    | none =>
      rw [later, Option.none_or] at found
      by_cases own : first.sourceId = sourceId
      · rw [if_pos own] at found
        cases found
        exact ⟨List.mem_cons_self, own⟩
      · rw [if_neg own] at found
        cases found

theorem sourceNamed_isSome (member : source ∈ sources) (own : source.sourceId = sourceId) :
    (sourceNamed sourceId sources).isSome = true := by
  induction sources with
  | nil => cases member
  | cons first rest ih =>
    rw [sourceNamed, Option.isSome_or, Bool.or_eq_true]
    rcases List.mem_cons.mp member with rfl | later
    · right
      rw [if_pos own]
      rfl
    · exact .inl (ih later)

theorem map_of_absent (absent : sourceNamed sourceId sources = none) :
    (sources.map fun source => if source.sourceId = sourceId then change source else source) = sources := by
  have unchanged : ∀ source ∈ sources, (if source.sourceId = sourceId then change source else source) = source := by
    intro source member
    apply if_neg
    intro own
    have present := sourceNamed_isSome member own
    rw [absent] at present
    cases present
  rw [List.map_congr_left unchanged]
  exact List.map_id sources

theorem updateSource_eq_map (distinct : (sources.map (·.sourceId)).Nodup) :
    updateSource sourceId change sources = sources.map fun source => if source.sourceId = sourceId then change source else source := by
  induction sources with
  | nil => rfl
  | cons first rest ih =>
    obtain ⟨fresh, distinct⟩ := List.nodup_cons.mp distinct
    rw [updateSource, List.map_cons]
    cases later : sourceNamed sourceId rest with
    | some other =>
      obtain ⟨member, same⟩ := sourceNamed_eq_some later
      have apart : first.sourceId ≠ sourceId := by
        intro own
        exact fresh (List.mem_map.mpr ⟨other, member, same.trans own.symm⟩)
      rw [if_pos Option.isSome_some, if_neg apart, ih distinct]
    | none =>
      rw [map_of_absent later, if_neg (by simp)]
      split
      · rfl
      · rfl

end Sources

section Loop

variable {beyond : Char → Char} {observedAt : Time} {isOpen : GoString → Bool} {state : Finalizing} {component : SoftwareComponent}

/-- A component that the loop may keep. -/
structure IsKept (observedAt : Time) (isOpen : GoString → Bool) (component : SoftwareComponent) : Prop where
  package : IsPackage dpkg observedAt component ∨ IsPackage rpm observedAt component
  named : component.name ≠ []
  recorded : component.sourceRecordId ≠ []
  fromOpen : isOpen component.collectionSource = true

/-- What the loop keeps of its sources and components. -/
structure Taken (observedAt : Time) (isOpen : GoString → Bool) (state : Finalizing) : Prop where
  sourceIds : state.sources.map (·.sourceId) = [ofText dpkg.sourceId, ofText rpm.sourceId]
  report : ∀ source ∈ state.sources, IsReport observedAt source
  status : ∀ source ∈ state.sources, source.status.isUnsuccessful = !isOpen source.sourceId
  counted : ∀ source ∈ state.sources, source.recordCount = state.components.countP (·.collectionSource = source.sourceId)
  few : state.components.length ≤ maxPackages
  kept : ∀ component ∈ state.components, IsKept observedAt isOpen component

theorem sourceIds_nodup : [ofText dpkg.sourceId, ofText rpm.sourceId].Nodup := by decide

theorem Taken.change (taken : Taken observedAt isOpen state) {sourceId : GoString}
    {change : SoftwareSourceResult → SoftwareSourceResult} {components : List SoftwareComponent} (seen : List GoString)
    (sameId : ∀ source, (change source).sourceId = source.sourceId)
    (sound : ∀ source ∈ state.sources, source.sourceId = sourceId →
      IsReport observedAt (change source) ∧ (change source).status.isUnsuccessful = source.status.isUnsuccessful ∧
        (change source).recordCount = components.countP (·.collectionSource = sourceId))
    (others : ∀ source ∈ state.sources, source.sourceId ≠ sourceId →
      components.countP (·.collectionSource = source.sourceId) = state.components.countP (·.collectionSource = source.sourceId))
    (few : components.length ≤ maxPackages) (kept : ∀ component ∈ components, IsKept observedAt isOpen component) :
    Taken observedAt isOpen ⟨updateSource sourceId change state.sources, components, seen⟩ := by
  have distinct : (state.sources.map (·.sourceId)).Nodup := by
    rw [taken.sourceIds]
    exact sourceIds_nodup
  rw [updateSource_eq_map distinct]
  have each : ∀ source ∈ state.sources.map (fun source => if source.sourceId = sourceId then change source else source),
      IsReport observedAt source ∧ source.status.isUnsuccessful = !isOpen source.sourceId ∧
        source.recordCount = components.countP (·.collectionSource = source.sourceId) := by
    intro source member
    obtain ⟨before, listed, same⟩ := List.mem_map.mp member
    rw [← same]
    by_cases own : before.sourceId = sourceId
    · obtain ⟨report, status, counted⟩ := sound before listed own
      rw [if_pos own, sameId]
      refine ⟨report, status.trans (taken.status before listed), ?_⟩
      rw [counted, own]
    · rw [if_neg own]
      exact ⟨taken.report before listed, taken.status before listed,
        (taken.counted before listed).trans (others before listed own).symm⟩
  constructor
  · rw [← taken.sourceIds, List.map_map]
    apply List.map_congr_left
    intro source _
    show (if source.sourceId = sourceId then change source else source).sourceId = source.sourceId
    split
    · exact sameId source
    · rfl
  · exact fun source member => (each source member).1
  · exact fun source member => (each source member).2.1
  · exact fun source member => (each source member).2.2
  · exact few
  · exact kept

theorem IsReport.markPartial {source : SoftwareSourceResult} (report : IsReport observedAt source) {limitation : String}
    (token : boundedToken beyond (ofText limitation) 120 ≠ []) : IsReport observedAt (markPartial beyond limitation source) := by
  unfold Agent.markPartial
  split
  · exact report
  · constructor
    · exact report.platform
    · exact report.observedAt
    · exact report.errorCode
    · exact length_boundedLimitations beyond _
    · exact fun limitation member => mem_boundedLimitations member
    · exact fun text impossible => by cases impossible
    · exact fun impossible => by cases impossible
    · exact fun _ => .inr (.inr (boundedLimitations_ne_nil (List.mem_append_right _ (List.mem_singleton_self _)) token))
    · exact fun impossible => by cases impossible

theorem isUnsuccessful_markPartial (limitation : String) (source : SoftwareSourceResult) :
    (markPartial beyond limitation source).status.isUnsuccessful = source.status.isUnsuccessful := by
  unfold Agent.markPartial
  split
  · rfl
  · next successful => exact (Bool.eq_false_iff.mpr successful).symm

theorem markPartial_unchanged (limitation : String) (source : SoftwareSourceResult) :
    (markPartial beyond limitation source).sourceId = source.sourceId ∧
      (markPartial beyond limitation source).recordCount = source.recordCount := by
  unfold Agent.markPartial
  split
  · exact ⟨rfl, rfl⟩
  · exact ⟨rfl, rfl⟩

theorem Taken.take (taken : Taken observedAt isOpen state) (package : IsPackage dpkg observedAt component ∨ IsPackage rpm observedAt component) :
    Taken observedAt isOpen (state.take beyond component) := by
  have malformed : boundedToken beyond (ofText "malformed-records-skipped") 120 ≠ [] := by
    rw [boundedToken_ofText beyond (by decide)]
    decide
  have limit : boundedToken beyond (ofText "package-count-limit") 120 ≠ [] := by
    rw [boundedToken_ofText beyond (by decide)]
    decide
  unfold Finalizing.take
  cases found : sourceNamed component.collectionSource state.sources with
  | none => exact taken
  | some source =>
    obtain ⟨listed, own⟩ := sourceNamed_eq_some found
    dsimp only
    split
    · exact taken
    · next successful =>
      have opened : isOpen component.collectionSource = true := by
        have status := taken.status source listed
        rw [own, Bool.eq_false_iff.mpr successful] at status
        exact (Bool.not_eq_false' .. ▸ status.symm)
      split
      · apply taken.change
        · exact fun source => (markPartial_unchanged _ source).1
        · intro other member same
          refine ⟨(taken.report other member).markPartial malformed, isUnsuccessful_markPartial _ other, ?_⟩
          rw [(markPartial_unchanged _ other).2, taken.counted other member, same]
        · exact fun _ _ _ => rfl
        · exact taken.few
        · exact taken.kept
      · next present =>
        split
        · exact taken
        · split
          · apply taken.change
            · exact fun source => (markPartial_unchanged _ source).1
            · intro other member same
              have report := (taken.report other member).markPartial limit
              have status : (markPartial beyond "package-count-limit" other).status.isUnsuccessful = false := by
                rw [isUnsuccessful_markPartial, taken.status other member, same, opened]
                rfl
              refine ⟨?_, isUnsuccessful_markPartial _ other, ?_⟩
              · constructor
                · exact report.platform
                · exact report.observedAt
                · exact report.errorCode
                · exact report.few
                · exact report.limitations
                · exact report.named
                · intro complete
                  exfalso
                  revert complete
                  unfold Agent.markPartial
                  split
                  · next unsuccessful =>
                    rw [isUnsuccessful_markPartial, unsuccessful] at status
                    cases status
                  · exact fun impossible => by cases impossible
                · exact fun _ => .inl rfl
                · exact report.unsuccessful
              · show (markPartial beyond _ other).recordCount = _
                rw [(markPartial_unchanged _ other).2, taken.counted other member, same]
            · exact fun _ _ _ => rfl
            · exact taken.few
            · exact taken.kept
          · next room =>
            apply taken.change
            · exact fun _ => rfl
            · intro other member same
              have report := taken.report other member
              refine ⟨⟨report.platform, report.observedAt, report.errorCode, report.few, report.limitations, report.named,
                report.complete, report.partially_, report.unsuccessful⟩, rfl, ?_⟩
              rw [List.countP_append, List.countP_singleton, if_pos (by simp), taken.counted other member, same]
            · intro other _ apart
              rw [List.countP_append, List.countP_singleton, if_neg (by simp [Ne.symm apart]), Nat.add_zero]
            · rw [List.length_append, List.length_singleton]
              omega
            · intro other member
              rcases List.mem_append.mp member with earlier | here
              · exact taken.kept other earlier
              · rw [List.mem_singleton.mp here]
                exact ⟨package, fun unnamed => present (.inl unnamed), fun unrecorded => present (.inr unrecorded), opened⟩

/-- Whether the loop takes a component if it is new and there is room. -/
def isAdmissible (isOpen : GoString → Bool) (component : SoftwareComponent) : Bool :=
  isOpen component.collectionSource && component.name ≠ [] && component.sourceRecordId ≠ []

/-- The first component of each key that was not seen. -/
def firstOfEach (beyond : Char → Char) : List GoString → List SoftwareComponent → List SoftwareComponent
  | _, [] => []
  | seen, component :: rest =>
    if componentKey beyond component ∈ seen then firstOfEach beyond seen rest
    else component :: firstOfEach beyond (componentKey beyond component :: seen) rest

theorem exists_source_of_package (taken : Taken observedAt isOpen state)
    (package : IsPackage dpkg observedAt component ∨ IsPackage rpm observedAt component) :
    ∃ source, sourceNamed component.collectionSource state.sources = some source := by
  have listed : component.collectionSource ∈ state.sources.map (·.sourceId) := by
    rw [taken.sourceIds]
    rcases package with first | second
    · rw [first.collectionSource]
      exact List.mem_cons_self
    · rw [second.collectionSource]
      exact List.mem_cons_of_mem _ List.mem_cons_self
  obtain ⟨source, member, own⟩ := List.mem_map.mp listed
  exact Option.isSome_iff_exists.mp (sourceNamed_isSome member own)

theorem take_components (taken : Taken observedAt isOpen state)
    (package : IsPackage dpkg observedAt component ∨ IsPackage rpm observedAt component) :
    ((state.take beyond component).components, (state.take beyond component).seen) =
      if isAdmissible isOpen component = true ∧ componentKey beyond component ∉ state.seen ∧ state.components.length < maxPackages then
        (state.components ++ [component], componentKey beyond component :: state.seen)
      else (state.components, state.seen) := by
  obtain ⟨source, found⟩ := exists_source_of_package taken package
  obtain ⟨listed, own⟩ := sourceNamed_eq_some found
  have status := taken.status source listed
  rw [own] at status
  unfold Finalizing.take isAdmissible
  rw [found]
  dsimp only
  rw [status]
  cases opened : isOpen component.collectionSource with
  | false => rfl
  | true =>
    rw [if_neg (by decide)]
    by_cases unusable : component.name = [] ∨ component.sourceRecordId = []
    · rw [if_pos unusable, if_neg]
      simp only [Bool.true_and, Bool.and_eq_true, decide_eq_true_eq]
      rintro ⟨⟨named, recorded⟩, -⟩
      exact unusable.elim named recorded
    · have usable : component.name ≠ [] ∧ component.sourceRecordId ≠ [] := not_or.mp unusable
      rw [if_neg unusable]
      by_cases repeated : componentKey beyond component ∈ state.seen
      · rw [if_pos repeated, if_neg (fun all => all.2.1 repeated)]
      · rw [if_neg repeated]
        by_cases full : maxPackages ≤ state.components.length
        · rw [if_pos full, if_neg (fun all => absurd all.2.2 (not_lt.mpr full))]
        · rw [if_neg full, if_pos]
          refine ⟨?_, repeated, not_le.mp full⟩
          simp only [Bool.true_and, Bool.and_eq_true, decide_eq_true_eq]
          exact usable

theorem Taken.foldl (taken : Taken observedAt isOpen state) {items : List SoftwareComponent}
    (packages : ∀ component ∈ items, IsPackage dpkg observedAt component ∨ IsPackage rpm observedAt component) :
    Taken observedAt isOpen (items.foldl (Finalizing.take beyond) state) := by
  induction items generalizing state with
  | nil => exact taken
  | cons component rest ih =>
    exact ih (taken.take (packages component List.mem_cons_self)) fun other member => packages other (List.mem_cons_of_mem _ member)

theorem foldl_components (taken : Taken observedAt isOpen state) {items : List SoftwareComponent}
    (packages : ∀ component ∈ items, IsPackage dpkg observedAt component ∨ IsPackage rpm observedAt component) :
    (items.foldl (Finalizing.take beyond) state).components = state.components ++
      (firstOfEach beyond state.seen (items.filter (isAdmissible isOpen))).take (maxPackages - state.components.length) := by
  induction items generalizing state with
  | nil =>
    rw [List.filter_nil, firstOfEach, List.take_nil, List.append_nil]
    rfl
  | cons component rest ih =>
    have package := packages component List.mem_cons_self
    have next : Taken observedAt isOpen (state.take beyond component) := taken.take package
    have later := ih next fun other member => packages other (List.mem_cons_of_mem _ member)
    have turn : ((state.take beyond component).components, (state.take beyond component).seen) = _ := take_components taken package
    rw [Prod.mk.injEq] at turn
    rw [List.foldl_cons, later]
    by_cases admissible : isAdmissible isOpen component = true
    · rw [List.filter_cons_of_pos admissible, firstOfEach]
      by_cases repeated : componentKey beyond component ∈ state.seen
      · rw [if_neg (fun all => all.2.1 repeated)] at turn
        rw [turn.1, turn.2, if_pos repeated]
      · rw [if_neg repeated]
        by_cases room : state.components.length < maxPackages
        · rw [if_pos ⟨admissible, repeated, room⟩] at turn
          obtain ⟨left, split⟩ : ∃ left, maxPackages - state.components.length = left + 1 :=
            ⟨maxPackages - state.components.length - 1, by omega⟩
          rw [turn.1, turn.2, split, List.take_succ_cons, List.append_assoc, List.singleton_append, List.length_append,
            List.length_singleton]
          congr 4
          omega
        · rw [if_neg (fun all => room all.2.2)] at turn
          have none_left : maxPackages - state.components.length = 0 := Nat.sub_eq_zero_of_le (not_lt.mp room)
          rw [turn.1, none_left, List.take_zero, List.take_zero]
    · rw [if_neg (fun all => admissible all.1)] at turn
      rw [List.filter_cons_of_neg admissible, turn.1, turn.2]

end Loop

section Result

variable (sorting : SliceSort) (beyond : Char → Char) (observedAt : Time) (dpkgOutcome rpmOutcome : Option CommandOutcome)

theorem boundedSource_kept (source : SoftwareSourceResult) :
    (boundedSource beyond source observedAt).sourceId = boundedToken beyond source.sourceId 64 ∧
      (boundedSource beyond source observedAt).recordCount = 0 := by
  unfold boundedSource
  cases source.status <;> exact ⟨rfl, rfl⟩

/-- Whether the loop takes components of a source. -/
def isOpenSource (result : PlatformResult) (sourceId : GoString) : Bool :=
  (sourceNamed sourceId (result.sources.map (boundedSource beyond · observedAt))).any fun source => !source.status.isUnsuccessful

theorem taken_start : Taken observedAt (isOpenSource beyond observedAt (collectPlatform observedAt dpkgOutcome rpmOutcome))
    { sources := (collectPlatform observedAt dpkgOutcome rpmOutcome).sources.map (boundedSource beyond · observedAt) } := by
  obtain ⟨first, made, id_, report⟩ := collectLinuxSource_report beyond observedAt dpkg dpkgOutcome
  obtain ⟨second, made', id', report'⟩ := collectLinuxSource_report beyond observedAt rpm rpmOutcome
  have sources : (collectPlatform observedAt dpkgOutcome rpmOutcome).sources = [first, second] := by
    show (collectLinuxSource observedAt dpkg dpkgOutcome).sources ++ (collectLinuxSource observedAt rpm rpmOutcome).sources = _
    rw [made, made']
    rfl
  have named : (boundedSource beyond first observedAt).sourceId = ofText dpkg.sourceId := by
    rw [(boundedSource_kept beyond observedAt first).1, id_, (hasTokens_dpkg beyond).sourceId]
  have named' : (boundedSource beyond second observedAt).sourceId = ofText rpm.sourceId := by
    rw [(boundedSource_kept beyond observedAt second).1, id', (hasTokens_rpm beyond).sourceId]
  have apart : ofText rpm.sourceId ≠ ofText dpkg.sourceId := by decide
  unfold isOpenSource
  rw [sources]
  constructor
  · rw [List.map_cons, List.map_singleton, List.map_cons, List.map_singleton, named, named']
  · simp only [List.map_cons, List.map_nil, List.forall_mem_cons, List.not_mem_nil, false_implies, implies_true, and_true]
    exact ⟨report, report'⟩
  · simp only [List.map_cons, List.map_nil, List.forall_mem_cons, List.not_mem_nil, false_implies, implies_true, and_true]
    simp only [sourceNamed, named, named', if_pos, if_neg apart, if_neg apart.symm, Option.none_or, Option.or_none, Option.any_some,
      Bool.not_not, and_self]
  · intro source member
    obtain ⟨raw, -, same⟩ := List.mem_map.mp member
    rw [← same]
    exact (boundedSource_kept beyond observedAt raw).2
  · exact Nat.zero_le _
  · exact fun component absent => absurd absent List.not_mem_nil

/-- The packages that `finalize` keeps if there is room for them, the first of each key in its order. -/
def distinctPackages (result : PlatformResult) : List SoftwareComponent :=
  firstOfEach beyond [] ((orderedComponents sorting beyond result observedAt).filter
    (isAdmissible (isOpenSource beyond observedAt result)))

theorem taken_finalizing : Taken observedAt (isOpenSource beyond observedAt (collectPlatform observedAt dpkgOutcome rpmOutcome))
    (finalizing sorting beyond (collectPlatform observedAt dpkgOutcome rpmOutcome) observedAt) :=
  (taken_start beyond observedAt dpkgOutcome rpmOutcome).foldl fun _ member => isPackage_of_mem member

theorem components_finalizing :
    (finalizing sorting beyond (collectPlatform observedAt dpkgOutcome rpmOutcome) observedAt).components =
      (distinctPackages sorting beyond observedAt (collectPlatform observedAt dpkgOutcome rpmOutcome)).take maxPackages := by
  exact foldl_components (taken_start beyond observedAt dpkgOutcome rpmOutcome) fun _ member => isPackage_of_mem member

end Result

end OpenAssetWatch.Agent
