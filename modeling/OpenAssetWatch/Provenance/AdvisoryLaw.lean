import OpenAssetWatch.Provenance.Advisories
import OpenAssetWatch.Provenance.ManifestClosed

namespace OpenAssetWatch.Provenance

open Library Library.JsonText Text

attribute [local instance] lawfulText

section Loop

variable (contents : ManifestContents) (binding : Option ModelQualificationBinding) (suiteName : Option (List Char))

/-- An active advisory that lists its target. -/
def affected (advisory : ModelArtifactAdvisory) : Bool :=
  advisory.status = .active && (advisoryTarget contents binding suiteName advisory).any fun target =>
    target ∈ advisory.affectedExactCommits ∨ target ∈ advisory.affectedVersions

/-- The actions that an affected artifact needs. -/
def demanded : ArtifactRequiredAction → List ArtifactRequiredAction
  | .informational => [.informational]
  | .requalificationRequired => [.requalificationRequired]
  | action => [action, .requalificationRequired]

def reasonCodes : List (List Char) := artifactUseBlocked :: artifactComponentTypes.map affectedReason

theorem affectedReason_mem (component : ArtifactComponentType) : affectedReason component ∈ reasonCodes := by
  apply List.mem_cons_of_mem
  apply List.mem_map_of_mem
  cases component <;> decide

theorem record_matched (gathered : Gathered) (advisory : ModelArtifactAdvisory) :
    (gathered.record advisory).matched = gathered.matched ++ [advisory] := by
  unfold Gathered.record
  cases advisory.requiredAction <;> rfl

theorem mem_record_actions {gathered : Gathered} {advisory : ModelArtifactAdvisory} {action : ArtifactRequiredAction} :
    action ∈ (gathered.record advisory).actions ↔
      action ∈ demanded advisory.requiredAction ∨ action ∈ gathered.actions := by
  unfold Gathered.record demanded
  cases advisory.requiredAction <;> simp only [List.mem_insert_iff, List.mem_cons, List.not_mem_nil, or_false] <;> tauto

theorem nodup_record_actions {gathered : Gathered} {advisory : ModelArtifactAdvisory} (nodup : gathered.actions.Nodup) :
    (gathered.record advisory).actions.Nodup := by
  unfold Gathered.record
  cases advisory.requiredAction <;> simp only [nodup, List.Nodup.insert]

theorem nodup_record_reasons {gathered : Gathered} {advisory : ModelArtifactAdvisory} (nodup : gathered.reasons.Nodup) :
    (gathered.record advisory).reasons.Nodup := by
  unfold Gathered.record
  cases advisory.requiredAction <;> simp only [nodup, List.Nodup.insert]

theorem record_reasons_subset {gathered : Gathered} {advisory : ModelArtifactAdvisory}
    (known : gathered.reasons ⊆ reasonCodes) : (gathered.record advisory).reasons ⊆ reasonCodes := by
  have one : gathered.reasons.insert (affectedReason advisory.componentType) ⊆ reasonCodes := by
    intro reason member
    rcases List.mem_insert_iff.mp member with rfl | before
    · exact affectedReason_mem _
    · exact known before
  have two : (gathered.reasons.insert (affectedReason advisory.componentType)).insert artifactUseBlocked ⊆ reasonCodes := by
    intro reason member
    rcases List.mem_insert_iff.mp member with rfl | before
    · exact List.mem_cons_self
    · exact one before
  unfold Gathered.record
  cases advisory.requiredAction
  case blockUse => exact two
  all_goals exact one

theorem turn_eq (gathered : Gathered) (advisory : ModelArtifactAdvisory) :
    gathered.turn contents binding suiteName advisory =
      if affected contents binding suiteName advisory = true then gathered.record advisory else gathered := by
  unfold Gathered.turn affected
  by_cases active : advisory.status = .active
  · rw [if_neg (not_not_intro active), decide_eq_true active, Bool.true_and]
    cases advisoryTarget contents binding suiteName advisory with
    | none => rfl
    | some target => simp only [Option.any_some, decide_eq_true_eq]
  · rw [if_pos active, decide_eq_false active, Bool.false_and, if_neg Bool.false_ne_true]

/-- What the loop has gathered of the advisories that it has seen. -/
structure GatheredFrom (past : List ModelArtifactAdvisory) (gathered : Gathered) : Prop where
  matched : gathered.matched = past.filter (affected contents binding suiteName)
  actions : ∀ action, action ∈ gathered.actions ↔
    ∃ advisory ∈ past, affected contents binding suiteName advisory = true ∧ action ∈ demanded advisory.requiredAction
  actionsNodup : gathered.actions.Nodup
  reasonsNodup : gathered.reasons.Nodup
  reasons : gathered.reasons ⊆ reasonCodes

variable {contents binding suiteName} {past advisories : List ModelArtifactAdvisory} {gathered : Gathered}

theorem GatheredFrom.turn (before : GatheredFrom contents binding suiteName past gathered) (advisory : ModelArtifactAdvisory) :
    GatheredFrom contents binding suiteName (past ++ [advisory]) (gathered.turn contents binding suiteName advisory) := by
  rw [turn_eq]
  by_cases hit : affected contents binding suiteName advisory = true
  · rw [if_pos hit]
    have matched : (gathered.record advisory).matched = (past ++ [advisory]).filter (affected contents binding suiteName) := by
      rw [record_matched, before.matched, List.filter_append, List.filter_cons_of_pos hit, List.filter_nil]
    have actions : ∀ action, action ∈ (gathered.record advisory).actions ↔ ∃ other ∈ past ++ [advisory],
        affected contents binding suiteName other = true ∧ action ∈ demanded other.requiredAction := by
      intro action
      rw [mem_record_actions, before.actions]
      simp only [List.mem_append, List.mem_singleton, or_and_right, exists_or, exists_eq_left, hit, true_and]
      exact or_comm
    exact ⟨matched, actions, nodup_record_actions before.actionsNodup, nodup_record_reasons before.reasonsNodup,
      record_reasons_subset before.reasons⟩
  · rw [if_neg hit]
    have matched : gathered.matched = (past ++ [advisory]).filter (affected contents binding suiteName) := by
      rw [before.matched, List.filter_append, List.filter_cons_of_neg hit, List.filter_nil, List.append_nil]
    have actions : ∀ action, action ∈ gathered.actions ↔ ∃ other ∈ past ++ [advisory],
        affected contents binding suiteName other = true ∧ action ∈ demanded other.requiredAction := by
      intro action
      rw [before.actions]
      simp only [List.mem_append, List.mem_singleton, or_and_right, exists_or, exists_eq_left, hit]
      simp
    exact ⟨matched, actions, before.actionsNodup, before.reasonsNodup, before.reasons⟩

theorem GatheredFrom.run (before : GatheredFrom contents binding suiteName past gathered) :
    GatheredFrom contents binding suiteName (past ++ advisories)
      (advisories.foldl (Gathered.turn contents binding suiteName) gathered) := by
  induction advisories generalizing past gathered with
  | nil =>
    rw [List.append_nil]
    exact before
  | cons advisory rest ih =>
    have step := ih (before.turn advisory)
    rw [List.append_assoc] at step
    exact step

theorem gather_holds (advisories : List ModelArtifactAdvisory) :
    GatheredFrom contents binding suiteName (sortById advisories) (gather contents binding suiteName advisories) := by
  have empty : GatheredFrom contents binding suiteName [] {} := by
    have none : ∀ action, action ∈ ({} : Gathered).actions ↔ ∃ advisory ∈ ([] : List ModelArtifactAdvisory),
        affected contents binding suiteName advisory = true ∧ action ∈ demanded advisory.requiredAction := by
      intro action
      simp
    exact ⟨rfl, none, List.nodup_nil, List.nodup_nil, List.nil_subset _⟩
  exact empty.run

theorem sortById_perm (advisories : List ModelArtifactAdvisory) : (sortById advisories).Perm advisories :=
  List.perm_insertionSort _ _

theorem mem_gather_matched {advisory : ModelArtifactAdvisory} :
    advisory ∈ (gather contents binding suiteName advisories).matched ↔
      advisory ∈ advisories ∧ affected contents binding suiteName advisory = true := by
  rw [(gather_holds advisories).matched, List.mem_filter, (sortById_perm advisories).mem_iff]

theorem mem_gather_actions {action : ArtifactRequiredAction} :
    action ∈ (gather contents binding suiteName advisories).actions ↔
      ∃ advisory ∈ advisories, affected contents binding suiteName advisory = true ∧ action ∈ demanded advisory.requiredAction :=
        by
  rw [(gather_holds advisories).actions]
  simp only [(sortById_perm advisories).mem_iff]

theorem length_gather_matched (advisories : List ModelArtifactAdvisory) :
    (gather contents binding suiteName advisories).matched.length = advisories.countP (affected contents binding suiteName) := by
  rw [(gather_holds advisories).matched, ← List.countP_eq_length_filter, (sortById_perm advisories).countP_eq]

end Loop

section Evaluated

variable {contents : ManifestContents} {binding : Option ModelQualificationBinding} {suiteName : Option (List Char)}
  {current : Bool} {advisories : List ModelArtifactAdvisory} {result : ArtifactInvalidationResult}

theorem length_actions_le {actions : List ArtifactRequiredAction} (nodup : actions.Nodup) : actions.length ≤ 16 := by
  have within : actions ⊆ artifactRequiredActions := by
    intro action _
    cases action <;> decide
  have short : actions.length ≤ artifactRequiredActions.length := (nodup.subperm within).length_le
  exact short.trans (by decide)

theorem length_reasons_le {reasons : List (List Char)} (nodup : reasons.Nodup) (known : reasons ⊆ reasonCodes) :
    reasons.length ≤ 64 := by
  have short : reasons.length ≤ reasonCodes.length := (nodup.subperm known).length_le
  exact short.trans (by decide)

theorem result_bounded_iff (state : List Char) :
    ((gather contents binding suiteName advisories).result state current).bounded = true ↔
      advisories.countP (affected contents binding suiteName) ≤ maxArtifactAdvisories := by
  have holds : GatheredFrom contents binding suiteName (sortById advisories) (gather contents binding suiteName advisories) :=
    gather_holds advisories
  have actions := length_actions_le holds.actionsNodup
  have reasons := length_reasons_le holds.reasonsNodup holds.reasons
  rw [← length_gather_matched]
  simp only [ArtifactInvalidationResult.bounded, Gathered.result, sortByOrder, List.length_map, List.length_insertionSort,
    Bool.and_eq_true, decide_eq_true_eq]
  tauto

theorem evaluate_some_iff :
    evaluateArtifactAdvisories contents binding suiteName current advisories = some result ↔
      (advisories.map (·.advisoryId)).Nodup ∧
        ((gather contents binding suiteName advisories).result contents.provenanceState current).bounded = true ∧
        (gather contents binding suiteName advisories).result contents.provenanceState current = result :=
  guard_bind_eq_some.trans (and_congr_right fun _ => guard_bind_eq_some.trans (and_congr_right fun _ => Option.some_inj))

theorem evaluate_eq_some_iff (unique : (advisories.map (·.advisoryId)).Nodup) :
    evaluateArtifactAdvisories contents binding suiteName current advisories = some result ↔
      advisories.countP (affected contents binding suiteName) ≤ maxArtifactAdvisories ∧
        result = (gather contents binding suiteName advisories).result contents.provenanceState current := by
  rw [evaluate_some_iff, result_bounded_iff, and_iff_right unique, @eq_comm _ result]

theorem unique_of_evaluate
    (evaluated : evaluateArtifactAdvisories contents binding suiteName current advisories = some result) :
    (advisories.map (·.advisoryId)).Nodup := (evaluate_some_iff.mp evaluated).1

theorem sortById_eq_of_perm {order : List ModelArtifactAdvisory} (unique : (advisories.map (·.advisoryId)).Nodup)
    (same : order.Perm advisories) : sortById order = sortById advisories := by
  have perm : (sortById order).Perm (sortById advisories) :=
    (sortById_perm order).trans (same.trans (sortById_perm advisories).symm)
  have sorted (items : List ModelArtifactAdvisory) : (sortById items).Pairwise fun a b => a.advisoryId ≤ b.advisoryId :=
    List.pairwise_insertionSort _ _
  apply perm.eq_of_pairwise _ (sorted order) (sorted advisories)
  intro first second here there le ge
  have inOrder := same.mem_iff.mp ((sortById_perm order).mem_iff.mp here)
  have inList := (sortById_perm advisories).mem_iff.mp there
  exact List.inj_on_of_nodup_map unique inOrder inList (le_antisymm le ge)

theorem evaluate_perm {order : List ModelArtifactAdvisory} (unique : (advisories.map (·.advisoryId)).Nodup)
    (same : order.Perm advisories) :
    evaluateArtifactAdvisories contents binding suiteName current order =
      evaluateArtifactAdvisories contents binding suiteName current advisories := by
  have uniqueOrder : (order.map (·.advisoryId)).Nodup := (same.map _).nodup_iff.mpr unique
  have gathered : gather contents binding suiteName order = gather contents binding suiteName advisories := by
    rw [gather, gather, sortById_eq_of_perm unique same]
  simp only [evaluateArtifactAdvisories, gathered, uniqueOrder, unique]

theorem mem_matchedAdvisoryIds (unique : (advisories.map (·.advisoryId)).Nodup)
    (evaluated : evaluateArtifactAdvisories contents binding suiteName current advisories = some result)
    {advisory : ModelArtifactAdvisory} (listed : advisory ∈ advisories) :
    advisory.advisoryId ∈ result.matchedAdvisoryIds ↔ affected contents binding suiteName advisory = true := by
  rw [((evaluate_eq_some_iff unique).mp evaluated).2]
  show advisory.advisoryId ∈ (gather contents binding suiteName advisories).matched.map (·.advisoryId) ↔ _
  rw [List.mem_map]
  constructor
  · rintro ⟨other, matched, same⟩
    have found := mem_gather_matched.mp matched
    rw [← List.inj_on_of_nodup_map unique found.1 listed same]
    exact found.2
  · intro hit
    exact ⟨advisory, mem_gather_matched.mpr ⟨listed, hit⟩, rfl⟩

end Evaluated

section Law

/-- A lifecycle stage as the manifest records it. -/
structure LifecycleStage where
  name : Option (List Char)
  /-- The exact commit, or the revision of a source checkpoint. -/
  commit : Option (List Char)
  version : Option (List Char)

def ManifestContents.lifecycleStage (contents : ManifestContents) : ArtifactComponentType → Option LifecycleStage
  | .sourceCheckpoint =>
    some ⟨contents.sourceCheckpoint.text? "source_name", contents.sourceCheckpoint.text? "source_revision", none⟩
  | .converter =>
    some ⟨contents.conversion.text? "converter_name", contents.conversion.text? "converter_commit",
      contents.conversion.text? "converter_version"⟩
  | .quantizer =>
    some ⟨contents.quantization.text? "quantizer_name", contents.quantization.text? "quantizer_commit",
      contents.quantization.text? "quantizer_version"⟩
  | .runtime =>
    some ⟨contents.runtimeCompatibility.text? "runtime_type", contents.runtimeCompatibility.text? "runtime_commit",
      contents.runtimeCompatibility.text? "runtime_version"⟩
  | .artifactFormat | .qualificationSuite => none

/-- The advisory names the stage. -/
def ModelArtifactAdvisory.designates (advisory : ModelArtifactAdvisory) (stage : LifecycleStage) : Prop :=
  ∃ name ∈ stage.name, casefold name = casefold advisory.componentName

def listed (value : Option (List Char)) (values : List (List Char)) : Prop := ∃ recorded ∈ value, recorded ∈ values

/-- The advisory affects what the manifest records of the stage. -/
def ModelArtifactAdvisory.affects (advisory : ModelArtifactAdvisory) (stage : LifecycleStage) : Prop :=
  listed stage.commit advisory.affectedExactCommits ∨ listed stage.version advisory.affectedVersions

/-- A later result that is no milder. -/
structure NoMilder (before after : ArtifactInvalidationResult) : Prop where
  valid : after.qualificationValid = true → before.qualificationValid = true
  matched : before.matchedAdvisoryIds ⊆ after.matchedAdvisoryIds
  actions : before.requiredActions ⊆ after.requiredActions
  state : before.state = "invalid".toList ∨ before.state = "requalification-required".toList →
    after.state ≠ "complete".toList

variable (contents : ManifestContents) (binding : Option ModelQualificationBinding) (suiteName : Option (List Char))
  (current : Bool) (advisories : List ModelArtifactAdvisory)

/-- Advisories fail closed. -/
structure FailsClosed : Prop where
  matched : ∃ result, evaluateArtifactAdvisories contents binding suiteName current advisories = some result ∧
    ∀ advisory ∈ advisories, advisory.status = .active →
      ∀ stage ∈ contents.lifecycleStage advisory.componentType, advisory.designates stage →
        (advisory.advisoryId ∈ result.matchedAdvisoryIds ↔ advisory.affects stage)
  orderFree : ∀ order : List ModelArtifactAdvisory, order.Perm advisories →
    evaluateArtifactAdvisories contents binding suiteName current order =
      evaluateArtifactAdvisories contents binding suiteName current advisories
  grows : ∀ before, evaluateArtifactAdvisories contents binding suiteName current advisories = some before →
    ∀ added after, evaluateArtifactAdvisories contents binding suiteName current (added :: advisories) = some after →
      NoMilder before after

/-- The affected versions of an advisory say of the commit of its stage what they say of its version. -/
def VersionsAgree : Prop :=
  ∀ advisory ∈ advisories, advisory.status = .active →
    ∀ stage ∈ contents.lifecycleStage advisory.componentType, advisory.designates stage →
      listed stage.commit advisory.affectedExactCommits ∨
        (listed stage.commit advisory.affectedVersions ↔ listed stage.version advisory.affectedVersions)

variable {contents binding suiteName current advisories}

theorem advisoryTarget_of_designates {advisory : ModelArtifactAdvisory} {stage : LifecycleStage}
    (found : stage ∈ contents.lifecycleStage advisory.componentType) (named : advisory.designates stage) :
    advisoryTarget contents binding suiteName advisory = stage.commit := by
  obtain ⟨name, recorded, folded⟩ := named
  unfold advisoryTarget
  cases kind : advisory.componentType <;> rw [kind] at found <;> cases found
  all_goals
    have same := Option.mem_def.mp recorded
    dsimp only at same ⊢
    rw [same, Option.getD_some, if_neg (not_not_intro folded)]

theorem affected_iff_of_designates {advisory : ModelArtifactAdvisory} {stage : LifecycleStage}
    (active : advisory.status = .active) (found : stage ∈ contents.lifecycleStage advisory.componentType)
    (named : advisory.designates stage) :
    affected contents binding suiteName advisory = true ↔
      listed stage.commit advisory.affectedExactCommits ∨ listed stage.commit advisory.affectedVersions := by
  rw [affected, decide_eq_true active, Bool.true_and, advisoryTarget_of_designates found named]
  unfold listed
  cases stage.commit <;> simp

theorem affected_iff_affects_iff {advisory : ModelArtifactAdvisory} {stage : LifecycleStage}
    (active : advisory.status = .active) (found : stage ∈ contents.lifecycleStage advisory.componentType)
    (named : advisory.designates stage) :
    (affected contents binding suiteName advisory = true ↔ advisory.affects stage) ↔
      (listed stage.commit advisory.affectedExactCommits ∨
        (listed stage.commit advisory.affectedVersions ↔ listed stage.version advisory.affectedVersions)) := by
  rw [affected_iff_of_designates active found named, ModelArtifactAdvisory.affects]
  tauto

theorem blocking_mono {first second : Gathered} (more : first.actions ⊆ second.actions) (blocked : first.blocking = true) :
    second.blocking = true := by
  obtain ⟨action, member, urgent⟩ := List.any_eq_true.mp blocked
  exact List.any_eq_true.mpr ⟨action, more member, urgent⟩

theorem result_state_cases (gathered : Gathered) (state : List Char) :
    ((gathered.result state current).state = state ∧ gathered.blocking = false) ∨
      (gathered.result state current).state = "invalid".toList ∨
        (gathered.result state current).state = "requalification-required".toList := by
  unfold Gathered.result
  by_cases blocked : .blockUse ∈ gathered.actions
  · exact .inr (.inl (if_pos blocked))
  · by_cases urgent : gathered.blocking = true
    · apply Or.inr
      apply Or.inr
      dsimp only
      rw [if_neg blocked, if_pos urgent]
    · apply Or.inl
      have calm : gathered.blocking = false := Bool.eq_false_iff.mpr urgent
      dsimp only
      rw [if_neg blocked, if_neg urgent]
      exact ⟨rfl, calm⟩

theorem result_state_kept {gathered : Gathered} (calm : gathered.blocking = false) (state : List Char) :
    (gathered.result state current).state = state := by
  have quiet : ArtifactRequiredAction.blockUse ∉ gathered.actions := by
    intro member
    have urgent : gathered.blocking = true := List.any_eq_true.mpr ⟨_, member, rfl⟩
    rw [calm] at urgent
    exact Bool.false_ne_true urgent
  show (if ArtifactRequiredAction.blockUse ∈ gathered.actions then _ else if gathered.blocking = true then _ else _) = _
  rw [if_neg quiet, if_neg (by rw [calm]; exact Bool.false_ne_true)]

theorem result_noMilder {first second : Gathered} (state : List Char) (actions : first.actions ⊆ second.actions)
    (matched : first.matched ⊆ second.matched) : NoMilder (first.result state current) (second.result state current) where
  valid holds := by
    obtain ⟨given, calm⟩ := Bool.and_eq_true_iff.mp holds
    apply Bool.and_eq_true_iff.mpr
    rw [Bool.not_eq_true'] at calm ⊢
    apply And.intro given
    apply Bool.eq_false_iff.mpr
    intro blocked
    rw [blocking_mono actions blocked] at calm
    exact Bool.false_ne_true calm.symm
  matched := List.map_subset _ matched
  actions := by
    intro action member
    rw [Gathered.result, sortByOrder, List.mem_insertionSort] at member ⊢
    exact actions member
  state strict complete := by
    have cases := @result_state_cases current second state
    rcases cases with ⟨kept, calm⟩ | invalid | requalified
    · have quiet : first.blocking = false := by
        apply Bool.eq_false_iff.mpr
        intro blocked
        rw [blocking_mono actions blocked] at calm
        exact Bool.false_ne_true calm.symm
      rw [result_state_kept quiet, ← kept, complete] at strict
      revert strict
      decide
    · rw [invalid] at complete
      revert complete
      decide
    · rw [requalified] at complete
      revert complete
      decide

theorem evaluate_grows {before after : ArtifactInvalidationResult} {added : ModelArtifactAdvisory}
    (first : evaluateArtifactAdvisories contents binding suiteName current advisories = some before)
    (second : evaluateArtifactAdvisories contents binding suiteName current (added :: advisories) = some after) :
    NoMilder before after := by
  rw [((evaluate_eq_some_iff (unique_of_evaluate first)).mp first).2,
    ((evaluate_eq_some_iff (unique_of_evaluate second)).mp second).2]
  apply result_noMilder
  · intro action member
    obtain ⟨advisory, listed, hit⟩ := mem_gather_actions.mp member
    exact mem_gather_actions.mpr ⟨advisory, List.mem_cons_of_mem _ listed, hit⟩
  · intro advisory member
    obtain ⟨listed, hit⟩ := mem_gather_matched.mp member
    exact mem_gather_matched.mpr ⟨List.mem_cons_of_mem _ listed, hit⟩

theorem versionsAgree_of_closed (unique : (advisories.map (·.advisoryId)).Nodup)
    (closed : FailsClosed contents binding suiteName current advisories) : VersionsAgree contents advisories := by
  obtain ⟨result, evaluated, designated⟩ := closed.matched
  intro advisory member active stage found named
  apply (affected_iff_affects_iff active found named).mp
  rw [← mem_matchedAdvisoryIds unique evaluated member]
  exact designated advisory member active stage found named

/-- Advisories fail closed exactly when their versions say of a commit what they say of the version beside it. -/
theorem advisories_fail_closed_iff (unique : (advisories.map (·.advisoryId)).Nodup) :
    FailsClosed contents binding suiteName current advisories ↔
      VersionsAgree contents advisories ∧
        advisories.countP (affected contents binding suiteName) ≤ maxArtifactAdvisories := by
  constructor
  · intro closed
    apply And.intro (versionsAgree_of_closed unique closed)
    obtain ⟨result, evaluated, _⟩ := closed.matched
    exact ((evaluate_eq_some_iff unique).mp evaluated).1
  · rintro ⟨agree, few⟩
    have evaluated : evaluateArtifactAdvisories contents binding suiteName current advisories =
        some ((gather contents binding suiteName advisories).result contents.provenanceState current) :=
      (evaluate_eq_some_iff unique).mpr ⟨few, rfl⟩
    apply FailsClosed.mk
    · apply Exists.intro
      apply And.intro evaluated
      intro advisory member active stage found named
      rw [mem_matchedAdvisoryIds unique evaluated member]
      exact (affected_iff_affects_iff active found named).mpr (agree advisory member active stage found named)
    · intro order same
      exact evaluate_perm unique same
    · intro before first added after second
      exact evaluate_grows first second

end Law

section Samples

def advisoryReference : List Char := "https://example.invalid/advisories/1".toList

def advisoryExternals : Externals :=
  { sampleExternals with
    urlsplit := fun value =>
      if value = advisoryReference then some ⟨"https".toList, some "example.invalid".toList, none, none, [], []⟩ else none }

/-- The sample manifest with a converter. -/
def converterPayload : JsonDoc :=
  match samplePayload "checkpoint" with
  | .object entries => .object (entries.map fun entry =>
      if entry.1 = "conversion".toList then
        (entry.1, .object [("converter_name".toList, .string "fixture-converter".toList),
          ("converter_version".toList, .string "1.2.0".toList), ("converter_commit".toList, .string "0123abc".toList)])
      else entry)
  | other => other

/-- An advisory about the converter that lists one value in one of its fields. -/
def advisoryPayload (field value : String) : JsonDoc :=
  .object [("advisory_id".toList, .string "OAW-MODEL-TEST-001".toList), ("title".toList, .string "Fixture".toList),
    ("component_type".toList, .string "converter".toList), ("component_name".toList, .string "Fixture-Converter".toList),
    (field.toList, .array [.string value.toList]), ("severity".toList, .string "high".toList),
    ("required_action".toList, .string "block-use".toList), ("source_reference".toList, .string advisoryReference),
    ("published_at".toList, .string sampleMoment), ("reviewed_at".toList, .string sampleMoment)]

def converterAdvisory (commits versions : List (List Char)) : ModelArtifactAdvisory :=
  ⟨"OAW-MODEL-TEST-001".toList, .converter, "Fixture-Converter".toList, commits, versions, .active, .blockUse⟩

theorem converterPayload_accepted :
    ∃ manifest, ModelArtifactManifest.read advisoryExternals sampleDigest converterPayload = some manifest ∧
      manifest.contents.conversion.text? "converter_name" = some "fixture-converter".toList ∧
      manifest.contents.conversion.text? "converter_commit" = some "0123abc".toList ∧
      manifest.contents.conversion.text? "converter_version" = some "1.2.0".toList := by
  have read : (ModelArtifactManifest.read advisoryExternals sampleDigest converterPayload).map (fun manifest =>
      (manifest.contents.conversion.text? "converter_name", manifest.contents.conversion.text? "converter_commit",
        manifest.contents.conversion.text? "converter_version")) =
      some (some "fixture-converter".toList, some "0123abc".toList, some "1.2.0".toList) := by decide +kernel
  obtain ⟨manifest, accepted, fields⟩ := Option.map_eq_some_iff.mp read
  rw [Prod.mk.injEq, Prod.mk.injEq] at fields
  exact ⟨manifest, accepted, fields⟩

theorem converterAdvisory_designates {commits versions : List (List Char)} {stage : LifecycleStage}
    (name : stage.name = some "fixture-converter".toList) : (converterAdvisory commits versions).designates stage := by
  apply Exists.intro "fixture-converter".toList
  apply And.intro name
  show casefold "fixture-converter".toList = casefold "Fixture-Converter".toList
  decide +kernel

theorem advisory_commit_matched :
    ∃ manifest advisory, ModelArtifactManifest.read advisoryExternals sampleDigest converterPayload = some manifest ∧
      ModelArtifactAdvisory.read advisoryExternals (advisoryPayload "affected_exact_commits" "0123abc") = some advisory ∧
      FailsClosed manifest.contents none none true [advisory] := by
  obtain ⟨manifest, accepted, name, commit, version⟩ := converterPayload_accepted
  have read : ModelArtifactAdvisory.read advisoryExternals (advisoryPayload "affected_exact_commits" "0123abc") =
      some (converterAdvisory ["0123abc".toList] []) := by decide +kernel
  apply Exists.intro manifest
  apply Exists.intro (converterAdvisory ["0123abc".toList] [])
  apply And.intro accepted
  apply And.intro read
  have unique : ([converterAdvisory ["0123abc".toList] []].map (·.advisoryId)).Nodup := List.nodup_singleton _
  apply (advisories_fail_closed_iff unique).mpr
  constructor
  · intro advisory member _ stage found _
    rw [List.mem_singleton.mp member] at found ⊢
    apply Or.inl
    cases found
    exact ⟨"0123abc".toList, commit, List.mem_singleton_self _⟩
  · apply List.countP_le_length.trans
    decide

/-- The affected version is compared with the commit, and the recorded version with nothing. -/
theorem advisory_version_unmatched :
    ∃ manifest advisory, ModelArtifactManifest.read advisoryExternals sampleDigest converterPayload = some manifest ∧
      ModelArtifactAdvisory.read advisoryExternals (advisoryPayload "affected_versions" "1.2.0") = some advisory ∧
      ¬ FailsClosed manifest.contents none none true [advisory] := by
  obtain ⟨manifest, accepted, name, commit, version⟩ := converterPayload_accepted
  have read : ModelArtifactAdvisory.read advisoryExternals (advisoryPayload "affected_versions" "1.2.0") =
      some (converterAdvisory [] ["1.2.0".toList]) := by decide +kernel
  apply Exists.intro manifest
  apply Exists.intro (converterAdvisory [] ["1.2.0".toList])
  apply And.intro accepted
  apply And.intro read
  intro closed
  have unique : ([converterAdvisory [] ["1.2.0".toList]].map (·.advisoryId)).Nodup := List.nodup_singleton _
  have agree := versionsAgree_of_closed unique closed (converterAdvisory [] ["1.2.0".toList])
    (List.mem_singleton_self _) rfl _ rfl (converterAdvisory_designates name)
  dsimp only at agree
  rw [commit, version] at agree
  revert agree
  unfold listed
  decide

end Samples

end OpenAssetWatch.Provenance
