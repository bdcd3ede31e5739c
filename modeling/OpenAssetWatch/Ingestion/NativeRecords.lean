import OpenAssetWatch.Ingestion.ComponentEvidence
import OpenAssetWatch.Component.Presence

namespace OpenAssetWatch.Ingestion

open Library Text Component

def isNative (entry : Json) : Bool := (boundedString 64 (entry.get "collection_source_id")).isSome

def entryKey (digest : List String → HexDigest) (context : EntryContext) (entry : Json) : ObservationKey :=
  ⟨entryObservedAt context entry, entryConfidence context entry, entryEvidenceIds digest context entry⟩

/-- The entry keeps its name and its record, and no other entry with its component id takes its place: the greatest
observation of an id stays, the first one of equals. -/
structure RecordKept (digest : List String → HexDigest) (context : EntryContext) (before : List Json) (entry : Json)
    (after : List Json) : Prop where
  named : isNamed entry = true
  recorded : (boundedString 240 (entry.get "source_record_id")).isSome = true
  outranks : ∀ other ∈ before, isNamed other = true → entryComponentId context other = entryComponentId context entry →
    (entryKey digest context entry).outranks (entryKey digest context other) = true
  unbeaten : ∀ other ∈ after, isNamed other = true → entryComponentId context other = entryComponentId context entry →
    (entryKey digest context other).outranks (entryKey digest context entry) = false

/-- Every native record of the entries is kept. -/
def RecordsKept (digest : List String → HexDigest) (context : EntryContext) (entries : List Json) : Prop :=
  ∀ before entry after, entries = before ++ entry :: after → isNative entry = true →
    RecordKept digest context before entry after

/-- The names that the contract of a native source checks. -/
def NamesSource (entry : Json) : Prop :=
  ∀ sourceId, boundedString 64 (entry.get "collection_source_id") = some sourceId →
    isSourceName sourceId = true ∧ ∃ method, boundedString 64 (entry.get "evidence_method") = some method ∧
      isSourceName method = true

def showsSource (sourceId : String) (component : NormalizedComponent) : Bool :=
  component.native.any (·.collectionSourceId == sourceId)

variable {digest : List String → HexDigest} {context : EntryContext} {entries : List Json} {entry : Json}
  {component : NormalizedComponent} {sourceId : String}

theorem nativeReference_source {native : NativeReference} (refers : nativeReference entry = some native) :
    boundedString 64 (entry.get "collection_source_id") = some native.collectionSourceId ∧
      (boundedString 240 (entry.get "source_record_id")).isSome = true := by
  simp only [nativeReference, Option.bind_eq_bind, Option.bind_eq_some_iff, Option.filter_eq_some_iff] at refers
  obtain ⟨_, ⟨named, -⟩, record, recorded, _, -, same⟩ := refers
  cases same
  exact ⟨named, by rw [recorded]; rfl⟩

theorem nativeReference_some (names : NamesSource entry)
    (named : boundedString 64 (entry.get "collection_source_id") = some sourceId)
    (recorded : (boundedString 240 (entry.get "source_record_id")).isSome = true) :
    ∃ native, nativeReference entry = some native ∧ native.collectionSourceId = sourceId := by
  obtain ⟨shaped, method, methodNamed, methodShaped⟩ := names sourceId named
  obtain ⟨record, recorded⟩ := Option.isSome_iff_exists.mp recorded
  refine ⟨⟨sourceId, record, method⟩, ?_, rfl⟩
  simp [nativeReference, named, recorded, methodNamed, Option.filter, shaped, methodShaped]

theorem normalizedComponent_some (found : normalizedComponent digest context entry = some component) :
    isNamed entry = true ∧ component.componentId = entryComponentId context entry ∧
      component.native = nativeReference entry ∧ component.sourceId = context.source.sourceId ∧
      observationKey component = entryKey digest context entry := by
  rw [normalizedComponent, Option.ite_none_right_eq_some] at found
  obtain ⟨named, same⟩ := found
  rw [← Option.some.inj same]
  exact ⟨named, rfl, rfl, rfl, rfl⟩

variable (digest context) in
theorem normalizedComponent_named (named : isNamed entry = true) :
    ∃ component, normalizedComponent digest context entry = some component := by
  rw [normalizedComponent, if_pos named]
  exact ⟨_, rfl⟩

theorem outranks_iff {other : Json} {rival : NormalizedComponent} (found : normalizedComponent digest context entry = some component)
    (other_found : normalizedComponent digest context other = some rival) :
    outranks component rival = (entryKey digest context entry).outranks (entryKey digest context other) := by
  rw [outranks, (normalizedComponent_some found).2.2.2.2, (normalizedComponent_some other_found).2.2.2.2]

theorem survives_iff {before after : List Json} (names : NamesSource entry) (from_source : isFromSource sourceId entry = true) :
    Survives (·.componentId) outranks (normalizedComponent digest context) (showsSource sourceId) before entry after ↔
      RecordKept digest context before entry after := by
  have named_source := eq_of_beq from_source
  constructor
  · intro ⟨component, found, shown, beats, stays⟩
    obtain ⟨named, same, native, -, -⟩ := normalizedComponent_some found
    rw [showsSource, native, Option.any_eq_true] at shown
    obtain ⟨reference, refers, -⟩ := shown
    refine ⟨named, (nativeReference_source refers).2, fun other member other_named shared => ?_,
      fun other member other_named shared => ?_⟩
    · obtain ⟨rival, other_found⟩ := normalizedComponent_named digest context other_named
      rw [← outranks_iff found other_found]
      exact beats other member rival other_found ((normalizedComponent_some other_found).2.1.trans (shared.trans same.symm))
    · obtain ⟨rival, other_found⟩ := normalizedComponent_named digest context other_named
      rw [← outranks_iff other_found found]
      exact stays other member rival other_found ((normalizedComponent_some other_found).2.1.trans (shared.trans same.symm))
  · intro kept
    obtain ⟨component, found⟩ := normalizedComponent_named digest context kept.named
    obtain ⟨-, same, native, -, -⟩ := normalizedComponent_some found
    obtain ⟨reference, refers, shared⟩ := nativeReference_some names named_source kept.recorded
    refine ⟨component, found, ?_, fun other member rival other_found shared => ?_,
      fun other member rival other_found shared => ?_⟩
    · rw [showsSource, native, refers, Option.any_some, shared]
      exact beq_self_eq_true _
    · obtain ⟨other_named, other_same, -⟩ := normalizedComponent_some other_found
      rw [outranks_iff found other_found]
      exact kept.outranks other member other_named (other_same.symm.trans (shared.trans same))
    · obtain ⟨other_named, other_same, -⟩ := normalizedComponent_some other_found
      rw [outranks_iff other_found found]
      exact kept.unbeaten other member other_named (other_same.symm.trans (shared.trans same))

theorem shown_from_source (found : normalizedComponent digest context entry = some component)
    (shown : showsSource sourceId component = true) : isFromSource sourceId entry = true := by
  rw [showsSource, (normalizedComponent_some found).2.2.1, Option.any_eq_true] at shown
  obtain ⟨native, refers, same⟩ := shown
  rw [isFromSource, (nativeReference_source refers).1, eq_of_beq same]
  exact beq_self_eq_true _

instance : Std.TransCmp compareObservations :=
  inferInstanceAs (Std.TransCmp (compareLex (compareOn ObservationKey.observedAt)
    (compareLex (compareOn ObservationKey.confidence) (compareOn ObservationKey.evidenceIds))))

theorem outranks_asymm (component existing : NormalizedComponent) (above : outranks component existing = true) :
    outranks existing component = false := gt_asymm above

theorem outranks_split (first second third : NormalizedComponent) (above : outranks first third = true) :
    outranks first second = true ∨ outranks second third = true := gt_split above

variable (digest context) in
theorem shown_count (names : ∀ entry ∈ entries, NamesSource entry) (sourceId : String) :
    let components := (bestByKey (·.componentId) outranks (entries.filterMap (normalizedComponent digest context))).values
    components.countP (showsSource sourceId) ≤ entries.countP (isFromSource sourceId) ∧
      (components.countP (showsSource sourceId) = entries.countP (isFromSource sourceId) ↔
        ∀ before entry after, entries = before ++ entry :: after → isFromSource sourceId entry = true →
          RecordKept digest context before entry after) := by
  obtain ⟨bound, iff⟩ := countP_bestByKey (fun component : NormalizedComponent => component.componentId)
    outranks_asymm outranks_split (fun _ _ found shown => shown_from_source found shown) entries
  refine ⟨bound, iff.trans ?_⟩
  refine forall₄_congr fun before entry after split => forall_congr' fun from_source => survives_iff (names entry ?_) from_source
  rw [split]
  exact List.mem_append_right _ List.mem_cons_self

/-- The components of one asset, from one agent. -/
structure OfContext (context : EntryContext) (component : NormalizedComponent) : Prop where
  site : component.componentId.siteId = context.siteId
  asset : component.componentId.assetId = context.assetId
  source : component.sourceId = context.source.sourceId

def EntryContext.scope (context : EntryContext) (sourceId : String) : Component.SourceScope :=
  { siteId := context.siteId
    assetId := context.assetId
    agentSourceId := context.source.sourceId
    collectionSourceId := sourceId }

theorem presenceKey_scope (of : OfContext context component) (native : NativeReference) :
    (component.presenceKey native).scope = context.scope native.collectionSourceId := by
  rw [PresenceKey.scope, NormalizedComponent.presenceKey, EntryContext.scope, of.site, of.asset, of.source]

theorem scope_inj {first second : String} (same : context.scope first = context.scope second) : first = second :=
  congrArg Component.SourceScope.collectionSourceId same

theorem observedIds_eq {components : List NormalizedComponent} (of : ∀ component ∈ components, OfContext context component) :
    ((nativeComponents components).filter (·.1.scope = context.scope sourceId)).map (·.1.componentId) =
      (components.filter (showsSource sourceId)).map (·.componentId) := by
  induction components with
  | nil => rfl
  | cons component rest ih =>
    have rest_ids := ih fun other member => of other (List.mem_cons_of_mem _ member)
    have here := of component List.mem_cons_self
    rw [nativeComponents] at rest_ids ⊢
    cases native : component.native with
    | none =>
      have hidden : showsSource sourceId component = false := by rw [showsSource, native]; rfl
      rw [List.filterMap_cons_none (by rw [native]; rfl), rest_ids, List.filter_cons_of_neg (by rw [hidden]; exact nofun)]
    | some reference =>
      rw [List.filterMap_cons_some (by rw [native]; rfl)]
      by_cases same : reference.collectionSourceId = sourceId
      · have shown : showsSource sourceId component = true := by
          rw [showsSource, native, Option.any_some, same]
          exact beq_self_eq_true _
        rw [List.filter_cons_of_pos (by simp [presenceKey_scope here, same]), List.filter_cons_of_pos shown, List.map_cons,
          List.map_cons, rest_ids]
        rfl
      · have hidden : showsSource sourceId component = false := by
          rw [showsSource, native, Option.any_some]
          exact beq_eq_false_iff_ne.mpr same
        have apart : ¬ (component.presenceKey reference).scope = context.scope sourceId := by
          rw [presenceKey_scope here]
          exact fun shared => same (scope_inj shared)
        rw [List.filter_cons_of_neg (by simpa using apart), List.filter_cons_of_neg (by rw [hidden]; exact nofun), rest_ids]

theorem observedBySource_length {components : List NormalizedComponent} (of : ∀ component ∈ components, OfContext context component)
    (distinct : (components.map (·.componentId)).Nodup) (sourceId : String) :
    (observedBySource components (context.scope sourceId)).length = components.countP (showsSource sourceId) := by
  have nodup := distinct.sublist (List.filter_sublist.map _ : ((components.filter (showsSource sourceId)).map _).Sublist _)
  rw [observedBySource, observedIds_eq of, nodup.dedup, List.length_map, List.countP_eq_length_filter]

end OpenAssetWatch.Ingestion

namespace OpenAssetWatch.Ingestion

open Library Text Component

section

variable {c : Char} (named : isArchitectureChar c = true)

include named

theorem nameChar_range : (97 ≤ c.toNat ∧ c.toNat ≤ 122) ∨ (48 ≤ c.toNat ∧ c.toNat ≤ 57) ∨ c.toNat = 95 ∨ c.toNat = 46 ∨
    c.toNat = 45 := by
  simp only [isArchitectureChar, Bool.or_eq_true, beq_iff_eq] at named
  rcases named with ((plain | rfl) | rfl) | rfl
  · rcases plain_range plain with letter | digit
    · exact .inl letter
    · exact .inr (.inl digit)
  · decide
  · decide
  · decide

theorem nameChar_not_space : isSpace c = false := by
  have range := nameChar_range named
  simp only [isSpace, Bool.or_eq_false_iff, Bool.and_eq_false_iff, decide_eq_false_iff_not, beq_eq_false_iff_ne]
  omega

theorem nameChar_not_control : isControl c = false := by
  have range := nameChar_range named
  simp only [isControl, Bool.or_eq_false_iff, decide_eq_false_iff_not, beq_eq_false_iff_ne]
  omega

end

theorem sourceName_chars {text : String} (named : isSourceName text = true) :
    text.toList ≠ [] ∧ text.toList.length ≤ 64 ∧ ∀ c ∈ text.toList, isArchitectureChar c = true := by
  rw [isSourceName, isName] at named
  split at named
  · cases named
  · rename_i c rest split
    simp only [Bool.and_eq_true, decide_eq_true_eq] at named
    obtain ⟨⟨first, others⟩, short⟩ := named
    rw [split]
    refine ⟨nofun, Nat.succ_le_succ short, fun d member => ?_⟩
    rcases List.mem_cons.mp member with rfl | later
    · simp only [isArchitectureChar, Bool.or_eq_true]
      exact .inl (.inl (.inl first))
    · exact List.all_eq_true.mp others d later

theorem boundedString_sourceName {text : String} (named : isSourceName text = true) :
    boundedString 64 (.string text) = some text := by
  obtain ⟨filled, short, chars⟩ := sourceName_chars named
  have clean : boundedText 64 (some text) = text.toList := by
    have whole : boundedText 64 (some (String.ofList text.toList)) = text.toList.take 64 :=
      boundedText_clean (fun c member => nameChar_not_space (chars c member)) fun c member => nameChar_not_control (chars c member)
    rw [String.ofList_toList, List.take_of_length_le short] at whole
    exact whole
  rw [boundedString, Json.text?, clean, nonempty, if_neg (by rwa [List.isEmpty_iff]), Option.map_some, String.ofList_toList]

/-- What the checks of the projection rely on in the software sources of an envelope. -/
structure SourcesAdmitted (sources : List CanonicalSoftwareSource) : Prop where
  few : sources.length ≤ 8
  distinct : (sources.map (·.sourceId)).Nodup
  named : ∀ source ∈ sources, isSourceName source.sourceId = true
  reviewed : ∀ source ∈ sources, (reviewedSources source.platform).contains source.sourceId = true
  clean : ∀ source ∈ sources, source.status = .complete → source.truncated = false ∧ source.errorCode = none

/-- The entries name sources of the envelope that did not fail. -/
structure EntriesAdmitted (sources : List CanonicalSoftwareSource) (entries : List Json) : Prop where
  names : ∀ entry ∈ entries, NamesSource entry
  reported : ∀ entry ∈ entries, ∀ sourceId, boundedString 64 (entry.get "collection_source_id") = some sourceId →
    ∃ source ∈ sources, source.sourceId = sourceId
  succeeded : ∀ entry ∈ entries, ∀ source ∈ sources, isFromSource source.sourceId entry = true →
    source.status ≠ .failed ∧ source.status ≠ .unsupported

section

variable {asset : Json} {context : EntryContext} {canonicalCollectionId : String} {sources : List CanonicalSoftwareSource}

theorem sourceSnapshots_eq (admitted : SourcesAdmitted sources) :
    (sources.take 8).filterMap (sourceSnapshot asset context canonicalCollectionId) =
      sources.map fun source => snapshotOf asset context canonicalCollectionId source source.sourceId := by
  rw [List.take_of_length_le admitted.few, ← List.filterMap_eq_map]
  apply List.filterMap_congr
  intro source member
  have named := admitted.named source member
  rw [sourceSnapshot, boundedString_sourceName named, Option.filter_some, if_pos named]
  rfl

variable {hub : Hub} {stored : Dict Component.SourceScope SourceState}

theorem lockSite_ok {snapshots : List ComponentSourceSnapshot} (siteId : String) (filled : snapshots ≠ [])
    (sites : ∀ snapshot ∈ snapshots, snapshot.scope.siteId = siteId) (configured : hub.configured siteId = true) :
    Component.lockSite hub snapshots = .ok () := by
  have one : (snapshots.map (·.scope.siteId)).dedup = [siteId] := by
    have all : snapshots.map (·.scope.siteId) = List.replicate snapshots.length siteId := by
      rw [List.eq_replicate_iff, List.length_map]
      refine ⟨rfl, fun site member => ?_⟩
      obtain ⟨snapshot, listed, rfl⟩ := List.mem_map.mp member
      exact sites snapshot listed
    rw [all]
    exact List.replicate_dedup fun empty => filled (List.length_eq_zero_iff.mp empty)
  rw [Component.lockSite, one]
  exact require_eq_ok.mpr configured

theorem validateSnapshots_ok (rest : List CanonicalSoftwareSource) (admitted : SourcesAdmitted rest) (seen : List Component.SourceScope)
    (fresh : ∀ source ∈ rest, context.scope source.sourceId ∉ seen)
    (bound : ∀ snapshot ∈ rest.map fun source => snapshotOf asset context canonicalCollectionId source source.sourceId,
      hub.authority canonicalCollectionId = some (boundEndpoint snapshot))
    (ordered : ∀ snapshot ∈ rest.map fun source => snapshotOf asset context canonicalCollectionId source source.sourceId,
      inOrder stored snapshot = true) :
    validateSnapshots hub stored seen
      (rest.map fun source => snapshotOf asset context canonicalCollectionId source source.sourceId) = .ok () := by
  induction rest generalizing seen with
  | nil => rfl
  | cons source rest ih =>
    obtain ⟨apart, distinct⟩ := List.nodup_cons.mp admitted.distinct
    have tail : SourcesAdmitted rest :=
      { few := (Nat.le_succ _).trans admitted.few
        distinct
        named := fun other member => admitted.named other (List.mem_cons_of_mem _ member)
        reviewed := fun other member => admitted.reviewed other (List.mem_cons_of_mem _ member)
        clean := fun other member => admitted.clean other (List.mem_cons_of_mem _ member) }
    have first : validateSnapshot hub stored seen (snapshotOf asset context canonicalCollectionId source source.sourceId) =
        .ok () := by
      have complete : (!((snapshotOf asset context canonicalCollectionId source source.sourceId).collectionStatus == .complete &&
          ((snapshotOf asset context canonicalCollectionId source source.sourceId).truncated ||
            isTruthy (snapshotOf asset context canonicalCollectionId source source.sourceId).errorCode))) = true := by
        cases status : source.status with
        | complete =>
          obtain ⟨whole, unfailed⟩ := admitted.clean source List.mem_cons_self status
          simp only [snapshotOf, whole, unfailed, status]
          rfl
        | partially => simp [snapshotOf, status]
        | unsupported => simp [snapshotOf, status]
        | failed => simp [snapshotOf, status]
      have unseen : (!seen.contains (snapshotOf asset context canonicalCollectionId source source.sourceId).scope) = true := by
        rw [Bool.not_eq_true', List.contains_eq_mem, decide_eq_false_iff_not]
        exact fresh source List.mem_cons_self
      rw [validateSnapshot]
      simp only [require_bind_eq_ok]
      refine ⟨?_, admitted.reviewed source List.mem_cons_self, ?_, complete, unseen, ?_⟩
      · exact beq_iff_eq.mpr (bound _ List.mem_cons_self)
      · exact beq_self_eq_true _
      · exact require_eq_ok.mpr (ordered _ List.mem_cons_self)
    rw [List.map_cons, validateSnapshots, first]
    apply ih tail
    · intro other member seen_or_here
      rcases List.mem_cons.mp seen_or_here with here | earlier
      · have same : other.sourceId = source.sourceId := scope_inj here
        exact apart (List.mem_map.mpr ⟨other, member, same⟩)
      · exact fresh other (List.mem_cons_of_mem _ member) earlier
    · exact fun snapshot member => bound snapshot (List.mem_cons_of_mem _ member)
    · exact fun snapshot member => ordered snapshot (List.mem_cons_of_mem _ member)

end

theorem checkCounts_cases {components : List NormalizedComponent} {snapshots : List ComponentSourceSnapshot}
    (quiet : ∀ snapshot ∈ snapshots, snapshot.collectionStatus = .failed ∨ snapshot.collectionStatus = .unsupported →
      (observedBySource components snapshot.scope).length = 0) :
    (checkCounts components snapshots = .ok () ∧
        ∀ snapshot ∈ snapshots, (observedBySource components snapshot.scope).length = snapshot.recordCount) ∨
      (checkCounts components snapshots = .error .recordCountMismatch ∧
        ¬ ∀ snapshot ∈ snapshots, (observedBySource components snapshot.scope).length = snapshot.recordCount) := by
  induction snapshots with
  | nil => exact .inl ⟨rfl, nofun⟩
  | cons snapshot rest ih =>
    have tail := ih fun other member => quiet other (List.mem_cons_of_mem _ member)
    by_cases equal : (observedBySource components snapshot.scope).length = snapshot.recordCount
    · have counted : ((observedBySource components snapshot.scope).length == snapshot.recordCount) = true := beq_iff_eq.mpr equal
      have silent : (!((snapshot.collectionStatus == .failed || snapshot.collectionStatus == .unsupported) &&
          (observedBySource components snapshot.scope).length != 0)) = true := by
        cases status : snapshot.collectionStatus with
        | failed =>
          rw [quiet snapshot List.mem_cons_self (.inl status)]
          rfl
        | unsupported =>
          rw [quiet snapshot List.mem_cons_self (.inr status)]
          rfl
        | complete => rfl
        | partially => rfl
      have step : checkCounts components (snapshot :: rest) = checkCounts components rest := by
        rw [checkCounts]
        simp only [counted, silent]
        rfl
      rw [step, List.forall_mem_cons]
      rcases tail with ⟨passes, all⟩ | ⟨fails, some⟩
      · exact .inl ⟨passes, equal, all⟩
      · exact .inr ⟨fails, fun all => some all.2⟩
    · refine .inr ⟨?_, fun all => equal (all snapshot List.mem_cons_self)⟩
      have differs : ((observedBySource components snapshot.scope).length == snapshot.recordCount) = false :=
        beq_eq_false_iff_ne.mpr equal
      rw [checkCounts]
      simp only [differs]
      rfl

end OpenAssetWatch.Ingestion
