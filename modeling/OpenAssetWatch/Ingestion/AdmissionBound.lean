import OpenAssetWatch.Ingestion.AdmissionWindow
import OpenAssetWatch.Library.Run

namespace OpenAssetWatch.Ingestion

open Library Library.Run

/-- The times of one minute, without its first moment or without its last. -/
inductive MinuteWindow where
  | after (start : Time)
  | since (start : Time)
deriving DecidableEq, Repr

def MinuteWindow.holds : MinuteWindow → Time → Bool
  | .after start, time => start < time && time ≤ start + admissionWindow
  | .since start, time => start ≤ time && time < start + admissionWindow

theorem MinuteWindow.near {window : MinuteWindow} {first second : Time} (one : window.holds first = true)
    (two : window.holds second = true) : first - admissionWindow < second := by
  cases window with
  | after start =>
    simp only [holds, Bool.and_eq_true, decide_eq_true_eq] at one two
    have : first - admissionWindow ≤ start := sub_le_iff_le_add.mpr one.2
    exact this.trans_lt two.1
  | since start =>
    simp only [holds, Bool.and_eq_true, decide_eq_true_eq] at one two
    have : first - admissionWindow < start := sub_lt_iff_lt_add.mpr one.2
    exact this.trans_le two.1

/-- The collections accepted in a window, for each authenticated source, for each site and adapter, and for each adapter. -/
structure WithinLimits (sources : List (String × SourceScope)) (collections : List CanonicalCollection) (window : MinuteWindow) :
    Prop where
  source : ∀ sourceId scope, sources.lookup sourceId = some scope → scope.sourceAuthority.isAuthenticated = true →
    (collections.countP fun row => window.holds row.ingestedAt && row.sourceId = sourceId) ≤ admissionLimit scope.adapterType
  site : ∀ siteId adapterType, (collections.countP fun row =>
    window.holds row.ingestedAt && (row.siteId = siteId && row.adapterType = adapterType && lowerTrust sources row)) ≤
      admissionLimit adapterType
  adapter : ∀ adapterType, (collections.countP fun row =>
    window.holds row.ingestedAt && (row.adapterType = adapterType && lowerTrust sources row)) ≤
      admissionLimit adapterType * lowerTrustGlobalAdmissionMultiplier

def IngestPhase.holdsSite : IngestPhase → Bool
  | .arrived | .siteEnsured | .unreplayed | .done _ => false
  | _ => true

def IngestPhase.holdsSource : IngestPhase → Bool
  | .sourceUpserted | .sensorUpdated | .adapterLocked | .cleared | .admitted | .inserted => true
  | _ => false

def IngestPhase.holdsAdapter : IngestPhase → Bool
  | .adapterLocked | .cleared | .admitted | .inserted => true
  | _ => false

def IngestPhase.isCleared : IngestPhase → Bool
  | .cleared | .admitted | .inserted => true
  | _ => false

def IngestPhase.isAdmitted : IngestPhase → Bool
  | .admitted | .inserted => true
  | _ => false

theorem IngestPhase.holdsAdapter_of_isCleared {phase : IngestPhase} (cleared : phase.isCleared = true) :
    phase.holdsAdapter = true := by
  cases phase <;> first | rfl | cases cleared

theorem IngestPhase.holdsSource_of_isAdmitted {phase : IngestPhase} (admitted : phase.isAdmitted = true) :
    phase.holdsSource = true := by
  cases phase <;> first | rfl | cases admitted

theorem IngestPhase.holdsSite_of_isAdmitted {phase : IngestPhase} (admitted : phase.isAdmitted = true) :
    phase.holdsSite = true := by
  cases phase <;> first | rfl | cases admitted

section

variable {ι : Type} (envelope : ι → CanonicalInventoryEnvelope) (state : IngestState ι)

/-- What the phase of a delivery says of the locks and of the tables. -/
structure PhaseHolds (i : ι) (phase : IngestPhase) : Prop where
  site : phase.holdsSite = true → state.siteLock (envelope i).siteId = some i
  source : phase.holdsSource = true → state.sourceLock (envelope i).sourceId = some i
  scope : phase.holdsSource = true → ∀ scope, state.sources.lookup (envelope i).sourceId = some scope → scope = (envelope i).scope
  adapter : phase.holdsAdapter = true → (envelope i).sourceAuthenticated = false →
    ∃ lockId, lowerTrustAdmissionLockId (envelope i).adapterType = some lockId ∧ state.advisoryLock lockId = some i
  globally : phase.isCleared = true → (envelope i).sourceAuthenticated = false →
    globalBatches state (envelope i) < admissionLimit (envelope i).adapterType * lowerTrustGlobalAdmissionMultiplier
  recent : phase.isAdmitted = true → recentBatches state (envelope i) < admissionLimit (envelope i).adapterType

structure AdmissionInvariant : Prop where
  standing : ∀ i, PhaseHolds envelope state i (state.phase i)
  rows : ∀ row ∈ state.collections, ∃ scope, state.sources.lookup row.sourceId = some scope
  within : ∀ window, WithinLimits state.sources state.collections window

end

section

variable {ι : Type} {envelope : ι → CanonicalInventoryEnvelope} {state next : IngestState ι} {i j : ι} {phase : IngestPhase}

/-- What a delivery holds is not taken from it. -/
structure KeepsLocks (state next : IngestState ι) (j : ι) : Prop where
  site : ∀ key, state.siteLock key = some j → next.siteLock key = some j
  source : ∀ key, state.sourceLock key = some j → next.sourceLock key = some j
  advisory : ∀ key, state.advisoryLock key = some j → next.advisoryLock key = some j

/-- The tables that admission reads are as they were. -/
structure SameTables (state next : IngestState ι) : Prop where
  sources : next.sources = state.sources
  collections : next.collections = state.collections

theorem SameTables.globalBatches (same : SameTables state next) (delivery : CanonicalInventoryEnvelope) :
    globalBatches next delivery = globalBatches state delivery := by
  rw [Ingestion.globalBatches, Ingestion.globalBatches, same.sources, same.collections]

theorem SameTables.recentBatches (same : SameTables state next) (delivery : CanonicalInventoryEnvelope) :
    recentBatches next delivery = recentBatches state delivery := by
  rw [Ingestion.recentBatches, Ingestion.recentBatches, same.collections]

theorem PhaseHolds.frame (standing : PhaseHolds envelope state j phase) (undisturbed : KeepsLocks state next j)
    (same : SameTables state next) : PhaseHolds envelope next j phase where
  site held := undisturbed.site _ (standing.site held)
  source held := undisturbed.source _ (standing.source held)
  scope held := by
    rw [same.sources]
    exact standing.scope held
  adapter held lower := by
    obtain ⟨lockId, named, locked⟩ := standing.adapter held lower
    exact ⟨lockId, named, undisturbed.advisory _ locked⟩
  globally held lower := by
    rw [same.globalBatches]
    exact standing.globally held lower
  recent held := by
    rw [same.recentBatches]
    exact standing.recent held

theorem AdmissionInvariant.move (invariant : AdmissionInvariant envelope state) (same : SameTables state next)
    (others : ∀ j, j ≠ i → next.phase j = state.phase j ∧ KeepsLocks state next j)
    (here : PhaseHolds envelope next i (next.phase i)) : AdmissionInvariant envelope next where
  standing j := by
    by_cases own : j = i
    · rw [own]
      exact here
    · rw [(others j own).1]
      exact (invariant.standing j).frame (others j own).2 same
  rows := by
    rw [same.sources, same.collections]
    exact invariant.rows
  within := by
    rw [same.sources, same.collections]
    exact invariant.within

theorem standing_done (outcome : IngestOutcome) : PhaseHolds envelope state i (.done outcome) :=
  ⟨nofun, nofun, nofun, nofun, nofun, nofun⟩

theorem keepsLocks_of_eq (site : next.siteLock = state.siteLock) (source : next.sourceLock = state.sourceLock)
    (advisory : next.advisoryLock = state.advisoryLock) : KeepsLocks state next j := by
  constructor
  · rw [site]
    exact fun _ held => held
  · rw [source]
    exact fun _ held => held
  · rw [advisory]
    exact fun _ held => held

variable [DecidableEq ι]

theorem AdmissionInvariant.enter (invariant : AdmissionInvariant envelope state) (here : PhaseHolds envelope state i phase) :
    AdmissionInvariant envelope (state.enter i phase) := by
  have same : SameTables state (state.enter i phase) := ⟨rfl, rfl⟩
  have undisturbed (j : ι) : KeepsLocks state (state.enter i phase) j := keepsLocks_of_eq rfl rfl rfl
  apply invariant.move same
  · intro j apart
    exact ⟨Function.update_of_ne apart _ _, undisturbed j⟩
  · rw [show (state.enter i phase).phase i = phase from Function.update_self _ _ _]
    exact here.frame (undisturbed i) same

theorem finish_keepsLocks {outcome : IngestOutcome} (apart : j ≠ i) : KeepsLocks state (state.finish i outcome) j :=
  ⟨fun _ held => LockTable.release_held held apart, fun _ held => LockTable.release_held held apart,
    fun _ held => LockTable.release_held held apart⟩

theorem AdmissionInvariant.finish (invariant : AdmissionInvariant envelope state) (outcome : IngestOutcome) :
    AdmissionInvariant envelope (state.finish i outcome) := by
  have same : SameTables state (state.finish i outcome) := ⟨rfl, rfl⟩
  apply invariant.move same
  · intro j apart
    exact ⟨Function.update_of_ne apart _ _, finish_keepsLocks apart⟩
  · rw [show (state.finish i outcome).phase i = .done outcome from Function.update_self _ _ _]
    exact standing_done outcome

section Statements

variable {verdict : Bool}

theorem ensureSite_invariant (invariant : AdmissionInvariant envelope state) :
    AdmissionInvariant envelope (ensureSite state i (envelope i)) := by
  have ensured (state : IngestState ι) : PhaseHolds envelope state i .siteEnsured := ⟨nofun, nofun, nofun, nofun, nofun, nofun⟩
  rw [ensureSite]
  split
  · split
    · rename_i available
      apply invariant.move (i := i)
      · exact ⟨rfl, rfl⟩
      · intro j apart
        exact ⟨Function.update_of_ne apart _ _,
          ⟨fun _ held => LockTable.acquire_held available held apart, fun _ held => held, fun _ held => held⟩⟩
      · rw [show (_ : IngestState ι).phase i = .siteEnsured from Function.update_self _ _ _]
        exact ensured _
    · exact invariant
  · exact invariant.enter (ensured state)

theorem lockSite_invariant (invariant : AdmissionInvariant envelope state) :
    AdmissionInvariant envelope (lockSite state i (envelope i)) := by
  have locked (state : IngestState ι) (held : state.siteLock (envelope i).siteId = some i) : PhaseHolds envelope state i .siteLocked :=
    ⟨fun _ => held, nofun, nofun, nofun, nofun, nofun⟩
  rw [lockSite]
  split
  · split
    · rename_i available
      apply invariant.move (i := i)
      · exact ⟨rfl, rfl⟩
      · intro j apart
        exact ⟨Function.update_of_ne apart _ _,
          ⟨fun _ held => LockTable.acquire_held available held apart, fun _ held => held, fun _ held => held⟩⟩
      · rw [show (_ : IngestState ι).phase i = .siteLocked from Function.update_self _ _ _]
        exact locked _ LockTable.acquire_self
    · exact invariant
  · split
    · rename_i own
      exact invariant.enter (locked state own)
    · exact invariant.finish _

theorem findReplay_invariant (invariant : AdmissionInvariant envelope state) {missing : IngestPhase}
    (here : PhaseHolds envelope state i missing) : AdmissionInvariant envelope (findReplay state i (envelope i) missing) := by
  rw [findReplay]
  split
  · exact invariant.enter here
  · split
    · exact invariant.finish _
    · have ended := invariant.finish (i := i) .duplicate
      exact ⟨fun j => (ended.standing j).frame (keepsLocks_of_eq rfl rfl rfl) ⟨rfl, rfl⟩, ended.rows, ended.within⟩

theorem verifyBoundCredential_invariant (invariant : AdmissionInvariant envelope state) (here : state.phase i = .siteLocked) :
    AdmissionInvariant envelope (verifyBoundCredential state i (envelope i) verdict) := by
  have standing := invariant.standing i
  rw [here] at standing
  have verified : PhaseHolds envelope state i .verified := ⟨standing.site, nofun, nofun, nofun, nofun, nofun⟩
  rw [verifyBoundCredential]
  split
  · split
    · exact invariant.enter verified
    · exact invariant.finish _
  · split
    · exact invariant.enter verified
    · exact invariant.finish _
  · exact invariant.enter verified
  · exact invariant.enter verified

theorem upsertSource_invariant (invariant : AdmissionInvariant envelope state) (here : state.phase i = .verified) :
    AdmissionInvariant envelope (upsertSource state i (envelope i)) := by
  have standing := invariant.standing i
  rw [here] at standing
  rw [upsertSource]
  split
  · rename_i available
    split
    · rename_i same
      apply invariant.move (i := i)
      · exact ⟨rfl, rfl⟩
      · intro j apart
        exact ⟨Function.update_of_ne apart _ _,
          ⟨fun _ held => held, fun _ held => LockTable.acquire_held available held apart, fun _ held => held⟩⟩
      · rw [show (_ : IngestState ι).phase i = .sourceUpserted from Function.update_self _ _ _]
        refine ⟨standing.site, fun _ => LockTable.acquire_self, fun _ scope stored => ?_, (fun later => by cases later),
          (fun later => by cases later), fun later => by cases later⟩
        have stored : state.sources.lookup (envelope i).sourceId = some scope := stored
        rw [stored] at same
        simpa using same
    · exact invariant.finish _
  · exact invariant

theorem updateSensorStatus_invariant (invariant : AdmissionInvariant envelope state) (here : state.phase i = .sourceUpserted) :
    AdmissionInvariant envelope (updateSensorStatus state i (envelope i) verdict) := by
  have standing := invariant.standing i
  rw [here] at standing
  rw [updateSensorStatus]
  split
  · exact invariant.enter ⟨standing.site, standing.source, standing.scope, (fun later => by cases later), (fun later => by cases later),
      fun later => by cases later⟩
  · exact invariant.finish _

theorem lockAdapter_invariant (invariant : AdmissionInvariant envelope state) (here : state.phase i = .sensorUpdated) :
    AdmissionInvariant envelope (lockAdapter state i (envelope i)) := by
  have standing := invariant.standing i
  rw [here] at standing
  rw [lockAdapter]
  split
  · exact invariant.finish _
  · rename_i lockId named
    split
    · rename_i available
      apply invariant.move (i := i)
      · exact ⟨rfl, rfl⟩
      · intro j apart
        exact ⟨Function.update_of_ne apart _ _,
          ⟨fun _ held => held, fun _ held => held, fun _ held => LockTable.acquire_held available held apart⟩⟩
      · rw [show (_ : IngestState ι).phase i = .adapterLocked from Function.update_self _ _ _]
        exact ⟨standing.site, standing.source, standing.scope, fun _ _ => ⟨lockId, named, LockTable.acquire_self⟩,
          (fun later => by cases later), fun later => by cases later⟩
    · exact invariant

theorem admitGlobally_invariant (invariant : AdmissionInvariant envelope state) (here : state.phase i = .adapterLocked) :
    AdmissionInvariant envelope (admitGlobally state i (envelope i)) := by
  have standing := invariant.standing i
  rw [here] at standing
  rw [admitGlobally]
  split
  · exact invariant.finish _
  · rename_i room
    exact invariant.enter ⟨standing.site, standing.source, standing.scope, standing.adapter, fun _ _ => not_le.mp room,
      fun later => by cases later⟩

theorem admitRecent_invariant (invariant : AdmissionInvariant envelope state) (here : state.phase i = .cleared) :
    AdmissionInvariant envelope (admitRecent state i (envelope i)) := by
  have standing := invariant.standing i
  rw [here] at standing
  rw [admitRecent]
  split
  · exact invariant.finish _
  · rename_i room
    exact invariant.enter ⟨standing.site, standing.source, standing.scope, standing.adapter, standing.globally,
      fun _ => not_le.mp room⟩

theorem insertCollection_invariant (invariant : AdmissionInvariant envelope state) (here : state.phase i = .admitted) :
    AdmissionInvariant envelope (insertCollection state i (envelope i)) := by
  have standing := invariant.standing i
  rw [here] at standing
  rw [insertCollection]
  split
  · split
    · exact invariant.finish _
    · apply invariant.move (i := i)
      · exact ⟨rfl, rfl⟩
      · intro j apart
        exact ⟨Function.update_of_ne apart _ _, keepsLocks_of_eq rfl rfl rfl⟩
      · rw [show (_ : IngestState ι).phase i = .inserted from Function.update_self _ _ _]
        have inserted : PhaseHolds envelope state i .inserted :=
          ⟨standing.site, standing.source, standing.scope, standing.adapter, standing.globally, standing.recent⟩
        exact inserted.frame (keepsLocks_of_eq rfl rfl rfl) ⟨rfl, rfl⟩
  · exact invariant

end Statements

end

section Commit

variable {delivery : CanonicalInventoryEnvelope} {sources : List (String × SourceScope)} {sourceId : String} {scope : SourceScope}

theorem recordSource_lookup (stored : sources.lookup sourceId = some scope) :
    (recordSource delivery sources).lookup sourceId = some scope := by
  rw [recordSource]
  split
  · exact stored
  · rw [List.lookup_append, stored, Option.some_or]

theorem recordSource_own (agrees : ∀ scope, sources.lookup delivery.sourceId = some scope → scope = delivery.scope) :
    (recordSource delivery sources).lookup delivery.sourceId = some delivery.scope := by
  rw [recordSource]
  cases stored : sources.lookup delivery.sourceId with
  | some scope =>
    rw [if_pos (by rfl), stored, agrees scope stored]
  | none =>
    rw [if_neg (by simp), List.lookup_append, stored, Option.none_or, List.lookup_cons_self]

theorem recordSource_inv (stored : (recordSource delivery sources).lookup sourceId = some scope) :
    sources.lookup sourceId = some scope ∨ sourceId = delivery.sourceId ∧ scope = delivery.scope := by
  rw [recordSource] at stored
  split at stored
  · exact Or.inl stored
  · rw [List.lookup_append] at stored
    cases before : sources.lookup sourceId with
    | some other =>
      rw [before, Option.some_or] at stored
      exact Or.inl stored
    | none =>
      right
      rw [before, Option.none_or] at stored
      by_cases same : sourceId = delivery.sourceId
      · rw [same, List.lookup_cons_self] at stored
        exact ⟨same, (Option.some.inj stored).symm⟩
      · rw [List.lookup_cons, beq_eq_false_iff_ne.mpr same] at stored
        cases stored

theorem recordSource_lowerTrust {row : CanonicalCollection} (stored : sources.lookup row.sourceId = some scope) :
    lowerTrust (recordSource delivery sources) row = lowerTrust sources row := by
  rw [lowerTrust, lowerTrust, recordSource_lookup stored, stored]

theorem lowerTrust_unauthenticated
    (agrees : ∀ scope, sources.lookup delivery.sourceId = some scope → scope = delivery.scope)
    (lower : lowerTrust (recordSource delivery sources) delivery.collection = true) : delivery.sourceAuthenticated = false := by
  rw [lowerTrust, show delivery.collection.sourceId = delivery.sourceId from rfl, recordSource_own agrees] at lower
  have unbound : delivery.authenticationClass ≠ .boundCredential := of_decide_eq_true lower
  by_contra authenticated
  exact unbound (delivery.authenticated (Bool.of_not_eq_false authenticated))

end Commit

theorem countP_append_le {rows : List CanonicalCollection} {row : CanonicalCollection} {counted before seen : CanonicalCollection → Bool}
    {limit : Nat} (same : ∀ other ∈ rows, counted other = before other) (bound : rows.countP before ≤ limit)
    (admitted : counted row = true → (∀ other ∈ rows, before other = true → seen other = true) ∧ rows.countP seen < limit) :
    (rows ++ [row]).countP counted ≤ limit := by
  have rewritten : rows.countP counted = rows.countP before :=
    List.countP_congr fun other member => by rw [same other member]
  rw [List.countP_append, List.countP_singleton, rewritten]
  split
  · rename_i here
    obtain ⟨covered, room⟩ := admitted here
    have fewer : rows.countP before ≤ rows.countP seen := List.countP_mono_left covered
    omega
  · exact bound

theorem countP_append_eq {rows : List CanonicalCollection} {row : CanonicalCollection} {counted before : CanonicalCollection → Bool}
    (same : ∀ other ∈ rows, counted other = before other) (skipped : counted row ≠ true) :
    (rows ++ [row]).countP counted = rows.countP before := by
  rw [List.countP_append, List.countP_singleton, if_neg skipped, Nat.add_zero]
  exact List.countP_congr fun other member => by rw [same other member]

section Commit

variable {ι : Type} {envelope : ι → CanonicalInventoryEnvelope} {state : IngestState ι} {i j : ι}

theorem commit_within (invariant : AdmissionInvariant envelope state) (standing : PhaseHolds envelope state i .inserted)
    (window : MinuteWindow) :
    WithinLimits (recordSource (envelope i) state.sources) (state.collections ++ [(envelope i).collection]) window := by
  have before := invariant.within window
  have agrees := standing.scope rfl
  have room := standing.recent rfl
  have own := recordSource_own agrees
  have same (row : CanonicalCollection) (member : row ∈ state.collections) :
      lowerTrust (recordSource (envelope i) state.sources) row = lowerTrust state.sources row := by
    obtain ⟨scope, stored⟩ := invariant.rows row member
    exact recordSource_lowerTrust stored
  have unauthenticated := lowerTrust_unauthenticated agrees
  constructor
  · intro sourceId scope stored authenticated
    have old : (state.collections.countP fun row => window.holds row.ingestedAt && row.sourceId = sourceId) ≤
        admissionLimit scope.adapterType := by
      cases known : state.sources.lookup sourceId with
      | some other =>
        rw [recordSource_lookup known] at stored
        cases stored
        exact before.source sourceId scope known authenticated
      | none =>
        -- A source without a row has no collections yet.
        rw [List.countP_eq_zero.mpr]
        · exact Nat.zero_le _
        · intro row member counted
          obtain ⟨other, found⟩ := invariant.rows row member
          simp only [Bool.and_eq_true, decide_eq_true_eq] at counted
          rw [counted.2, known] at found
          cases found
    apply countP_append_le (fun _ _ => rfl) old
    intro counted
    simp only [Bool.and_eq_true, decide_eq_true_eq] at counted
    obtain ⟨inside, source⟩ := counted
    have source : (envelope i).sourceId = sourceId := source
    rw [← source, own] at stored
    cases stored
    have bound : (envelope i).sourceAuthenticated = true := authenticated
    refine ⟨fun row member listed => ?_, room⟩
    simp only [Bool.and_eq_true, decide_eq_true_eq] at listed
    simp only [bound, if_true, Bool.and_eq_true, decide_eq_true_eq]
    exact ⟨MinuteWindow.near inside listed.1, listed.2.trans source.symm⟩
  · intro siteId adapterType
    apply countP_append_le (fun row member => by rw [same row member]) (before.site siteId adapterType)
    intro counted
    simp only [Bool.and_eq_true, decide_eq_true_eq] at counted
    obtain ⟨inside, ⟨site, adapter⟩, lower⟩ := counted
    have bound := unauthenticated lower
    have adapter : (envelope i).adapterType = adapterType := adapter
    rw [← adapter]
    refine ⟨fun row member listed => ?_, room⟩
    simp only [Bool.and_eq_true, decide_eq_true_eq] at listed
    simp only [bound, Bool.false_eq_true, if_false, Bool.and_eq_true, decide_eq_true_eq]
    exact ⟨MinuteWindow.near inside listed.1, listed.2.1.1.trans site.symm, listed.2.1.2⟩
  · intro adapterType
    apply countP_append_le (fun row member => by rw [same row member]) (before.adapter adapterType)
    intro counted
    simp only [Bool.and_eq_true, decide_eq_true_eq] at counted
    obtain ⟨inside, adapter, lower⟩ := counted
    have adapter : (envelope i).adapterType = adapterType := adapter
    rw [← adapter]
    refine ⟨fun row member listed => ?_, standing.globally rfl (unauthenticated lower)⟩
    simp only [Bool.and_eq_true, decide_eq_true_eq] at listed ⊢
    exact ⟨⟨MinuteWindow.near inside listed.1, listed.2.1⟩, listed.2.2⟩

theorem standing_commit {phase : IngestPhase} (invariant : AdmissionInvariant envelope state)
    (inserted : PhaseHolds envelope state i .inserted) (standing : PhaseHolds envelope state j phase) (apart : j ≠ i)
    {next : IngestState ι} (undisturbed : KeepsLocks state next j) (sources : next.sources = recordSource (envelope i) state.sources)
    (collections : next.collections = state.collections ++ [(envelope i).collection]) : PhaseHolds envelope next j phase where
  site held := undisturbed.site _ (standing.site held)
  source held := undisturbed.source _ (standing.source held)
  scope held scope stored := by
    rw [sources] at stored
    rcases recordSource_inv stored with known | ⟨same, -⟩
    · exact standing.scope held scope known
    · have other := standing.source held
      rw [same] at other
      exact absurd (LockTable.holder_eq other (inserted.source rfl)) apart
  adapter held lower := by
    obtain ⟨lockId, named, locked⟩ := standing.adapter held lower
    exact ⟨lockId, named, undisturbed.advisory _ locked⟩
  globally held lower := by
    have skipped : ¬((envelope j).ingestedAt - admissionWindow < (envelope i).collection.ingestedAt &&
        (envelope i).collection.adapterType = (envelope j).adapterType &&
        lowerTrust (recordSource (envelope i) state.sources) (envelope i).collection) = true := by
      intro counted
      simp only [Bool.and_eq_true, decide_eq_true_eq] at counted
      obtain ⟨⟨-, adapter⟩, trust⟩ := counted
      have adapter : (envelope i).adapterType = (envelope j).adapterType := adapter
      obtain ⟨lockId, named, locked⟩ := standing.adapter (IngestPhase.holdsAdapter_of_isCleared held) lower
      obtain ⟨otherId, otherNamed, otherLocked⟩ := inserted.adapter rfl (lowerTrust_unauthenticated (inserted.scope rfl) trust)
      rw [adapter, named] at otherNamed
      cases otherNamed
      exact apart (LockTable.holder_eq locked otherLocked)
    have same (row : CanonicalCollection) (member : row ∈ state.collections) :
        lowerTrust (recordSource (envelope i) state.sources) row = lowerTrust state.sources row := by
      obtain ⟨scope, stored⟩ := invariant.rows row member
      exact recordSource_lowerTrust stored
    rw [globalBatches, sources, collections, countP_append_eq (fun row member => by rw [same row member]) skipped]
    exact standing.globally held lower
  recent held := by
    have skipped : ¬((envelope j).ingestedAt - admissionWindow < (envelope i).collection.ingestedAt &&
        if (envelope j).sourceAuthenticated then (envelope i).collection.sourceId = (envelope j).sourceId
        else (envelope i).collection.siteId = (envelope j).siteId &&
          (envelope i).collection.adapterType = (envelope j).adapterType) = true := by
      intro counted
      simp only [Bool.and_eq_true, decide_eq_true_eq] at counted
      obtain ⟨-, shared⟩ := counted
      cases bound : (envelope j).sourceAuthenticated with
      | true =>
        simp only [bound, if_true, decide_eq_true_eq] at shared
        have shared : (envelope i).sourceId = (envelope j).sourceId := shared
        have mine := standing.source (IngestPhase.holdsSource_of_isAdmitted held)
        rw [← shared] at mine
        exact apart (LockTable.holder_eq mine (inserted.source rfl))
      | false =>
        simp only [bound, Bool.false_eq_true, if_false, Bool.and_eq_true, decide_eq_true_eq] at shared
        have shared : (envelope i).siteId = (envelope j).siteId := shared.1
        have mine := standing.site (IngestPhase.holdsSite_of_isAdmitted held)
        rw [← shared] at mine
        exact apart (LockTable.holder_eq mine (inserted.site rfl))
    rw [recentBatches, collections, countP_append_eq (fun _ _ => rfl) skipped]
    exact standing.recent held

theorem configureSite_invariant (invariant : AdmissionInvariant envelope state) (siteId : String) :
    AdmissionInvariant envelope (configureSite state siteId) := by
  rw [configureSite]
  split
  · exact invariant
  · exact ⟨fun j => (invariant.standing j).frame (keepsLocks_of_eq rfl rfl rfl) ⟨rfl, rfl⟩, invariant.rows, invariant.within⟩

theorem admissionInvariant_start (sites : List String) : AdmissionInvariant envelope { sites := sites : IngestState ι } where
  standing _ := ⟨nofun, nofun, nofun, nofun, nofun, nofun⟩
  rows _ member := nomatch member
  within _ := ⟨fun _ _ _ _ => Nat.zero_le _, fun _ _ => Nat.zero_le _, fun _ => Nat.zero_le _⟩

variable [DecidableEq ι]

theorem commitIngest_invariant (invariant : AdmissionInvariant envelope state) (here : state.phase i = .inserted) {verdict : Bool} :
    AdmissionInvariant envelope (commitIngest state i (envelope i) verdict) := by
  have inserted := invariant.standing i
  rw [here] at inserted
  rw [commitIngest]
  split
  · constructor
    · intro j
      by_cases own : j = i
      · rw [own, show (_ : IngestState ι).phase i = .done .accepted from Function.update_self _ _ _]
        exact standing_done .accepted
      · rw [show (_ : IngestState ι).phase j = state.phase j from Function.update_of_ne own _ _]
        have undisturbed : KeepsLocks state (state.finish i .accepted) j := finish_keepsLocks own
        exact standing_commit invariant inserted (invariant.standing j) own
          ⟨undisturbed.site, undisturbed.source, undisturbed.advisory⟩ rfl rfl
    · intro row member
      rcases List.mem_append.mp member with old | new
      · obtain ⟨scope, stored⟩ := invariant.rows row old
        exact ⟨scope, recordSource_lookup stored⟩
      · cases List.mem_singleton.mp new
        exact ⟨_, recordSource_own (inserted.scope rfl)⟩
    · exact fun window => commit_within invariant inserted window
  · exact invariant.finish _

theorem persistStatement_invariant (invariant : AdmissionInvariant envelope state) (verdict : Bool) :
    AdmissionInvariant envelope (persistStatement state i (envelope i) verdict) := by
  have standing := invariant.standing i
  rw [persistStatement]
  cases here : state.phase i with
  | arrived => exact ensureSite_invariant invariant
  | siteEnsured =>
    simp only
    split
    · exact lockSite_invariant invariant
    · exact findReplay_invariant invariant ⟨nofun, nofun, nofun, nofun, nofun, nofun⟩
  | unreplayed => exact lockSite_invariant invariant
  | siteLocked => exact verifyBoundCredential_invariant invariant here
  | verified => exact upsertSource_invariant invariant here
  | sourceUpserted => exact updateSensorStatus_invariant invariant here
  | sensorUpdated =>
    rw [here] at standing
    simp only
    split
    · rename_i bound
      -- An authenticated delivery passes without the adapter's lock.
      have unauthenticated (lower : (envelope i).sourceAuthenticated = false) : False := by
        rw [bound] at lower
        cases lower
      exact findReplay_invariant invariant ⟨standing.site, standing.source, standing.scope,
        fun _ lower => (unauthenticated lower).elim, fun _ lower => (unauthenticated lower).elim, nofun⟩
    · exact lockAdapter_invariant invariant here
  | adapterLocked => exact admitGlobally_invariant invariant here
  | cleared => exact admitRecent_invariant invariant here
  | admitted => exact insertCollection_invariant invariant here
  | inserted => exact commitIngest_invariant invariant here
  | done => exact invariant

theorem ingestStep_invariant (invariant : AdmissionInvariant envelope state) (event : IngestEvent ι) :
    AdmissionInvariant envelope (ingestStep envelope state event) := by
  cases event with
  | statement i verdict => exact persistStatement_invariant invariant verdict
  | configureSite siteId => exact configureSite_invariant invariant siteId

/-- However the deliveries take turns and whatever times they carry, no minute holds more than the limits. -/
theorem admission_limited (sites : List String) (events : List (IngestEvent ι)) (window : MinuteWindow) :
    WithinLimits (events.foldl (ingestStep envelope) { sites := sites }).sources
      (events.foldl (ingestStep envelope) { sites := sites }).collections window := by
  have invariant := invariant_end (AdmissionInvariant envelope) (fun state event before _ => ingestStep_invariant before event)
    (admissionInvariant_start sites) (along_true _ events)
  exact invariant.within window

end Commit

end OpenAssetWatch.Ingestion
