import OpenAssetWatch.Ingestion.AdmissionLocks
import OpenAssetWatch.Library.Run

namespace OpenAssetWatch.Ingestion

open Library.Run

/-- A lower-trust delivery that found nothing goes on to insert. -/
def Phase.isUnderWay : Phase → Bool
  | .unlocked | .locked | .verified | .inserted => true
  | _ => false

/-- What makes the hub refuse a delivery whatever is stored under its key. -/
def Rejects {ι : Type} (submission : Submission ι) (surroundings : Surroundings ι) (i : ι) : Rejection → Prop
  | .siteNotConfigured => surroundings.siteConfigured = false
  | .authorization => surroundings.identityValid i = false
  | .compatibilityWindow => submission.sourceAuthenticated = false ∧
      admissionLimit submission.adapterType * lowerTrustGlobalAdmissionMultiplier ≤ surroundings.globalBatches i
  | .adapterWindow => admissionLimit submission.adapterType ≤ surroundings.recentBatches i

/-- What the phase of a delivery says of the stored collection. -/
def PhaseSound {ι : Type} (submission : Submission ι) (surroundings : Surroundings ι) (collection : Option CollectionRow) (applied : List ι) (i : ι) :
    Phase → Prop
  | .arrived => True
  | .unlocked | .locked | .verified => submission.sourceAuthenticated = false → collection = none
  | .cleared => submission.sourceAuthenticated = true ∧ collection = none
  | .inserted => collection = none
  | .replaying _ | .done .duplicate =>
    ∃ w, applied = [w] ∧ i ≠ w ∧ submission.payloadSha256 i = submission.payloadSha256 w
  | .counted updated =>
    (∃ w, applied = [w] ∧ i ≠ w ∧ submission.payloadSha256 i = submission.payloadSha256 w) ∧
      (updated = true → collection.any (·.replayCount < maxReplayCount) = true)
  | .done .accepted => applied = [i]
  | .done .replayConflict => ∃ w, applied = [w] ∧ i ≠ w ∧ submission.payloadSha256 i ≠ submission.payloadSha256 w
  | .done (.rejected reason) => Rejects submission surroundings i reason
  | .done .uniqueViolation => False

structure Sound {ι : Type} (submission : Submission ι) (surroundings : Surroundings ι) (state : IngestionState ι) : Prop where
  locks : Locks state
  stored : state.applied = [] ∧ state.collection = none ∨ ∃ w row, state.applied = [w] ∧ state.collection = some row ∧
    row.payloadSha256 = submission.payloadSha256 w ∧ state.phase w = .done .accepted
  phases : ∀ j, PhaseSound submission surroundings state.collection state.applied j (state.phase j)
  alone : submission.sourceAuthenticated = false → ∀ j k, (state.phase j).isUnderWay = true →
    (state.phase k).isUnderWay = true → j = k
  replays : state.replayEvents = (state.collection.map (·.replayCount)).getD 0 ∧ state.replayEvents ≤ maxReplayCount

section

variable {ι : Type} [DecidableEq ι] {submission : Submission ι} {surroundings : Surroundings ι} {state : IngestionState ι} {i : ι}

theorem Sound.move (sound : Sound submission surroundings state) {next : IngestionState ι} (locks : Locks next)
    (others : ∀ j, j ≠ i → next.phase j = state.phase j) (collection : next.collection = state.collection)
    (applied : next.applied = state.applied) (events : next.replayEvents = state.replayEvents)
    (live : state.phase i ≠ .done .accepted)
    (here : PhaseSound submission surroundings state.collection state.applied i (next.phase i))
    (first : submission.sourceAuthenticated = false → (next.phase i).isUnderWay = true →
      (state.phase i).isUnderWay = true ∨ ∀ j, (state.phase j).isUnderWay = false) : Sound submission surroundings next where
  locks := locks
  stored := by
    rw [applied, collection]
    rcases sound.stored with empty | ⟨w, row, won, kept, same, done⟩
    · exact .inl empty
    · have apart : w ≠ i := fun same => live (same ▸ done)
      exact .inr ⟨w, row, won, kept, same, (others w apart).trans done⟩
  phases j := by
    rw [applied, collection]
    by_cases same : j = i
    · rw [same]
      exact here
    · rw [others j same]
      exact sound.phases j
  alone lower := by
    have before (j : ι) (way : (next.phase j).isUnderWay = true) :
        (state.phase j).isUnderWay = true ∨ j = i ∧ ∀ k, (state.phase k).isUnderWay = false := by
      by_cases same : j = i
      · rw [same] at way ⊢
        exact (first lower way).imp_right fun quiet => ⟨rfl, quiet⟩
      · rw [others j same] at way
        exact .inl way
    intro j k way way'
    rcases before j way with earlier | ⟨here, quiet⟩
    · rcases before k way' with earlier' | ⟨-, quiet⟩
      · exact sound.alone lower j k earlier earlier'
      · rw [quiet j] at earlier
        cases earlier
    · rcases before k way' with earlier' | ⟨here', -⟩
      · rw [quiet k] at earlier'
        cases earlier'
      · rw [here, here']
  replays := by
    rw [events, collection]
    exact sound.replays

theorem Sound.enter (sound : Sound submission surroundings state) {phase : Phase} (locks : Locks (state.enter i phase))
    (live : state.phase i ≠ .done .accepted) (here : PhaseSound submission surroundings state.collection state.applied i phase)
    (first : submission.sourceAuthenticated = false → phase.isUnderWay = true →
      (state.phase i).isUnderWay = true ∨ ∀ j, (state.phase j).isUnderWay = false) :
    Sound submission surroundings (state.enter i phase) := by
  have own : (state.enter i phase).phase i = phase := by rw [enter_phase, if_pos rfl]
  apply sound.move locks (fun j apart => by rw [enter_phase, if_neg apart]) rfl rfl rfl live
  · rw [own]
    exact here
  · rw [own]
    exact first

theorem Sound.finish (sound : Sound submission surroundings state) {outcome : Outcome} (live : state.phase i ≠ .done .accepted)
    (here : PhaseSound submission surroundings state.collection state.applied i (.done outcome)) :
    Sound submission surroundings (state.finish i outcome) := by
  have own : (state.finish i outcome).phase i = .done outcome := by rw [finish_phase, if_pos rfl]
  apply sound.move sound.locks.finish (fun j apart => by rw [finish_phase, if_neg apart]) rfl rfl rfl live
  · rw [own]
    exact here
  · rw [own]
    exact fun _ => nofun

theorem lockSiteRow_sound (sound : Sound submission surroundings state) (locks : Locks (lockSiteRow surroundings state i))
    (live : state.phase i ≠ .done .accepted)
    (fresh : submission.sourceAuthenticated = false → state.collection = none ∧ (state.phase i).isUnderWay = true) :
    Sound submission surroundings (lockSiteRow surroundings state i) := by
  revert locks
  rw [lockSiteRow]
  split
  · split
    · intro locks
      have own : (state.enter i .locked).phase i = .locked := by rw [enter_phase, if_pos rfl]
      apply sound.move locks (fun j apart => by exact (enter_phase ..).trans (if_neg apart)) rfl rfl rfl live
      · have here : PhaseSound submission surroundings state.collection state.applied i .locked := fun lower => (fresh lower).1
        exact (congrArg (PhaseSound submission surroundings state.collection state.applied i) own).mpr here
      · exact fun lower _ => .inl (fresh lower).2
    · exact fun _ => sound
  · rename_i unconfigured
    exact fun _ => sound.finish live (Bool.eq_false_iff.mpr unconfigured)

theorem existingReplay_sound (sound : Sound submission surroundings state) {missing : Phase}
    (locks : Locks (existingReplay submission state i missing)) (live : state.phase i ≠ .done .accepted)
    (here : state.collection = none → PhaseSound submission surroundings state.collection state.applied i missing)
    (first : submission.sourceAuthenticated = false → state.collection = none → missing.isUnderWay = true →
      (state.phase i).isUnderWay = true ∨ ∀ j, (state.phase j).isUnderWay = false) :
    Sound submission surroundings (existingReplay submission state i missing) := by
  revert locks
  rw [existingReplay]
  cases kept : state.collection with
  | none =>
    intro locks
    exact sound.enter locks live (here kept) fun lower => first lower kept
  | some row =>
    obtain ⟨w, other, won, stored, same, done⟩ := sound.stored.resolve_left fun empty => by
      rw [empty.2] at kept
      cases kept
    rw [kept] at stored
    cases stored
    have apart : i ≠ w := fun same => live (same ▸ done)
    simp only
    split
    · rename_i differs
      rw [same] at differs
      exact fun _ => sound.finish live ⟨w, won, apart, differs.symm⟩
    · rename_i identical
      rw [same, not_not] at identical
      exact fun locks => sound.enter locks live ⟨w, won, apart, identical.symm⟩ fun _ taken => by cases taken

theorem admitCollection_sound (sound : Sound submission surroundings state) (locks : Locks (admitCollection submission surroundings state i))
    (live : state.phase i ≠ .done .accepted) (fresh : state.collection = none)
    (way : submission.sourceAuthenticated = false → (state.phase i).isUnderWay = true) :
    Sound submission surroundings (admitCollection submission surroundings state i) := by
  revert locks
  have own : ownBatches submission state i = 0 := by
    rw [ownBatches, fresh]
    rfl
  simp only [admitCollection, own, Nat.add_zero, fresh, Option.isSome_none, Bool.false_eq_true, if_false]
  split
  · rename_i full
    rw [Bool.and_eq_true, Bool.not_eq_true', decide_eq_true_eq] at full
    exact fun _ => sound.finish live full
  · split
    · rename_i full
      exact fun _ => sound.finish live full
    · exact fun locks => sound.enter locks live fresh fun lower _ => .inl (way lower)

omit [DecidableEq ι] in
theorem PhaseSound.after_first {j : ι} {phase : Phase} {collection : Option CollectionRow} {applied : List ι}
    (before : PhaseSound submission surroundings none [] j phase) (notHolder : phase.holdsSite = false)
    (notUnderWay : submission.sourceAuthenticated = false → phase.isUnderWay = false) :
    PhaseSound submission surroundings collection applied j phase := by
  cases phase with
  | arrived => trivial
  | unlocked => exact fun lower => nomatch notUnderWay lower
  | locked => cases notHolder
  | verified => cases notHolder
  | cleared => cases notHolder
  | inserted => cases notHolder
  | replaying =>
    obtain ⟨_, impossible, -⟩ := before
    cases impossible
  | counted =>
    obtain ⟨⟨_, impossible, -⟩, -⟩ := before
    cases impossible
  | done outcome =>
    cases outcome with
    | accepted => cases before
    | duplicate =>
      obtain ⟨_, impossible, -⟩ := before
      cases impossible
    | replayConflict =>
      obtain ⟨_, impossible, -⟩ := before
      cases impossible
    | rejected => exact before
    | uniqueViolation => exact before

theorem commitCollection_sound (sound : Sound submission surroundings state) (here : state.phase i = .inserted)
    (locks : Locks (commitCollection submission state i)) : Sound submission surroundings (commitCollection submission state i) := by
  have fresh : state.collection = none := by
    have phase := sound.phases i
    rw [here] at phase
    exact phase
  have empty : state.applied = [] := by
    rcases sound.stored with ⟨empty, -⟩ | ⟨_, _, -, stored, -⟩
    · exact empty
    · rw [fresh] at stored
      cases stored
  have holds : state.site = some i := sound.locks.holder i (by rw [here]; rfl)
  have own : (commitCollection submission state i).phase i = .done .accepted := (finish_phase ..).trans (if_pos rfl)
  have others (j : ι) (apart : j ≠ i) : (commitCollection submission state i).phase j = state.phase j :=
    (finish_phase ..).trans (if_neg apart)
  have applied : (commitCollection submission state i).applied = [i] := by
    show state.applied ++ [i] = [i]
    rw [empty]
    rfl
  refine ⟨locks, .inr ⟨i, _, applied, rfl, rfl, own⟩, fun j => ?_, fun lower j k way way' => ?_, ?_⟩
  · rw [applied]
    by_cases same : j = i
    · rw [same, own]
      rfl
    · rw [others j same]
      have phase := sound.phases j
      have notHolder : (state.phase j).holdsSite = false := by
        rw [Bool.eq_false_iff]
        intro held
        have there := sound.locks.holder j held
        rw [holds] at there
        exact same (Option.some.inj there).symm
      have notUnderWay : submission.sourceAuthenticated = false → (state.phase j).isUnderWay = false := by
        intro lower
        rw [Bool.eq_false_iff]
        intro way
        exact same (sound.alone lower j i way (by rw [here]; rfl))
      rw [empty, fresh] at phase
      exact phase.after_first notHolder notUnderWay
  · have before (j : ι) (way : ((commitCollection submission state i).phase j).isUnderWay = true) : j = i := by
      by_cases same : j = i
      · exact same
      · rw [others j same] at way
        exact sound.alone lower j i way (by rw [here]; rfl)
    rw [before j way, before k way']
  · have events := sound.replays
    rw [fresh] at events
    exact ⟨events.1, events.2⟩

end

section

variable {ι : Type} [DecidableEq ι] {submission : Submission ι} {surroundings : Surroundings ι} {state : IngestionState ι} {i : ι}

theorem countReplay_sound (sound : Sound submission surroundings state) {replayCount : Nat} (here : state.phase i = .replaying replayCount)
    (locks : Locks (countReplay state i replayCount)) : Sound submission surroundings (countReplay state i replayCount) := by
  have live : state.phase i ≠ .done .accepted := by rw [here]; exact nofun
  have found := sound.phases i
  rw [here] at found
  revert locks
  rw [countReplay]
  split
  · split
    · intro locks
      have own : (state.enter i (.counted (state.collection.any (·.replayCount < maxReplayCount)))).phase i =
          .counted (state.collection.any (·.replayCount < maxReplayCount)) := by rw [enter_phase, if_pos rfl]
      apply sound.move locks (fun j apart => by exact (enter_phase ..).trans (if_neg apart)) rfl rfl rfl live
      · have counted : PhaseSound submission surroundings state.collection state.applied i
            (.counted (state.collection.any (·.replayCount < maxReplayCount))) := ⟨found, id⟩
        exact (congrArg (PhaseSound submission surroundings state.collection state.applied i) own).mpr counted
      · intro _ way
        have quiet : ((state.enter i (.counted (state.collection.any (·.replayCount < maxReplayCount)))).phase i).isUnderWay
            = true := way
        rw [own] at quiet
        cases quiet
    · exact fun _ => sound
  · exact fun _ => sound.finish live found

omit [DecidableEq ι] in
theorem PhaseSound.recount {j : ι} {phase : Phase} {collection : Option CollectionRow} {applied : List ι}
    (before : PhaseSound submission surroundings collection applied j phase) (uncounted : phase.isCounted = false) :
    PhaseSound submission surroundings (collection.map fun row => { row with replayCount := row.replayCount + 1 }) applied j phase := by
  cases phase with
  | arrived => trivial
  | unlocked => exact fun lower => Option.map_eq_none_iff.mpr (before lower)
  | locked => exact fun lower => Option.map_eq_none_iff.mpr (before lower)
  | verified => exact fun lower => Option.map_eq_none_iff.mpr (before lower)
  | cleared => exact before.imp_right Option.map_eq_none_iff.mpr
  | inserted => exact Option.map_eq_none_iff.mpr before
  | replaying => exact before
  | counted => cases uncounted
  | done outcome => cases outcome <;> exact before

theorem commitReplay_sound (sound : Sound submission surroundings state) {updated : Bool} (here : state.phase i = .counted updated)
    (locks : Locks (commitReplay state i updated)) : Sound submission surroundings (commitReplay state i updated) := by
  have live : state.phase i ≠ .done .accepted := by rw [here]; exact nofun
  have found := sound.phases i
  rw [here] at found
  have ended : Sound submission surroundings (state.finish i .duplicate) := sound.finish live found.1
  revert locks
  rw [commitReplay]
  split
  · rename_i recorded
    intro locks
    obtain ⟨w, row, won, kept, same, done⟩ := sound.stored.resolve_left fun empty => by
      have few := found.2 recorded
      rw [empty.2] at few
      cases few
    have few : row.replayCount < maxReplayCount := by
      have few := found.2 recorded
      rw [kept] at few
      exact of_decide_eq_true few
    obtain ⟨counted, -⟩ := sound.replays
    rw [kept] at counted
    have held := (sound.locks.row i).mpr (by rw [here]; rfl)
    refine ⟨locks, ?_, fun j => ?_, ended.alone, ?_⟩
    · have apart : w ≠ i := fun same => live (same ▸ done)
      refine .inr ⟨w, { row with replayCount := row.replayCount + 1 }, won, ?_, same, ?_⟩
      · show state.collection.map _ = _
        rw [kept]
        rfl
      · exact (finish_phase ..).trans ((if_neg apart).trans done)
    · have phase : PhaseSound submission surroundings state.collection state.applied j ((state.finish i .duplicate).phase j) :=
        ended.phases j
      apply phase.recount
      rw [finish_phase]
      split
      · rfl
      · rename_i apart
        rw [Bool.eq_false_iff]
        intro counted
        have there := (sound.locks.row j).mpr counted
        rw [held] at there
        exact apart (Option.some.inj there).symm
    · show state.replayEvents + 1 = ((state.collection.map fun row => { row with replayCount := row.replayCount + 1 }).map
        (·.replayCount)).getD 0 ∧ state.replayEvents + 1 ≤ maxReplayCount
      rw [kept, counted]
      exact ⟨rfl, few⟩
  · exact fun _ => ended

/-- A lower-trust delivery that finds nothing is the only one on its way to an insert. -/
def LooksAlone (submission : Submission ι) (state : IngestionState ι) (i : ι) : Prop :=
  submission.sourceAuthenticated = false → state.phase i = .arrived → state.collection = none →
    ∀ j, (state.phase j).isUnderWay = false

instance [Fintype ι] (state : IngestionState ι) (i : ι) : Decidable (LooksAlone submission state i) :=
  inferInstanceAs (Decidable (submission.sourceAuthenticated = false → state.phase i = .arrived → state.collection = none →
    ∀ j, (state.phase j).isUnderWay = false))

theorem advance_sound (sound : Sound submission surroundings state) (alone : LooksAlone submission state i) :
    Sound submission surroundings (advance submission surroundings state i) := by
  have locks : Locks (advance submission surroundings state i) := advance_locks sound.locks
  have phase := sound.phases i
  revert locks
  rw [advance]
  cases here : state.phase i with
  | arrived =>
    have live : state.phase i ≠ .done .accepted := by simp [here]
    simp only
    split
    · rename_i bound
      intro locks
      apply lockSiteRow_sound sound locks live
      intro lower
      rw [bound] at lower
      cases lower
    · rename_i lower
      intro locks
      apply existingReplay_sound sound locks live (fun fresh _ => fresh)
      exact fun lower fresh _ => .inr (alone lower here fresh)
  | unlocked =>
    rw [here] at phase
    intro locks
    apply lockSiteRow_sound sound locks (by simp [here])
    exact fun lower => ⟨phase lower, by rw [here]; rfl⟩
  | locked =>
    have live : state.phase i ≠ .done .accepted := by simp [here]
    rw [here] at phase
    simp only
    split
    · exact fun locks => sound.enter locks live phase fun _ _ => .inl (by rw [here]; rfl)
    · rename_i inactive
      exact fun _ => sound.finish live (Bool.eq_false_iff.mpr inactive)
  | verified =>
    have live : state.phase i ≠ .done .accepted := by simp [here]
    rw [here] at phase
    simp only
    split
    · rename_i bound
      intro locks
      exact existingReplay_sound sound locks live (fun fresh => ⟨bound, fresh⟩) fun _ _ taken => by cases taken
    · rename_i lower
      intro locks
      exact admitCollection_sound sound locks live (phase (Bool.eq_false_iff.mpr lower)) fun _ => by rw [here]; rfl
  | cleared =>
    rw [here] at phase
    intro locks
    apply admitCollection_sound sound locks (by simp [here]) phase.2
    intro lower
    rw [phase.1] at lower
    cases lower
  | inserted => exact fun locks => commitCollection_sound sound here locks
  | replaying replayCount => exact fun locks => countReplay_sound sound here locks
  | counted updated => exact fun locks => commitReplay_sound sound here locks
  | done => exact fun _ => sound

end

/-- What the deliveries under one key have come to. -/
structure Idempotent {ι : Type} [DecidableEq ι] (submission : Submission ι) (surroundings : Surroundings ι)
    (state : IngestionState ι) : Prop where
  answered : ∀ i outcome, state.phase i = .done outcome → (∀ reason, outcome ≠ .rejected reason) →
    ∃ w, state.applied = [w] ∧ outcome =
      if i = w then .accepted
      else if submission.payloadSha256 i = submission.payloadSha256 w then .duplicate
      else .replayConflict
  rejected : ∀ i reason, state.phase i = .done (.rejected reason) → Rejects submission surroundings i reason
  applied : ∀ i, i ∈ state.applied ↔ state.phase i = .done .accepted
  once : state.applied.length ≤ 1
  stored : state.collection.map (·.payloadSha256) = state.applied.head?.map submission.payloadSha256
  audited : state.replayEvents ≤ maxReplayCount
  progress : (∃ i, ∀ outcome, state.phase i ≠ .done outcome) →
    ∃ j, (advance submission surroundings state j).phase j ≠ state.phase j

section

variable {ι : Type} [DecidableEq ι] {submission : Submission ι} {surroundings : Surroundings ι} {state : IngestionState ι}

theorem Sound.idempotent (sound : Sound submission surroundings state) : Idempotent submission surroundings state where
  answered i outcome ended unrejected := by
    have phase := sound.phases i
    rw [ended] at phase
    cases outcome with
    | accepted => exact ⟨i, phase, by rw [if_pos rfl]⟩
    | duplicate =>
      obtain ⟨w, won, apart, same⟩ := phase
      exact ⟨w, won, by rw [if_neg apart, if_pos same]⟩
    | replayConflict =>
      obtain ⟨w, won, apart, differs⟩ := phase
      exact ⟨w, won, by rw [if_neg apart, if_neg differs]⟩
    | rejected reason => exact absurd rfl (unrejected reason)
    | uniqueViolation => exact phase.elim
  rejected i reason ended := by
    have phase := sound.phases i
    rw [ended] at phase
    exact phase
  applied i := by
    constructor
    · intro member
      rcases sound.stored with ⟨empty, -⟩ | ⟨w, row, won, -, -, done⟩
      · rw [empty] at member
        cases member
      · rw [won] at member
        rw [List.mem_singleton.mp member]
        exact done
    · intro ended
      have phase := sound.phases i
      rw [ended] at phase
      have won : state.applied = [i] := phase
      rw [won]
      exact List.mem_singleton_self i
  once := by
    rcases sound.stored with ⟨empty, -⟩ | ⟨w, row, won, -⟩
    · rw [empty]
      exact Nat.zero_le _
    · rw [won]
      exact le_rfl
  stored := by
    rcases sound.stored with ⟨empty, fresh⟩ | ⟨w, row, won, kept, same, -⟩
    · rw [empty, fresh]
      rfl
    · rw [won, kept]
      exact congrArg some same
  audited := sound.replays.2
  progress := fun ⟨_, unended⟩ => some_moves sound.locks unended

omit [DecidableEq ι] in
theorem start_sound : Sound submission surroundings {} where
  locks := ⟨nofun, nofun, fun _ => iff_of_false nofun nofun⟩
  stored := .inl ⟨rfl, rfl⟩
  phases _ := trivial
  alone _ _ _ := nofun
  replays := ⟨rfl, Nat.zero_le _⟩

end

/-- However the statements of the deliveries under one key follow each other, they are idempotent as long as every
lower-trust delivery that finds nothing is alone. -/
theorem ingestion_idempotent {ι : Type} [DecidableEq ι] (submission : Submission ι) (surroundings : Surroundings ι)
    (schedule : List ι) (alone : Along (advance submission surroundings) (LooksAlone submission) {} schedule) :
    Along (advance submission surroundings)
      (fun state i => Idempotent submission surroundings (advance submission surroundings state i)) {} schedule :=
  along_of_admitted (Sound submission surroundings)
    (fun _ _ sound alone => ⟨(advance_sound sound alone).idempotent, advance_sound sound alone⟩) start_sound alone

/-- Two deliveries of the same content to a hub that admits them. -/
def twoDeliveries : Submission Bool where
  sourceAuthenticated := false
  adapterType := .passiveSensor
  payloadSha256 _ := "digest"
  ingestedAt _ := 0

def openHub : Surroundings Bool where
  siteConfigured := true
  identityValid _ := true
  globalBatches _ := 0
  recentBatches _ := 0

def oneAfterTheOther : List Bool := [false, false, false, false, false, true, true, true]

theorem ingestion_idempotent_sequential : Along (advance twoDeliveries openHub)
    (fun state i => Idempotent twoDeliveries openHub (advance twoDeliveries openHub state i)) {} oneAfterTheOther := by
  apply ingestion_idempotent
  decide

/-- Both look before either inserts, so the second insert hits the unique key. -/
theorem concurrent_deliveries_violate :
    ([false, true, false, false, false, false, true, true, true].foldl (advance twoDeliveries openHub) {}).phase true =
      .done .uniqueViolation := by
  decide

end OpenAssetWatch.Ingestion
