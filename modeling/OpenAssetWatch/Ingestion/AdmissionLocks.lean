import OpenAssetWatch.Ingestion.Admission

namespace OpenAssetWatch.Ingestion

def Phase.holdsSite : Phase → Bool
  | .locked | .verified | .cleared | .inserted => true
  | _ => false

/-- Between the site lock, or the replay it found, and the end of the transaction. -/
def Phase.isOpen : Phase → Bool
  | .arrived | .unlocked | .done _ => false
  | _ => true

def Phase.isCounted : Phase → Bool
  | .counted _ => true
  | _ => false

section

variable {ι : Type} [DecidableEq ι] {state : IngestionState ι} {i j : ι} {phase : Phase} {outcome : Outcome}

theorem enter_phase : (state.enter i phase).phase j = if j = i then phase else state.phase j := by
  simp only [IngestionState.enter, Function.update_apply]

theorem finish_phase : (state.finish i outcome).phase j = if j = i then .done outcome else state.phase j := by
  simp only [IngestionState.finish, Function.update_apply]

theorem finish_site (open_ : state.site = some j) (apart : j ≠ i) : (state.finish i outcome).site = some j := by
  have other : state.site ≠ some i := by
    rw [open_]
    exact fun same => apart (Option.some.inj same)
  rw [IngestionState.finish]
  exact (if_neg other).trans open_

theorem finish_site_some (held : (state.finish i outcome).site = some j) : state.site = some j ∧ j ≠ i := by
  simp only [IngestionState.finish] at held
  split at held
  · cases held
  · rename_i other
    refine ⟨held, fun same => other ?_⟩
    rw [held, same]

/-- At most one delivery holds the site, and one the collection row, and neither has ended. -/
structure Locks (state : IngestionState ι) : Prop where
  holder : ∀ j, (state.phase j).holdsSite = true → state.site = some j
  isOpen : ∀ j, state.site = some j → (state.phase j).isOpen = true
  row : ∀ j, state.rowLock = some j ↔ (state.phase j).isCounted = true

theorem Locks.enter (locks : Locks state) (before : (state.phase i).isCounted = false) (after : phase.isCounted = false)
    (holds : phase.holdsSite = true → state.site = some i) (stays : state.site = some i → phase.isOpen = true) :
    Locks (state.enter i phase) where
  holder j held := by
    rw [enter_phase] at held
    split at held
    · rename_i same
      rw [same]
      exact holds held
    · exact locks.holder j held
  isOpen j held := by
    rw [enter_phase]
    split
    · rename_i same
      rw [same] at held
      exact stays held
    · exact locks.isOpen j held
  row j := by
    rw [enter_phase]
    split
    · rename_i same
      rw [same, after, ← before]
      exact locks.row i
    · exact locks.row j

theorem Locks.finish (locks : Locks state) : Locks (state.finish i outcome) where
  holder j held := by
    rw [finish_phase] at held
    split at held
    · cases held
    · rename_i apart
      exact finish_site (locks.holder j held) apart
  isOpen j held := by
    obtain ⟨before, apart⟩ := finish_site_some held
    rw [finish_phase, if_neg apart]
    exact locks.isOpen j before
  row j := by
    rw [finish_phase]
    by_cases same : j = i
    · rw [if_pos same, same]
      refine iff_of_false (fun held => ?_) nofun
      simp only [IngestionState.finish] at held
      split at held
      · cases held
      · rename_i other
        exact other held
    · rw [if_neg same, ← locks.row j]
      simp only [IngestionState.finish]
      split
      · rename_i own
        rw [own]
        exact iff_of_false nofun fun held => same (Option.some.inj held).symm
      · exact Iff.rfl

theorem Locks.lock (locks : Locks state) (before : (state.phase i).isCounted = false) (free : state.site = none) :
    Locks { state.enter i .locked with site := some i } where
  holder j held := by
    rw [show ({ state.enter i .locked with site := some i } : IngestionState ι).phase j = (state.enter i .locked).phase j
      from rfl, enter_phase] at held
    split at held
    · rename_i same
      rw [same]
    · have other := locks.holder j held
      rw [free] at other
      cases other
  isOpen j held := by
    cases held
    show ((state.enter i .locked).phase i).isOpen = true
    rw [enter_phase, if_pos rfl]
    rfl
  row j := by
    show state.rowLock = some j ↔ ((state.enter i .locked).phase j).isCounted = true
    rw [enter_phase]
    split
    · rename_i same
      rw [same, locks.row i, before]
      rfl
    · exact locks.row j

theorem Locks.count (locks : Locks state) {updated : Bool} (free : state.rowLock = none) :
    Locks { state.enter i (.counted updated) with rowLock := some i } where
  holder j held := by
    have held : ((state.enter i (.counted updated)).phase j).holdsSite = true := held
    rw [enter_phase] at held
    split at held
    · cases held
    · exact locks.holder j held
  isOpen j held := by
    show ((state.enter i (.counted updated)).phase j).isOpen = true
    rw [enter_phase]
    split
    · rfl
    · exact locks.isOpen j held
  row j := by
    show some i = some j ↔ ((state.enter i (.counted updated)).phase j).isCounted = true
    rw [enter_phase]
    split
    · rename_i same
      rw [same]
      exact iff_of_true rfl rfl
    · rename_i apart
      rw [← locks.row j, free]
      exact iff_of_false (fun same => apart (Option.some.inj same).symm) nofun

end

section

variable {ι : Type} [DecidableEq ι] {submission : Submission ι} {surroundings : Surroundings ι} {state : IngestionState ι} {i : ι}

theorem lockSiteRow_locks (locks : Locks state) (before : (state.phase i).isCounted = false) :
    Locks (lockSiteRow surroundings state i) := by
  rw [lockSiteRow]
  split
  · split
    · rename_i free
      exact locks.lock before free
    · exact locks
  · exact locks.finish

theorem existingReplay_locks (locks : Locks state) {missing : Phase} (before : (state.phase i).isCounted = false)
    (after : missing.isCounted = false) (holds : missing.holdsSite = true → state.site = some i)
    (stays : state.site = some i → missing.isOpen = true) : Locks (existingReplay submission state i missing) := by
  rw [existingReplay]
  split
  · exact locks.enter before after holds stays
  · split
    · exact locks.finish
    · exact locks.enter before rfl nofun fun _ => rfl

theorem admitCollection_locks (locks : Locks state) (before : (state.phase i).isCounted = false)
    (holds : (state.phase i).holdsSite = true) : Locks (admitCollection submission surroundings state i) := by
  simp only [admitCollection]
  split
  · exact locks.finish
  · split
    · exact locks.finish
    · split
      · exact locks.finish
      · exact locks.enter before rfl (fun _ => locks.holder i holds) fun _ => rfl

theorem advance_locks (locks : Locks state) : Locks (advance submission surroundings state i) := by
  rw [advance]
  cases here : state.phase i with
  | arrived =>
    have before : (state.phase i).isCounted = false := by rw [here]; rfl
    have free : ¬state.site = some i := fun held => by
      have running := locks.isOpen i held
      rw [here] at running
      cases running
    simp only
    split
    · exact lockSiteRow_locks locks before
    · exact existingReplay_locks locks before rfl nofun fun held => absurd held free
  | unlocked => exact lockSiteRow_locks locks (by rw [here]; rfl)
  | locked =>
    have holds : state.site = some i := locks.holder i (by rw [here]; rfl)
    simp only
    split
    · exact locks.enter (by rw [here]; rfl) rfl (fun _ => holds) fun _ => rfl
    · exact locks.finish
  | verified =>
    have holds : state.site = some i := locks.holder i (by rw [here]; rfl)
    simp only
    split
    · exact existingReplay_locks locks (by rw [here]; rfl) rfl (fun _ => holds) fun _ => rfl
    · exact admitCollection_locks locks (by rw [here]; rfl) (by rw [here]; rfl)
  | cleared => exact admitCollection_locks locks (by rw [here]; rfl) (by rw [here]; rfl)
  | inserted =>
    have ended : Locks (state.finish i .accepted) := locks.finish
    exact ⟨ended.holder, ended.isOpen, ended.row⟩
  | replaying replayCount =>
    simp only [countReplay]
    split
    · split
      · rename_i free
        exact locks.count free
      · exact locks
    · exact locks.finish
  | counted updated =>
    have ended : Locks (state.finish i .duplicate) := locks.finish
    simp only [commitReplay]
    split
    · exact ⟨ended.holder, ended.isOpen, ended.row⟩
    · exact ended
  | done => exact locks

end

section

variable {ι : Type} [DecidableEq ι] {submission : Submission ι} {surroundings : Surroundings ι} {state : IngestionState ι} {i : ι}

theorem entered_ne {phase : Phase} (apart : phase ≠ state.phase i) : (state.enter i phase).phase i ≠ state.phase i := by
  rw [enter_phase, if_pos rfl]
  exact apart

theorem ended_ne {outcome : Outcome} (running : state.phase i ≠ .done outcome) :
    (state.finish i outcome).phase i ≠ state.phase i := by
  rw [finish_phase, if_pos rfl]
  exact running.symm

theorem admitCollection_moves (running : (state.phase i).isOpen = true) (before : state.phase i ≠ .inserted) :
    (admitCollection submission surroundings state i).phase i ≠ state.phase i := by
  have unended (outcome : Outcome) : state.phase i ≠ .done outcome := fun ended => by
    rw [ended] at running
    cases running
  simp only [admitCollection]
  split
  · exact ended_ne (unended _)
  · split
    · exact ended_ne (unended _)
    · split
      · exact ended_ne (unended _)
      · exact entered_ne before.symm

theorem existingReplay_moves {missing : Phase} (before : ∀ replayCount, state.phase i ≠ .replaying replayCount)
    (unended : ∀ outcome, state.phase i ≠ .done outcome) (unlike : missing ≠ state.phase i) :
    (existingReplay submission state i missing).phase i ≠ state.phase i := by
  rw [existingReplay]
  split
  · exact entered_ne unlike
  · split
    · exact ended_ne (unended _)
    · exact entered_ne (before _).symm

theorem counted_moves {updated : Bool} (here : state.phase i = .counted updated) :
    (advance submission surroundings state i).phase i ≠ state.phase i := by
  have ended : (state.finish i .duplicate).phase i ≠ state.phase i := ended_ne (by rw [here]; exact nofun)
  rw [advance]
  simp only [here, commitReplay]
  rw [← here]
  split
  · exact ended
  · exact ended

theorem open_moves (locks : Locks state) (running : (state.phase i).isOpen = true) :
    ∃ j, (advance submission surroundings state j).phase j ≠ state.phase j := by
  cases here : state.phase i with
  | arrived => rw [here] at running; cases running
  | unlocked => rw [here] at running; cases running
  | done => rw [here] at running; cases running
  | locked =>
    refine ⟨i, ?_⟩
    rw [advance]
    simp only [here]
    rw [← here]
    split
    · exact entered_ne (by rw [here]; exact nofun)
    · exact ended_ne (by rw [here]; exact nofun)
  | verified =>
    refine ⟨i, ?_⟩
    rw [advance]
    simp only [here]
    rw [← here]
    split
    · exact existingReplay_moves (by rw [here]; exact nofun) (by rw [here]; exact nofun) (by rw [here]; exact nofun)
    · exact admitCollection_moves running (by rw [here]; exact nofun)
  | cleared =>
    refine ⟨i, ?_⟩
    rw [advance]
    simp only [here]
    rw [← here]
    exact admitCollection_moves running (by rw [here]; exact nofun)
  | inserted =>
    refine ⟨i, ?_⟩
    rw [advance]
    simp only [here]
    rw [← here]
    exact ended_ne (by rw [here]; exact nofun)
  | counted => exact ⟨i, counted_moves here⟩
  | replaying replayCount =>
    cases held : state.rowLock with
    | some j =>
      have counted := (locks.row j).mp held
      cases there : state.phase j with
      | counted => exact ⟨j, counted_moves there⟩
      | _ => rw [there] at counted; cases counted
    | none =>
      refine ⟨i, ?_⟩
      rw [advance]
      simp only [here, countReplay, held]
      rw [← here]
      split
      · exact entered_ne (by rw [here]; exact nofun)
      · exact ended_ne (by rw [here]; exact nofun)

theorem lockSiteRow_moves (locks : Locks state) (unended : ∀ outcome, state.phase i ≠ .done outcome)
    (before : state.phase i ≠ .locked) (asks : advance submission surroundings state i = lockSiteRow surroundings state i) :
    ∃ j, (advance submission surroundings state j).phase j ≠ state.phase j := by
  cases held : state.site with
  | some j => exact open_moves locks (locks.isOpen j held)
  | none =>
    refine ⟨i, ?_⟩
    rw [asks, lockSiteRow]
    split
    · exact entered_ne before.symm
    · exact ended_ne (unended _)

theorem some_moves (locks : Locks state) (unended : ∀ outcome, state.phase i ≠ .done outcome) :
    ∃ j, (advance submission surroundings state j).phase j ≠ state.phase j := by
  by_cases running : (state.phase i).isOpen = true
  · exact open_moves locks running
  · cases here : state.phase i with
    | unlocked =>
      apply lockSiteRow_moves (i := i) locks unended (by rw [here]; exact nofun)
      rw [advance]
      simp only [here]
    | arrived =>
      cases bound : submission.sourceAuthenticated with
      | true =>
        apply lockSiteRow_moves (i := i) locks unended (by rw [here]; exact nofun)
        rw [advance]
        simp only [here, bound, if_true]
      | false =>
        refine ⟨i, ?_⟩
        rw [advance]
        simp only [here, bound, Bool.false_eq_true, if_false]
        rw [← here]
        exact existingReplay_moves (by rw [here]; exact nofun) unended (by rw [here]; exact nofun)
    | done outcome => exact absurd here (unended outcome)
    | _ => rw [here] at running; exact absurd rfl running

end

end OpenAssetWatch.Ingestion
