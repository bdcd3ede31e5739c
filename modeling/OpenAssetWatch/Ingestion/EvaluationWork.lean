import OpenAssetWatch.Library.Run

namespace OpenAssetWatch.Ingestion

open Library.Run

inductive EvaluationState where
  | queued
  | running
  | completed
  | retryableFailure
  | notRequired
deriving DecidableEq, Repr

/-- The state and the error code, in the collection's row and in the row of its endpoint batch. -/
structure EvaluationRow where
  state : EvaluationState
  errorCode : Option String := none
deriving DecidableEq

/-- A canonical collection; only an endpoint agent's has a batch row. -/
structure EvaluatedCollection where
  evaluation : EvaluationRow
  batch : Option EvaluationRow
  hasWork : Bool
deriving DecidableEq

/-- How a transaction ends: committed, rolled back with an error, or committed with the acknowledgement lost, which
raises the same error. -/
inductive Ending where
  | committed
  | rolledBack
  | unacknowledged
deriving DecidableEq, Repr

def Ending.persists : Ending → Bool
  | .rolledBack => false
  | _ => true

def Ending.isReported : Ending → Bool
  | .committed => true
  | _ => false

def EvaluatedCollection.write (collection : EvaluatedCollection) (row : EvaluationRow) : EvaluatedCollection :=
  { collection with
    evaluation := row
    batch := collection.batch.map fun _ => row }

/-- `set_evaluation_state`, whatever the state is. -/
def setEvaluationState (collection : EvaluatedCollection) (state : EvaluationState) (errorCode : Option String) :
    EvaluatedCollection := collection.write { state, errorCode }

/-- The update of `claim_evaluation_work`. -/
def claimEvaluationWork (collection : EvaluatedCollection) : Option EvaluatedCollection :=
  if collection.evaluation.state = .queued then some (collection.write { state := .running }) else none

/-- The update of `requeue_evaluation`. -/
def requeueEvaluation (collection : EvaluatedCollection) : Option EvaluatedCollection :=
  if collection.evaluation.state = .retryableFailure && collection.hasWork then some (collection.write { state := .queued })
  else none

inductive RequestKind where
  | delivery
  | retry
deriving DecidableEq, Repr

/-- Where a request stands, and after it the background task that it has scheduled. -/
inductive RequestPhase where
  | arrived
  | checked
  | queueing
  | marked
  | refused (errorCode : String)
  | scheduled
  | working
  | finishing
  | failing (errorCode : String)
  | finalizing
  | done
deriving DecidableEq, Repr

/-- What a step meets: whether the queue is full, whether what runs raises and with which code, what a new collection is
like, and how its transaction ends. -/
structure Circumstances where
  isFull : Bool := false
  raises : Bool := false
  errorCode : String := ""
  isEndpoint : Bool := false
  hasWork : Bool := true
  ending : Ending := .committed

structure EvaluationSystem (ι π : Type) where
  phase : ι → RequestPhase := fun _ => .arrived
  pending : π → Bool := fun _ => false
  collection : Option EvaluatedCollection := none

section

variable {ι π : Type} [DecidableEq ι] [DecidableEq π]

def EvaluationSystem.enter (system : EvaluationSystem ι π) (i : ι) (phase : RequestPhase) : EvaluationSystem ι π :=
  { system with phase := Function.update system.phase i phase }

def EvaluationSystem.mark (system : EvaluationSystem ι π) (process : π) (isPending : Bool) : EvaluationSystem ι π :=
  { system with pending := Function.update system.pending process isPending }

/-- The rows a transaction leaves when it ends so. -/
def EvaluationSystem.store (system : EvaluationSystem ι π) (ending : Ending) (collection : EvaluatedCollection) :
    EvaluationSystem ι π :=
  if ending.persists then { system with collection := some collection } else system

variable (kind : ι → RequestKind) (process : ι → π)

/-- The first delivery stores the collection; a later one is a duplicate and queues nothing. -/
def acceptDelivery (system : EvaluationSystem ι π) (i : ι) (met : Circumstances) : EvaluationSystem ι π :=
  match system.collection with
  | some _ => system.enter i .done
  | none =>
    let evaluation : EvaluationRow := { state := if met.hasWork then .queued else .notRequired }
    let collection : EvaluatedCollection :=
      { evaluation
        batch := if met.isEndpoint then some evaluation else none
        hasWork := met.hasWork }
    { system.enter i (if met.hasWork then .queueing else .done) with collection := some collection }

/-- The retry of an administrator, after its look at the pending set. -/
def requeue (system : EvaluationSystem ι π) (i : ι) (met : Circumstances) : EvaluationSystem ι π :=
  match system.collection.bind requeueEvaluation with
  | none => system.enter i .done
  | some requeued =>
    (system.store met.ending requeued).enter i (if met.ending.isReported then .queueing else .done)

/-- `_queue_canonical_evaluation` under its lock. -/
def queueEvaluation (system : EvaluationSystem ι π) (i : ι) (met : Circumstances) : EvaluationSystem ι π :=
  if system.pending (process i) then system.enter i .done
  else if met.isFull then system.enter i (.refused "reevaluation-queue-capacity")
  else (system.mark (process i) true).enter i .marked

def addTask (system : EvaluationSystem ι π) (i : ι) (met : Circumstances) : EvaluationSystem ι π :=
  if met.raises then (system.mark (process i) false).enter i (.refused "reevaluation-queue-error")
  else system.enter i .scheduled

/-- A claim that raises ends in the worker's failure path. -/
def claim (system : EvaluationSystem ι π) (i : ι) (met : Circumstances) : EvaluationSystem ι π :=
  match system.collection.bind claimEvaluationWork with
  | none => system.enter i .finalizing
  | some claimed =>
    (system.store met.ending claimed).enter i (if met.ending.isReported then .working else .failing met.errorCode)

def recordState (system : EvaluationSystem ι π) (i : ι) (met : Circumstances) (state : EvaluationState)
    (errorCode : Option String) (reported raised : RequestPhase) : EvaluationSystem ι π :=
  let stored := match system.collection with
    | none => system
    | some collection => system.store met.ending (setEvaluationState collection state errorCode)
  stored.enter i (if met.ending.isReported then reported else raised)

/-- One step of a request or of its task. -/
def EvaluationSystem.step (system : EvaluationSystem ι π) (event : ι × Circumstances) : EvaluationSystem ι π :=
  let (i, met) := event
  match system.phase i with
  | .arrived =>
    match kind i with
    | .delivery => acceptDelivery system i met
    | .retry => system.enter i (if system.pending (process i) then .done else .checked)
  | .checked => requeue system i met
  | .queueing => queueEvaluation process system i met
  | .marked => addTask process system i met
  | .refused errorCode => recordState system i met .retryableFailure (some errorCode) .done .done
  | .scheduled => claim system i met
  | .working => system.enter i (if met.raises then .failing met.errorCode else .finishing)
  | .finishing => recordState system i met .completed none .finalizing (.failing met.errorCode)
  | .failing errorCode => recordState system i met .retryableFailure (some errorCode) .finalizing .finalizing
  | .finalizing => (system.mark (process i) false).enter i .done
  | .done => system

end

/-- The request, or its task, has queued work to run. -/
def RequestPhase.isWaiting : RequestPhase → Bool
  | .queueing | .marked | .refused _ | .scheduled => true
  | _ => false

/-- The task holds the collection as running. -/
def RequestPhase.isHolding : RequestPhase → Bool
  | .working | .finishing | .failing _ => true
  | _ => false

def RequestPhase.isOwner (phase : RequestPhase) : Bool := phase.isWaiting || phase.isHolding

def RequestPhase.isMarked : RequestPhase → Bool
  | .marked | .scheduled | .working | .finishing | .failing _ | .finalizing => true
  | _ => false

def EvaluationSystem.state {ι π : Type} (system : EvaluationSystem ι π) : Option EvaluationState :=
  system.collection.map (·.evaluation.state)

theorem owner_of_waiting {phase : RequestPhase} (waiting : phase.isWaiting = true) : phase.isOwner = true := by
  rw [RequestPhase.isOwner, waiting, Bool.true_or]

theorem owner_of_holding {phase : RequestPhase} (holding : phase.isHolding = true) : phase.isOwner = true := by
  rw [RequestPhase.isOwner, holding, Bool.or_true]

section

variable {ι π : Type} {process : ι → π} {system next : EvaluationSystem ι π} {i : ι}

/-- One owner at most, which waits for queued work or holds running work, and no such work without one. -/
structure Owned (system : EvaluationSystem ι π) : Prop where
  queued : ∀ j, (system.phase j).isWaiting = true → system.state = some .queued
  running : ∀ j, (system.phase j).isHolding = true → system.state = some .running
  alone : ∀ j k, (system.phase j).isOwner = true → (system.phase k).isOwner = true → j = k
  owned : system.state = some .queued ∨ system.state = some .running → ∃ j, (system.phase j).isOwner = true

/-- A task has its collection marked in its process, where no other task of the collection runs. -/
structure Markers (process : ι → π) (system : EvaluationSystem ι π) : Prop where
  marked : ∀ j, (system.phase j).isMarked = true → system.pending (process j) = true
  single : ∀ j k, (system.phase j).isMarked = true → (system.phase k).isMarked = true → process j = process k → j = k
  unmarked : ∀ j, system.phase j = .queueing → system.pending (process j) = false
  fresh : system.collection = none → ∀ p, system.pending p = false

theorem Owned.others (owned : Owned system) (owner : (system.phase i).isOwner = true) (j : ι) (apart : j ≠ i) :
    (system.phase j).isOwner = false := by
  rw [Bool.eq_false_iff]
  exact fun other => apart (owned.alone j i other owner)

theorem Owned.unowned (owned : Owned system) (unqueued : system.state ≠ some .queued) (stopped : system.state ≠ some .running)
    (j : ι) : (system.phase j).isOwner = false := by
  rw [RequestPhase.isOwner, Bool.or_eq_false_iff, Bool.eq_false_iff, Bool.eq_false_iff]
  exact ⟨fun waiting => unqueued (owned.queued j waiting), fun holding => stopped (owned.running j holding)⟩

theorem Owned.idle (owned : Owned system) (others : ∀ j, j ≠ i → next.phase j = system.phase j)
    (state : next.state = system.state) (before : (system.phase i).isOwner = false) (after : (next.phase i).isOwner = false) :
    Owned next := by
  have elsewhere (j : ι) (owner : (next.phase j).isOwner = true) : next.phase j = system.phase j := by
    apply others
    rintro rfl
    rw [after] at owner
    cases owner
  refine ⟨fun j waiting => ?_, fun j holding => ?_, fun j k owner owner' => ?_, fun busy => ?_⟩
  · rw [state]
    apply owned.queued j
    rw [← elsewhere j (owner_of_waiting waiting)]
    exact waiting
  · rw [state]
    apply owned.running j
    rw [← elsewhere j (owner_of_holding holding)]
    exact holding
  · apply owned.alone j k
    · rw [← elsewhere j owner]
      exact owner
    · rw [← elsewhere k owner']
      exact owner'
  · rw [state] at busy
    obtain ⟨j, owner⟩ := owned.owned busy
    refine ⟨j, ?_⟩
    rw [others j fun same => by rw [same, before] at owner; cases owner]
    exact owner

theorem Owned.turn (free : ∀ j, j ≠ i → (system.phase j).isOwner = false)
    (others : ∀ j, j ≠ i → next.phase j = system.phase j)
    (waits : (next.phase i).isWaiting = true → next.state = some .queued)
    (holds : (next.phase i).isHolding = true → next.state = some .running)
    (keeps : next.state = some .queued ∨ next.state = some .running → (next.phase i).isOwner = true) : Owned next := by
  have only (j : ι) (owner : (next.phase j).isOwner = true) : j = i := by
    by_contra apart
    rw [others j apart, free j apart] at owner
    cases owner
  refine ⟨fun j waiting => ?_, fun j holding => ?_, fun j k owner owner' => ?_, fun busy => ⟨i, keeps busy⟩⟩
  · rw [only j (owner_of_waiting waiting)] at waiting
    exact waits waiting
  · rw [only j (owner_of_holding holding)] at holding
    exact holds holding
  · rw [only j owner, only k owner']

theorem Markers.keep (markers : Markers process system) (others : ∀ j, j ≠ i → next.phase j = system.phase j)
    (pending : next.pending = system.pending) (stored : next.collection = none → system.collection = none)
    (here : (next.phase i).isMarked = true → (system.phase i).isMarked = true)
    (queues : next.phase i = .queueing → system.pending (process i) = false) : Markers process next := by
  have before (j : ι) (marked : (next.phase j).isMarked = true) : (system.phase j).isMarked = true := by
    by_cases same : j = i
    · rw [same] at marked ⊢
      exact here marked
    · rw [← others j same]
      exact marked
  refine ⟨fun j marked => ?_, fun j k marked marked' => ?_, fun j queueing => ?_, fun empty => ?_⟩
  · rw [pending]
    exact markers.marked j (before j marked)
  · exact markers.single j k (before j marked) (before k marked')
  · rw [pending]
    by_cases same : j = i
    · rw [same] at queueing ⊢
      exact queues queueing
    · rw [others j same] at queueing
      exact markers.unmarked j queueing
  · rw [pending]
    exact markers.fresh (stored empty)

variable [DecidableEq π]

theorem Markers.mark (markers : Markers process system) (others : ∀ j, j ≠ i → next.phase j = system.phase j)
    (pending : next.pending = Function.update system.pending (process i) true) (stored : next.collection ≠ none)
    (queued : system.phase i = .queueing) (first : ∀ j, j ≠ i → system.phase j ≠ .queueing)
    (here : next.phase i ≠ .queueing) : Markers process next := by
  have free := markers.unmarked i queued
  have apart (j : ι) (other : j ≠ i) (marked : (next.phase j).isMarked = true) :
      (system.phase j).isMarked = true ∧ process j ≠ process i := by
    rw [others j other] at marked
    refine ⟨marked, fun same => ?_⟩
    have set := markers.marked j marked
    rw [same, free] at set
    cases set
  refine ⟨fun j marked => ?_, fun j k marked marked' same => ?_, fun j queueing => ?_, fun empty => absurd empty stored⟩
  · rw [pending, Function.update_apply]
    split
    · rfl
    · rename_i elsewhere
      exact markers.marked j (apart j (fun same => elsewhere (by rw [same])) marked).1
  · by_cases own : j = i
    · by_contra other
      have there : k ≠ i := fun same => other (own.trans same.symm)
      exact (apart k there marked').2 (same.symm.trans (by rw [own]))
    · by_cases own' : k = i
      · exact absurd (same.trans (by rw [own'])) (apart j own marked).2
      · exact markers.single j k (apart j own marked).1 (apart k own' marked').1 same
  · by_cases own : j = i
    · rw [own] at queueing
      exact absurd queueing here
    · rw [others j own] at queueing
      exact absurd queueing (first j own)

theorem Markers.unmark (markers : Markers process system) (others : ∀ j, j ≠ i → next.phase j = system.phase j)
    (pending : next.pending = Function.update system.pending (process i) false)
    (stored : next.collection = none → system.collection = none) (before : (system.phase i).isMarked = true)
    (after : (next.phase i).isMarked = false) : Markers process next := by
  have other (j : ι) (marked : (next.phase j).isMarked = true) : (system.phase j).isMarked = true ∧ j ≠ i := by
    have apart : j ≠ i := by
      rintro rfl
      rw [after] at marked
      cases marked
    rw [others j apart] at marked
    exact ⟨marked, apart⟩
  refine ⟨fun j marked => ?_, fun j k marked marked' => ?_, fun j queueing => ?_, fun empty p => ?_⟩
  · obtain ⟨marked, apart⟩ := other j marked
    rw [pending, Function.update_of_ne fun same => apart (markers.single j i marked before same)]
    exact markers.marked j marked
  · exact markers.single j k (other j marked).1 (other k marked').1
  · rw [pending, Function.update_apply]
    split
    · rfl
    · rename_i elsewhere
      have apart : j ≠ i := fun same => elsewhere (by rw [same])
      rw [others j apart] at queueing
      exact markers.unmarked j queueing
  · rw [pending, Function.update_apply]
    split
    · rfl
    · exact markers.fresh (stored empty) p

end

/-- The changes of the evaluation state, with the phase of the request or task that makes them. -/
inductive Moves : RequestPhase → Option EvaluationState → Option EvaluationState → Prop where
  | stays {phase state} : Moves phase state state
  | accepts : Moves .arrived none (some .queued)
  | acceptsIdle : Moves .arrived none (some .notRequired)
  | refuses {errorCode} : Moves (.refused errorCode) (some .queued) (some .retryableFailure)
  | claims : Moves .scheduled (some .queued) (some .running)
  | completes : Moves .finishing (some .running) (some .completed)
  | fails {errorCode} : Moves (.failing errorCode) (some .running) (some .retryableFailure)
  | requeues : Moves .checked (some .retryableFailure) (some .queued)

structure Work {ι π : Type} (process : ι → π) (system : EvaluationSystem ι π) : Prop where
  owned : Owned system
  markers : Markers process system
  agree : ∀ collection, system.collection = some collection → ∀ row ∈ collection.batch, row = collection.evaluation

section

variable {ι π : Type} {process : ι → π} {system next : EvaluationSystem ι π} {i : ι}

theorem write_agree {collection : EvaluatedCollection} {row written : EvaluationRow}
    (member : row ∈ (collection.write written).batch) : row = (collection.write written).evaluation := by
  obtain ⟨_, -, rfl⟩ := Option.mem_map.mp member
  rfl

theorem Work.idle (work : Work process system) {phase : RequestPhase}
    (others : ∀ j, j ≠ i → next.phase j = system.phase j) (entered : next.phase i = phase)
    (pending : next.pending = system.pending) (stored : next.collection = system.collection)
    (before : (system.phase i).isOwner = false) (after : phase.isOwner = false)
    (marked : phase.isMarked = true → (system.phase i).isMarked = true) : Work process next where
  owned := work.owned.idle others (congrArg (Option.map _) stored) before (by rw [entered]; exact after)
  markers := by
    apply work.markers.keep others pending (fun empty => stored.symm.trans empty) (by rw [entered]; exact marked)
    intro queueing
    rw [← entered, queueing] at after
    cases after
  agree collection kept := work.agree collection (stored.symm.trans kept)

theorem Work.turn (work : Work process system) {phase : RequestPhase} {collection : EvaluatedCollection}
    (free : ∀ j, j ≠ i → (system.phase j).isOwner = false) (others : ∀ j, j ≠ i → next.phase j = system.phase j)
    (entered : next.phase i = phase) (pending : next.pending = system.pending) (stored : next.collection = some collection)
    (agree : ∀ row ∈ collection.batch, row = collection.evaluation)
    (marked : phase.isMarked = true → (system.phase i).isMarked = true)
    (queues : phase = .queueing → system.pending (process i) = false)
    (waits : phase.isWaiting = true → collection.evaluation.state = .queued)
    (holds : phase.isHolding = true → collection.evaluation.state = .running)
    (keeps : collection.evaluation.state = .queued ∨ collection.evaluation.state = .running → phase.isOwner = true) :
    Work process next where
  owned := by
    have state : next.state = some collection.evaluation.state := by rw [EvaluationSystem.state, stored]; rfl
    apply Owned.turn free others
    · rw [entered, state, Option.some.injEq]
      exact waits
    · rw [entered, state, Option.some.injEq]
      exact holds
    · rw [entered, state, Option.some.injEq, Option.some.injEq]
      exact keeps
  markers := by
    apply work.markers.keep others pending (fun empty => by rw [stored] at empty; cases empty)
    · rw [entered]
      exact marked
    · rw [entered]
      exact queues
  agree other kept := by
    rw [stored] at kept
    cases kept
    exact agree

theorem stored_of_state {state : EvaluationState} (known : system.state = some state) :
    ∃ collection, system.collection = some collection ∧ collection.evaluation.state = state :=
  Option.map_eq_some_iff.mp known

theorem Owned.pass (owned : Owned system) {phase : RequestPhase} (others : ∀ j, j ≠ i → next.phase j = system.phase j)
    (entered : next.phase i = phase) (state : next.state = system.state) (owner : (system.phase i).isOwner = true)
    (waits : phase.isWaiting = true → (system.phase i).isWaiting = true)
    (holds : phase.isHolding = true → (system.phase i).isHolding = true) (keeps : phase.isOwner = true) : Owned next := by
  apply Owned.turn (owned.others owner) others
  · rw [entered]
    exact fun waiting => state.trans (owned.queued i (waits waiting))
  · rw [entered]
    exact fun holding => state.trans (owned.running i (holds holding))
  · rw [entered]
    exact fun _ => keeps

theorem Work.pass (work : Work process system) {phase : RequestPhase} (others : ∀ j, j ≠ i → next.phase j = system.phase j)
    (entered : next.phase i = phase) (pending : next.pending = system.pending) (stored : next.collection = system.collection)
    (owner : (system.phase i).isOwner = true) (marked : phase.isMarked = true → (system.phase i).isMarked = true)
    (unqueued : phase ≠ .queueing) (waits : phase.isWaiting = true → (system.phase i).isWaiting = true)
    (holds : phase.isHolding = true → (system.phase i).isHolding = true) (keeps : phase.isOwner = true) :
    Work process next where
  owned := work.owned.pass others entered (congrArg (Option.map _) stored) owner waits holds keeps
  markers := by
    apply work.markers.keep others pending (fun empty => stored.symm.trans empty) (by rw [entered]; exact marked)
    exact fun queueing => absurd (entered.symm.trans queueing) unqueued
  agree collection kept := work.agree collection (stored.symm.trans kept)

variable [DecidableEq ι]

theorem entered_self (system : EvaluationSystem ι π) (i : ι) (phase : RequestPhase) : (system.enter i phase).phase i = phase :=
  Function.update_self ..

theorem entered_other (system : EvaluationSystem ι π) (i : ι) (phase : RequestPhase) (j : ι) (apart : j ≠ i) :
    (system.enter i phase).phase j = system.phase j := Function.update_of_ne apart ..

theorem acceptDelivery_work (work : Work process system) {met : Circumstances} (here : system.phase i = .arrived) :
    Work process (acceptDelivery system i met) ∧ Moves .arrived system.state (acceptDelivery system i met).state := by
  rw [acceptDelivery]
  cases stored : system.collection with
  | some collection =>
    refine ⟨work.idle (entered_other system i _) (entered_self ..) rfl rfl ?_ rfl nofun, .stays⟩
    rw [here]
    rfl
  | none =>
    have state : system.state = none := by rw [EvaluationSystem.state, stored]; rfl
    have free (j : ι) (_ : j ≠ i) : (system.phase j).isOwner = false :=
      work.owned.unowned (by rw [state]; exact nofun) (by rw [state]; exact nofun) j
    have agree {row written : EvaluationRow} {isEndpoint : Bool}
        (member : row ∈ (if isEndpoint then some written else none)) : row = written := by
      cases isEndpoint with
      | true => exact (Option.some.inj member).symm
      | false => cases member
    rw [state]
    simp only
    cases met.hasWork with
    | true =>
      refine ⟨?_, .accepts⟩
      exact work.turn free (entered_other system i _) (entered_self ..) rfl rfl (fun row member => agree member) nofun
        (fun _ => work.markers.fresh stored _) (fun _ => rfl) nofun fun _ => rfl
    | false =>
      refine ⟨?_, .acceptsIdle⟩
      exact work.turn free (entered_other system i _) (entered_self ..) rfl rfl (fun row member => agree member) nofun
        nofun nofun nofun nofun

theorem requeue_work (work : Work process system) {met : Circumstances} (here : system.phase i = .checked)
    (undisturbed : (system.collection.bind requeueEvaluation).isSome → system.pending (process i) = false ∧
      met.ending ≠ .unacknowledged) :
    Work process (requeue system i met) ∧ Moves .checked system.state (requeue system i met).state := by
  have unowned : (system.phase i).isOwner = false := by rw [here]; rfl
  have quits : Work process (system.enter i .done) :=
    work.idle (entered_other system i _) (entered_self ..) rfl rfl unowned rfl nofun
  rw [requeue]
  cases stored : system.collection with
  | none => exact ⟨quits, .stays⟩
  | some collection =>
    simp only [Option.bind_some]
    cases requeued : requeueEvaluation collection with
    | none => exact ⟨quits, .stays⟩
    | some next =>
      rw [stored, Option.bind_some, requeued] at undisturbed
      obtain ⟨free, reported⟩ := undisturbed rfl
      rw [requeueEvaluation, Option.ite_none_right_eq_some, Bool.and_eq_true, decide_eq_true_eq] at requeued
      obtain ⟨⟨failed, -⟩, written⟩ := requeued
      have written := (Option.some.inj written).symm
      subst written
      have state : system.state = some .retryableFailure := by rw [EvaluationSystem.state, stored, ← failed]; rfl
      cases ending : met.ending with
      | rolledBack => exact ⟨quits, .stays⟩
      | unacknowledged => exact absurd ending reported
      | committed =>
        rw [state]
        refine ⟨?_, .requeues⟩
        have unowned (j : ι) (_ : j ≠ i) : (system.phase j).isOwner = false :=
          work.owned.unowned (by rw [state]; exact nofun) (by rw [state]; exact nofun) j
        exact work.turn unowned (entered_other system i _) (entered_self ..) rfl rfl (fun row => write_agree) nofun
          (fun _ => free) (fun _ => rfl) nofun fun _ => rfl

theorem claim_work (work : Work process system) {met : Circumstances} (here : system.phase i = .scheduled)
    (stored' : met.ending ≠ .rolledBack) :
    Work process (claim system i met) ∧ Moves .scheduled system.state (claim system i met).state := by
  have queued : system.state = some .queued := work.owned.queued i (by rw [here]; rfl)
  have others := work.owned.others (i := i) (by rw [here]; rfl)
  obtain ⟨collection, stored, state⟩ := stored_of_state queued
  have claimed : claimEvaluationWork collection = some (collection.write { state := .running }) := if_pos state
  rw [claim, queued, stored, Option.bind_some, claimed]
  simp only
  cases ending : met.ending with
  | rolledBack => exact absurd ending stored'
  | committed =>
    refine ⟨?_, .claims⟩
    exact work.turn others (entered_other system i _) (entered_self ..) rfl rfl (fun row => write_agree)
      (fun _ => by rw [here]; rfl) nofun nofun (fun _ => rfl) fun _ => rfl
  | unacknowledged =>
    refine ⟨?_, .claims⟩
    exact work.turn others (entered_other system i _) (entered_self ..) rfl rfl (fun row => write_agree)
      (fun _ => by rw [here]; rfl) nofun nofun (fun _ => rfl) fun _ => rfl

theorem recordState_work (work : Work process system) {met : Circumstances} (state : EvaluationState)
    (errorCode : Option String) {reported : RequestPhase} (raised : RequestPhase) (owner : (system.phase i).isOwner = true)
    (settled : state ≠ .queued ∧ state ≠ .running) (reported' : reported = .done ∨ reported = .finalizing ∧ (system.phase i).isMarked = true)
    (raised' : met.ending = .unacknowledged → raised = reported) (persisted : met.ending ≠ .rolledBack) :
    Work process (recordState system i met state errorCode reported raised) ∧
      (recordState system i met state errorCode reported raised).state = some state := by
  obtain ⟨collection, stored⟩ : ∃ collection, system.collection = some collection := by
    rw [RequestPhase.isOwner, Bool.or_eq_true] at owner
    rcases owner with waiting | holding
    · exact (stored_of_state (work.owned.queued i waiting)).imp fun _ => And.left
    · exact (stored_of_state (work.owned.running i holding)).imp fun _ => And.left
  have marked : reported.isMarked = true → (system.phase i).isMarked = true := by
    rcases reported' with rfl | ⟨rfl, marked⟩
    · exact nofun
    · exact fun _ => marked
  have unowned : reported.isWaiting = false ∧ reported.isHolding = false ∧ reported ≠ .queueing := by
    rcases reported' with rfl | ⟨rfl, -⟩
    · exact ⟨rfl, rfl, nofun⟩
    · exact ⟨rfl, rfl, nofun⟩
  have turn : Work process ({ system with collection := some (setEvaluationState collection state errorCode) }.enter i reported) :=
    work.turn (work.owned.others owner) (entered_other system i _) (entered_self ..) rfl rfl (fun row => write_agree) marked
      (fun queueing => absurd queueing unowned.2.2) (fun waiting => by rw [unowned.1] at waiting; cases waiting)
      (fun holding => by rw [unowned.2.1] at holding; cases holding)
      fun busy => absurd busy (not_or.mpr settled)
  rw [recordState, stored]
  simp only
  cases ending : met.ending with
  | rolledBack => exact absurd ending persisted
  | committed => exact ⟨turn, rfl⟩
  | unacknowledged =>
    rw [raised' ending]
    exact ⟨turn, rfl⟩

end

/-- A step is undisturbed if no transaction of it is lost where the code does not expect it, and if no administrator
requeues the collection before the task that failed has left the pending set. -/
def Undisturbed {ι π : Type} (process : ι → π) (system : EvaluationSystem ι π) (event : ι × Circumstances) : Prop :=
  match system.phase event.1 with
  | .checked => (system.collection.bind requeueEvaluation).isSome →
      system.pending (process event.1) = false ∧ event.2.ending ≠ .unacknowledged
  | .refused _ | .scheduled | .failing _ => event.2.ending ≠ .rolledBack
  | .finishing => event.2.ending ≠ .unacknowledged
  | _ => True

section

variable {ι π : Type} [DecidableEq ι] [DecidableEq π] {kind : ι → RequestKind} {process : ι → π}
  {system : EvaluationSystem ι π} {i : ι}

theorem queueEvaluation_work (work : Work process system) (met : Circumstances) (here : system.phase i = .queueing) :
    Work process (queueEvaluation process system i met) ∧ (queueEvaluation process system i met).state = system.state := by
  have owner : (system.phase i).isOwner = true := by rw [here]; rfl
  have waiting : (system.phase i).isWaiting = true := by rw [here]; rfl
  rw [queueEvaluation, if_neg (by rw [work.markers.unmarked i here]; exact nofun)]
  split
  · refine ⟨?_, rfl⟩
    exact work.pass (entered_other system i _) (entered_self ..) rfl rfl owner nofun nofun (fun _ => waiting) nofun rfl
  · have stored : system.collection ≠ none := by
      obtain ⟨collection, kept, -⟩ := stored_of_state (work.owned.queued i waiting)
      rw [kept]
      exact nofun
    have first (j : ι) (apart : j ≠ i) : system.phase j ≠ .queueing := fun queueing =>
      apart (work.owned.alone j i (by rw [queueing]; rfl) owner)
    refine ⟨⟨?_, ?_, work.agree⟩, rfl⟩
    · exact work.owned.pass (entered_other (system.mark (process i) true) i _) (entered_self ..) rfl owner
        (fun _ => waiting) nofun rfl
    · exact work.markers.mark (entered_other (system.mark (process i) true) i _) rfl stored here first
        (by rw [entered_self]; exact nofun)

theorem addTask_work (work : Work process system) (met : Circumstances) (here : system.phase i = .marked) :
    Work process (addTask process system i met) ∧ (addTask process system i met).state = system.state := by
  have owner : (system.phase i).isOwner = true := by rw [here]; rfl
  have waiting : (system.phase i).isWaiting = true := by rw [here]; rfl
  have marked : (system.phase i).isMarked = true := by rw [here]; rfl
  rw [addTask]
  split
  · refine ⟨⟨?_, ?_, work.agree⟩, rfl⟩
    · exact work.owned.pass (entered_other (system.mark (process i) false) i _) (entered_self ..) rfl owner
        (fun _ => waiting) nofun rfl
    · exact work.markers.unmark (entered_other (system.mark (process i) false) i _) rfl id marked
        (by rw [entered_self]; rfl)
  · refine ⟨?_, rfl⟩
    exact work.pass (entered_other system i _) (entered_self ..) rfl rfl owner (fun _ => marked) nofun (fun _ => waiting)
      nofun rfl

theorem discard_work (work : Work process system) (here : system.phase i = .finalizing) :
    Work process ((system.mark (process i) false).enter i .done) where
  owned := work.owned.idle (entered_other (system.mark (process i) false) i _) rfl (by rw [here]; rfl)
    (by rw [entered_self]; rfl)
  markers := work.markers.unmark (entered_other (system.mark (process i) false) i _) rfl id (by rw [here]; rfl)
    (by rw [entered_self]; rfl)
  agree := work.agree

omit [DecidableEq π] in
theorem finish_work (work : Work process system) {met : Circumstances} (here : system.phase i = .finishing)
    (reported : met.ending ≠ .unacknowledged) :
    Work process (recordState system i met .completed none .finalizing (.failing met.errorCode)) ∧
      Moves .finishing system.state
        (recordState system i met .completed none .finalizing (.failing met.errorCode)).state := by
  have owner : (system.phase i).isOwner = true := by rw [here]; rfl
  have holding : (system.phase i).isHolding = true := by rw [here]; rfl
  have marked : (system.phase i).isMarked = true := by rw [here]; rfl
  have running : system.state = some .running := work.owned.running i holding
  obtain ⟨collection, stored, -⟩ := stored_of_state running
  by_cases lost : met.ending = .rolledBack
  · have same : recordState system i met .completed none .finalizing (.failing met.errorCode) =
        system.enter i (.failing met.errorCode) := by
      rw [recordState, stored, lost]
      rfl
    rw [same]
    refine ⟨?_, .stays⟩
    exact work.pass (entered_other system i _) (entered_self ..) rfl rfl owner (fun _ => marked) nofun nofun
      (fun _ => holding) rfl
  · obtain ⟨next, state⟩ := recordState_work work .completed none (.failing met.errorCode) owner
      ⟨nofun, nofun⟩ (.inr ⟨rfl, marked⟩) (fun ending => absurd ending reported) lost
    rw [state, running]
    exact ⟨next, .completes⟩

variable (kind) in
theorem step_work (work : Work process system) (met : Circumstances) (undisturbed : Undisturbed process system (i, met)) :
    Work process (system.step kind process (i, met)) ∧
      Moves (system.phase i) system.state (system.step kind process (i, met)).state := by
  rw [EvaluationSystem.step]
  rw [Undisturbed] at undisturbed
  cases here : system.phase i with
  | arrived =>
    simp only
    cases kind i with
    | delivery => exact acceptDelivery_work work here
    | retry =>
      have unowned : (system.phase i).isOwner = false := by rw [here]; rfl
      simp only
      split
      · exact ⟨work.idle (entered_other system i _) (entered_self ..) rfl rfl unowned rfl nofun, .stays⟩
      · exact ⟨work.idle (entered_other system i _) (entered_self ..) rfl rfl unowned rfl nofun, .stays⟩
  | checked =>
    simp only [here] at undisturbed
    exact requeue_work work here undisturbed
  | queueing =>
    obtain ⟨next, state⟩ := queueEvaluation_work work met here
    simp only
    rw [state]
    exact ⟨next, .stays⟩
  | marked =>
    obtain ⟨next, state⟩ := addTask_work work met here
    simp only
    rw [state]
    exact ⟨next, .stays⟩
  | refused errorCode =>
    simp only [here] at undisturbed
    have queued : system.state = some .queued := work.owned.queued i (by rw [here]; rfl)
    obtain ⟨next, state⟩ := recordState_work work .retryableFailure (some errorCode) .done
      (by rw [here]; rfl) ⟨nofun, nofun⟩ (.inl rfl) (fun _ => rfl) undisturbed
    simp only
    rw [state, queued]
    exact ⟨next, .refuses⟩
  | scheduled =>
    simp only [here] at undisturbed
    exact claim_work work here undisturbed
  | working =>
    have owner : (system.phase i).isOwner = true := by rw [here]; rfl
    have holding : (system.phase i).isHolding = true := by rw [here]; rfl
    have marked : (system.phase i).isMarked = true := by rw [here]; rfl
    simp only
    split
    · exact ⟨work.pass (entered_other system i _) (entered_self ..) rfl rfl owner (fun _ => marked) nofun nofun
        (fun _ => holding) rfl, .stays⟩
    · exact ⟨work.pass (entered_other system i _) (entered_self ..) rfl rfl owner (fun _ => marked) nofun nofun
        (fun _ => holding) rfl, .stays⟩
  | finishing =>
    simp only [here] at undisturbed
    exact finish_work work here undisturbed
  | failing errorCode =>
    simp only [here] at undisturbed
    have running : system.state = some .running := work.owned.running i (by rw [here]; rfl)
    obtain ⟨next, state⟩ := recordState_work work .retryableFailure (some errorCode) .finalizing
      (by rw [here]; rfl) ⟨nofun, nofun⟩ (.inr ⟨rfl, by rw [here]; rfl⟩) (fun _ => rfl) undisturbed
    simp only
    rw [state, running]
    exact ⟨next, .fails⟩
  | finalizing => exact ⟨discard_work work here, .stays⟩
  | done => exact ⟨work, .stays⟩

end

/-- What a step does to the evaluation, and who owns it afterwards. -/
structure WorkLaw {ι π : Type} [DecidableEq ι] [DecidableEq π] (kind : ι → RequestKind) (process : ι → π)
    (system : EvaluationSystem ι π) (event : ι × Circumstances) : Prop where
  moves : Moves (system.phase event.1) system.state (system.step kind process event).state
  alone : ∀ j k, ((system.step kind process event).phase j).isHolding = true →
    ((system.step kind process event).phase k).isHolding = true → j = k
  held : (system.step kind process event).state = some .running ↔
    ∃ j, ((system.step kind process event).phase j).isHolding = true
  unlost : (system.step kind process event).state = some .queued →
    ∃ j, ((system.step kind process event).phase j).isWaiting = true
  agree : ∀ collection, (system.step kind process event).collection = some collection →
    ∀ row ∈ collection.batch, row = collection.evaluation

section

variable {ι π : Type} {process : ι → π} {system : EvaluationSystem ι π}

theorem Owned.held (owned : Owned system) : system.state = some .running ↔ ∃ j, (system.phase j).isHolding = true := by
  refine ⟨fun running => ?_, fun ⟨j, holding⟩ => owned.running j holding⟩
  obtain ⟨j, owner⟩ := owned.owned (.inr running)
  rw [RequestPhase.isOwner, Bool.or_eq_true] at owner
  refine ⟨j, owner.resolve_left fun waiting => ?_⟩
  have queued := owned.queued j waiting
  rw [running] at queued
  cases queued

theorem Owned.unlost (owned : Owned system) (queued : system.state = some .queued) :
    ∃ j, (system.phase j).isWaiting = true := by
  obtain ⟨j, owner⟩ := owned.owned (.inl queued)
  rw [RequestPhase.isOwner, Bool.or_eq_true] at owner
  refine ⟨j, owner.resolve_right fun holding => ?_⟩
  have running := owned.running j holding
  rw [queued] at running
  cases running

theorem start_work : Work process ({} : EvaluationSystem ι π) where
  owned := ⟨nofun, nofun, nofun, nofun⟩
  markers := ⟨nofun, nofun, nofun, fun _ _ => rfl⟩
  agree := nofun

end

/-- One delivery and two retries in one process. -/
def sampleKind (i : Fin 3) : RequestKind := if i = 0 then .delivery else .retry

def usual : Circumstances := {}

def failed : Circumstances := { raises := true, errorCode := "reevaluation-runtimeerror" }

/-- A request that is queued and whose task fails, up to the failure's write. -/
def failingTask (i : Fin 3) : List (Fin 3 × Circumstances) := [(i, usual), (i, usual), (i, usual), (i, usual), (i, failed), (i, usual)]

def retriedOnce : List (Fin 3 × Circumstances) :=
  failingTask 0 ++ [(0, usual), (1, usual)] ++ failingTask 1 ++ [(1, usual), (2, usual), (2, usual), (2, usual), (2, usual), (2, usual), (2, usual), (2, usual)]

instance {ι π : Type} (process : ι → π) (system : EvaluationSystem ι π) (event : ι × Circumstances) :
    Decidable (Undisturbed process system event) := by
  unfold Undisturbed
  split <;> infer_instance

/-- The second retry has looked before the first one queued its task, and requeues after that task failed. -/
def retriedTwice : List (Fin 3 × Circumstances) :=
  failingTask 0 ++ [(0, usual), (1, usual), (2, usual)] ++ failingTask 1 ++ [(2, usual), (2, usual), (1, usual)]

/-- The end of a task whose completed write is committed without an acknowledgement. -/
def unacknowledgedEnd : List (Fin 3 × Circumstances) :=
  [(0, usual), (0, usual), (0, usual), (0, usual), (0, usual), (0, { ending := .unacknowledged })]

end OpenAssetWatch.Ingestion
