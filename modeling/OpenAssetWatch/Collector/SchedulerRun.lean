import OpenAssetWatch.Collector.SchedulerLaw

namespace OpenAssetWatch.Collector

open Library

section Requests

variable {config : Config} {python : Python} {cycle : Cycle} {here : Local}

/-- What a policy request has done that applied a policy, or none. -/
structure Retrieved (python : Python) (before : Local) (applied : Option Value) (result : Local × Except Raised Bool) : Prop where
  answered : ∃ runInventoryNow, result.2 = .ok runInventoryNow ∧
    (runInventoryNow = true → applied.any Value.runsInventoryNow = true)
  heartbeat : result.1.settings.heartbeatIntervalSeconds =
    (applied.bind (·.interval? python "heartbeat_interval_seconds")).getD before.settings.heartbeatIntervalSeconds
  inventory : result.1.settings.inventoryIntervalSeconds =
    (applied.bind (·.interval? python "inventory_interval_seconds")).getD before.settings.inventoryIntervalSeconds

theorem Retrieved.nothing {runInventoryNow : Bool} (asks : runInventoryNow = false) :
    Retrieved python here none (here, .ok runInventoryNow) :=
  ⟨⟨runInventoryNow, rfl, (fun impossible => by rw [asks] at impossible; cases impossible)⟩, rfl, rfl⟩

theorem rescueCache_fault {raised : Raised} (fault : raised.isCacheFault = true) : rescueCache here raised = (here, .ok false) :=
  if_pos fault

theorem useCachedPolicy_calm (calm : here.cache.Calm config python) :
    Retrieved python here (here.cache.accepted config python) (useCachedPolicy config python here) := by
  unfold useCachedPolicy
  rcases loadCachedPolicy_calm calm with ⟨payload, cached, loaded, accepted⟩ | ⟨none, absent | ⟨raised, failed, fault⟩⟩
  · obtain ⟨applied, heartbeat, inventory⟩ := @apply_accepted python payload here.settings accepted
    rw [cached, loaded]
    dsimp only
    rw [applied]
    exact ⟨⟨payload.runsInventoryNow, rfl, id⟩, heartbeat, inventory⟩
  · rw [none, absent]
    exact Retrieved.nothing rfl
  · rw [none, failed]
    dsimp only
    rw [rescueCache_fault fault]
    exact Retrieved.nothing rfl

theorem applyRemotePolicy_accepted {payload : Value} (accepted : cycle.accepted config python = some payload) :
    validatePolicyPayload python payload = .ok () ∧ applyRemotePolicy config python cycle here =
      (⟨(applyPolicyToArgs python here.settings payload).1, if config.cachePathSet = true then .holds (.json payload) else here.cache⟩,
        (reportPolicyStatus cycle.status).map fun _ => payload.runsInventoryNow) := by
  unfold Cycle.accepted at accepted
  cases response : cycle.policy with
  | fails failure =>
    rw [response] at accepted
    cases accepted
  | empty =>
    rw [response] at accepted
    cases accepted
  | body document =>
    rw [response] at accepted
    cases document with
    | json found =>
      obtain ⟨sound, same⟩ := Option.ite_none_right_eq_some.mp accepted
      cases same
      obtain ⟨passed, storable⟩ := Bool.and_eq_true_iff.mp sound
      have checked := accepted_iff.mp passed
      obtain ⟨applied, _⟩ := @apply_accepted python payload here.settings checked
      apply And.intro checked
      have stored : cachePolicy config cycle payload here =
          (⟨here.settings, if config.cachePathSet = true then .holds (.json payload) else here.cache⟩, .ok ()) := by
        unfold cachePolicy
        cases path : config.cachePathSet with
        | false => rfl
        | true =>
          rw [path] at storable
          have writable : cycle.cacheWritable = true := by simpa using storable
          rw [writable]
          rfl
      unfold applyRemotePolicy
      rw [response]
      have read : (Response.body (.json payload)).read = .ok payload := rfl
      rw [read]
      dsimp only
      rw [checked]
      dsimp only
      rw [stored]
      dsimp only
      rw [applied]
      dsimp only
      cases reportPolicyStatus cycle.status with
      | error raised => rfl
      | ok reported => rfl
    | _ => cases accepted

theorem applyRemotePolicy_refused (calm : cycle.policy.PolicyCalm python) (refused : cycle.accepted config python = none) :
    ∃ raised, applyRemotePolicy config python cycle here = (here, .error raised) ∧ raised.isPolicyFault = true := by
  unfold applyRemotePolicy
  unfold Cycle.accepted at refused
  cases response : cycle.policy with
  | fails failure =>
    rw [response] at calm
    apply Exists.intro failure.raised
    apply And.intro rfl
    have handled := failure_isTransport calm
    cases failure with
    | httpException => cases handled
    | _ => rfl
  | empty => exact ⟨.configError, rfl, rfl⟩
  | body document =>
    rw [response] at calm refused
    cases document with
    | undecodable => exact calm.elim
    | refused tooDeep => exact calm.elim
    | malformed => exact ⟨.jsonDecodeError, rfl, rfl⟩
    | json payload =>
      have read : (Response.body (.json payload)).read = .ok payload := rfl
      rw [read]
      dsimp only
      cases checked : validatePolicyPayload python payload with
      | error raised =>
        apply Exists.intro raised
        apply And.intro rfl
        rw [onlyConfig_validate.mpr calm raised checked]
        rfl
      | ok done =>
        have unstored : cachePolicy config cycle payload here = (here, .error .osError) := by
          have passed := accepted_iff.mpr checked
          dsimp only at refused
          rw [passed] at refused
          unfold cachePolicy
          cases path : config.cachePathSet with
          | false =>
            rw [path] at refused
            cases refused
          | true =>
            cases writable : cycle.cacheWritable with
            | true =>
              rw [path, writable] at refused
              cases refused
            | false => rfl
        dsimp only
        rw [unstored]
        exact ⟨.osError, rfl, rfl⟩

theorem cachedAccepted_eq {payload : Value} (path : config.cachePathSet = true)
    (checked : validatePolicyPayload python payload = .ok ()) :
    (CacheFile.holds (.json payload)).accepted config python = some payload := by
  unfold CacheFile.accepted
  dsimp only
  rw [path, accepted_iff.mpr checked]
  rfl

theorem retrieved_again {payload : Value} (checked : validatePolicyPayload python payload = .ok ()) :
    Retrieved python here (some payload) (useCachedPolicy config python
      ⟨(applyPolicyToArgs python here.settings payload).1, if config.cachePathSet = true then .holds
        (.json payload) else here.cache⟩) := by
  obtain ⟨_, heartbeat, inventory⟩ := @apply_accepted python payload here.settings checked
  cases path : config.cachePathSet with
  | false =>
    have unread : loadCachedPolicy config python here.cache = .ok none := if_pos path
    have nothing : useCachedPolicy config python ⟨(applyPolicyToArgs python here.settings payload).1, here.cache⟩ =
        (⟨(applyPolicyToArgs python here.settings payload).1, here.cache⟩, .ok false) := by
      rw [useCachedPolicy]
      dsimp only
      rw [unread]
      rfl
    show Retrieved python here (some payload) (useCachedPolicy config python ⟨_, here.cache⟩)
    rw [nothing]
    exact ⟨⟨false, rfl, (fun impossible => by cases impossible)⟩, heartbeat, inventory⟩
  | true =>
    have calm : (CacheFile.holds (.json payload)).Calm config python := by
      intro _ document same
      cases same
      intro _
      apply onlyConfig_validate.mp
      rw [checked]
      exact onlyConfig_ok ()
    have again : Retrieved python ⟨(applyPolicyToArgs python here.settings payload).1, .holds (.json payload)⟩ _ _ :=
      useCachedPolicy_calm calm
    rw [cachedAccepted_eq path checked] at again
    have keep (given : Option Int) (current : Int) : given.getD (given.getD current) = given.getD current := by
      cases given with
      | none => rfl
      | some seconds => rfl
    apply Retrieved.mk again.answered
    · apply again.heartbeat.trans
      dsimp only [Option.bind_some]
      rw [heartbeat, keep]
    · apply again.inventory.trans
      dsimp only [Option.bind_some]
      rw [inventory, keep]

theorem holdPolicy_calm (calm : here.cache.Calm config python) (status : cycle.status.Calm) :
    holdPolicy config python cycle here = (here, .ok false) := by
  unfold holdPolicy
  rw [reportPolicyStatus_calm status]
  rcases loadCachedPolicy_calm calm with ⟨payload, _, loaded, _⟩ | ⟨_, absent | ⟨raised, failed, fault⟩⟩
  · rw [loaded]
    rfl
  · rw [absent]
    rfl
  · rw [failed]
    exact if_pos fault

theorem retrieveAndApplyPolicy_calm (calm : config.policyEnabled = true → cycle.PolicyCalm config python here.cache) :
    Retrieved python here (cycle.applies config python here.cache) (retrieveAndApplyPolicy config python cycle here) := by
  unfold retrieveAndApplyPolicy Cycle.applies
  cases enabled : config.policyEnabled with
  | false => exact Retrieved.nothing rfl
  | true =>
    have calm := calm enabled
    unfold Cycle.PolicyCalm at calm
    cases held : cycle.held with
    | true =>
      rw [held] at calm
      show Retrieved python here none (holdPolicy config python cycle here)
      rw [holdPolicy_calm calm.1 calm.2]
      exact Retrieved.nothing rfl
    | false =>
      rw [held, if_neg Bool.false_ne_true] at calm
      rw [if_neg Bool.false_ne_true.symm, if_neg Bool.false_ne_true, Bool.not_false, Bool.and_true, if_pos rfl]
      cases accepted : cycle.accepted config python with
      | none =>
        rw [accepted] at calm
        obtain ⟨raised, refused, fault⟩ := @applyRemotePolicy_refused config python cycle here calm.1 accepted
        rw [refused]
        dsimp only
        rw [if_pos fault]
        exact useCachedPolicy_calm calm.2
      | some payload =>
        rw [accepted] at calm
        obtain ⟨checked, remote⟩ := @applyRemotePolicy_accepted config python cycle here payload accepted
        rw [remote]
        rcases calm with calm | malformed
        · obtain ⟨_, heartbeat, inventory⟩ := @apply_accepted python payload here.settings checked
          rw [reportPolicyStatus_calm calm]
          exact ⟨⟨payload.runsInventoryNow, rfl, id⟩, heartbeat, inventory⟩
        · rw [malformed]
          exact retrieved_again checked

end Requests

section Cycles

variable {config : Config} {python : Python} {cycle : Cycle} {here : Local}

theorem checkIn_calm {runInventory : Bool} (calm : CycleCalm config python true runInventory cycle here.cache) :
    Retrieved python here (cycle.applies config python here.cache) (checkIn config python cycle here) := by
  obtain ⟨sent, uploaded⟩ := performUpload_calm (calm.checkin rfl)
  have retrieved := retrieveAndApplyPolicy_calm (calm.policy rfl)
  unfold checkIn
  rw [uploaded]
  dsimp only
  rcases result : retrieveAndApplyPolicy config python cycle here with ⟨after, outcome⟩
  rw [result] at retrieved
  obtain ⟨runInventoryNow, answered, asks⟩ := retrieved.answered
  have same : outcome = .ok runInventoryNow := answered
  rw [same]
  cases config.policyEnabled with
  | false => exact ⟨⟨runInventoryNow, rfl, asks⟩, retrieved.heartbeat, retrieved.inventory⟩
  | true => exact ⟨⟨runInventoryNow, rfl, asks⟩, retrieved.heartbeat, retrieved.inventory⟩

theorem runBackendCycle_calm {runCheckin runInventory : Bool}
    (calm : CycleCalm config python runCheckin runInventory cycle here.cache) :
    ∃ after, runBackendCycle config python runCheckin runInventory cycle here = (after, .ok ()) ∧
      after.settings.heartbeatIntervalSeconds = here.heartbeatAfter config python runCheckin cycle ∧
      after.settings.inventoryIntervalSeconds = here.inventoryAfter config python runCheckin cycle := by
  have checked : Retrieved python here (if runCheckin = true then cycle.applies config python here.cache else none)
      (if runCheckin = true then checkIn config python cycle (here.withSupported cycle.supportedFirst)
        else (here.withSupported cycle.supportedFirst, .ok false)) := by
    cases runCheckin with
    | false => exact ⟨⟨false, rfl, (fun impossible => by cases impossible)⟩, rfl, rfl⟩
    | true =>
      have calm : CycleCalm config python true runInventory cycle (here.withSupported cycle.supportedFirst).cache := calm
      have done := checkIn_calm calm
      exact ⟨done.answered, done.heartbeat, done.inventory⟩
  unfold runBackendCycle
  dsimp only
  rcases result : (if runCheckin = true then checkIn config python cycle (here.withSupported cycle.supportedFirst)
    else (here.withSupported cycle.supportedFirst, .ok false)) with ⟨after, outcome⟩
  rw [result] at checked
  obtain ⟨runInventoryNow, answered, asks⟩ := checked.answered
  have same : outcome = .ok runInventoryNow := answered
  rw [same]
  apply Exists.intro after
  apply And.intro _ ⟨checked.heartbeat, checked.inventory⟩
  dsimp only
  split
  · rename_i uploads
    have inventory : cycle.inventory.Calm := by
      apply calm.inventory
      rcases Bool.or_eq_true_iff.mp uploads with due | asked
      · exact .inl due
      · apply Or.inr
        have applied := asks (of_decide_eq_true asked)
        cases runCheckin with
        | false => cases applied
        | true => exact ⟨rfl, applied⟩
    obtain ⟨sent, uploaded⟩ := performUpload_calm inventory
    rw [uploaded]
    rfl
  · rfl

end Cycles

section Runs

variable (config : Config) (python : Python) (timing : Timing) (maxCycles : Option Nat)

/-- The first cycle can be handled, and the clock can take its intervals. -/
structure CalmStart (cycle : Cycle) (first second : ℚ) (here : Local) : Prop where
  handled : CycleCalm config python true true cycle here.cache
  heartbeat : limitReached maxCycles 1 = false → timing.Adds first (here.heartbeatAfter config python true cycle)
  inventory : limitReached maxCycles 1 = false → timing.Adds second (here.inventoryAfter config python true cycle)

/-- The loop is entered, and the sleep before its cycle ends. -/
def Awake (scheduler : Scheduler) (input : Turn) : Prop :=
  scheduler.phase = .running ∧ (scheduler.waitSeconds input.now ≠ 0 → timing.sleep (scheduler.waitSeconds input.now) = .ok ())

/-- The clock can sleep until the next cycle, or the sleep is interrupted; a cycle that is due can be handled, and the clock can
take its intervals. -/
structure CalmTurn (scheduler : Scheduler) (input : Turn) : Prop where
  sleeps : scheduler.phase = .running → scheduler.waitSeconds input.now ≠ 0 →
    timing.sleep (scheduler.waitSeconds input.now) = .ok () ∨
      timing.sleep (scheduler.waitSeconds input.now) = .error .keyboardInterrupt
  handled : Awake timing scheduler input → scheduler.nextHeartbeat ≤ input.woken ∨ scheduler.nextInventory ≤ input.woken →
    CycleCalm config python (scheduler.nextHeartbeat ≤ input.woken) (scheduler.nextInventory ≤ input.woken) input.cycle
      scheduler.here.cache
  heartbeat : Awake timing scheduler input → scheduler.nextHeartbeat ≤ input.woken →
    timing.Adds input.woken (scheduler.here.heartbeatAfter config python true input.cycle)
  inventory : Awake timing scheduler input → scheduler.nextInventory ≤ input.woken →
    timing.Adds input.woken
      (scheduler.here.inventoryAfter config python (scheduler.nextHeartbeat ≤ input.woken) input.cycle)

/-- The scheduler has not ended with an exception. -/
def Alive (scheduler : Scheduler) : Prop := ∀ raised, scheduler.phase ≠ .ended raised

variable {config python timing maxCycles}

theorem alive_of_running {scheduler : Scheduler} (running : scheduler.phase = .running) : Alive scheduler := by
  intro raised ended
  rw [running] at ended
  cases ended

theorem alive_of_returned {scheduler : Scheduler} (returned : scheduler.phase = .returned) : Alive scheduler := by
  intro raised ended
  rw [returned] at ended
  cases ended

theorem start_alive {cycle : Cycle} {first second : ℚ} {here : Local}
    (calm : CalmStart config python timing maxCycles cycle first second here) :
    Alive (start config python timing maxCycles cycle first second here) := by
  obtain ⟨after, done, heartbeat, inventory⟩ := runBackendCycle_calm calm.handled
  unfold start
  rw [done]
  dsimp only
  cases limit : limitReached maxCycles 1 with
  | true => exact alive_of_returned rfl
  | false =>
    obtain ⟨nextHeartbeat, heartbeatAdds⟩ := calm.heartbeat limit
    obtain ⟨nextInventory, inventoryAdds⟩ := calm.inventory limit
    rw [if_neg Bool.false_ne_true, heartbeat, heartbeatAdds]
    dsimp only
    rw [inventory, inventoryAdds]
    exact alive_of_running rfl

theorem reschedule_running {scheduler : Scheduler} {woken : ℚ} {runCheckin runInventory : Bool}
    (running : scheduler.phase = .running)
    (heartbeat : runCheckin = true → timing.Adds woken scheduler.here.settings.heartbeatIntervalSeconds)
    (inventory : runInventory = true → timing.Adds woken scheduler.here.settings.inventoryIntervalSeconds) :
    (scheduler.reschedule timing woken runCheckin runInventory).phase = .running := by
  have heartbeatTime : ∃ next, (if runCheckin = true then timing.later woken scheduler.here.settings.heartbeatIntervalSeconds
      else .ok scheduler.nextHeartbeat) = .ok next := by
    cases runCheckin with
    | false => exact ⟨_, rfl⟩
    | true => exact heartbeat rfl
  have inventoryTime : ∃ next, (if runInventory = true then timing.later woken scheduler.here.settings.inventoryIntervalSeconds
      else .ok scheduler.nextInventory) = .ok next := by
    cases runInventory with
    | false => exact ⟨_, rfl⟩
    | true => exact inventory rfl
  obtain ⟨nextHeartbeat, heartbeatFound⟩ := heartbeatTime
  obtain ⟨nextInventory, inventoryFound⟩ := inventoryTime
  unfold Scheduler.reschedule
  dsimp only
  rw [heartbeatFound]
  dsimp only
  rw [inventoryFound]
  exact running

theorem runDue_running {scheduler : Scheduler} {input : Turn} (awake : Awake timing scheduler input)
    (calm : CalmTurn config python timing scheduler input) :
    (scheduler.runDue config python timing input).phase = .running := by
  unfold Scheduler.runDue
  dsimp only
  split
  · rename_i due
    have due : scheduler.nextHeartbeat ≤ input.woken ∨ scheduler.nextInventory ≤ input.woken := by simpa using due
    obtain ⟨after, done, heartbeat, inventory⟩ := runBackendCycle_calm (calm.handled awake due)
    rw [done]
    dsimp only
    apply reschedule_running
    · exact awake.1
    · intro checkin
      show timing.Adds input.woken after.settings.heartbeatIntervalSeconds
      rw [heartbeat, checkin]
      exact calm.heartbeat awake (of_decide_eq_true checkin)
    · intro uploads
      show timing.Adds input.woken after.settings.inventoryIntervalSeconds
      rw [inventory]
      exact calm.inventory awake (of_decide_eq_true uploads)
  · exact awake.1

theorem turn_alive {scheduler : Scheduler} {input : Turn} (alive : Alive scheduler)
    (calm : CalmTurn config python timing scheduler input) :
    Alive (turn config python timing maxCycles scheduler input) := by
  unfold turn
  split
  · exact alive
  · rename_i running
    have running : scheduler.phase = .running := not_not.mp running
    have slept : (if scheduler.waitSeconds input.now ≠ 0 then timing.sleep (scheduler.waitSeconds input.now) else .ok
        ()) = .ok () ∧
          Awake timing scheduler input ∨
        (if scheduler.waitSeconds input.now ≠ 0 then timing.sleep (scheduler.waitSeconds input.now) else .ok ()) =
          .error .keyboardInterrupt := by
      by_cases waits : scheduler.waitSeconds input.now ≠ 0
      · rw [if_pos waits]
        exact (calm.sleeps running waits).imp_left fun slept => ⟨slept, running, fun _ => slept⟩
      · rw [if_neg waits]
        exact .inl ⟨rfl, running, fun impossible => absurd impossible waits⟩
    dsimp only
    rcases slept with ⟨slept, awake⟩ | interrupted
    · rw [slept]
      dsimp only
      split
      · exact alive_of_returned rfl
      · exact alive_of_running (runDue_running awake calm)
    · rw [interrupted]
      exact alive_of_returned rfl

/-- The scheduler survives: no exception ends it, a policy that is refused changes no setting, and a policy request leaves the
cache file as it was or with a policy that is accepted. -/
structure SchedulerSurvives (config : Config) (python : Python) (timing : Timing) (maxCycles : Option Nat)
    (scheduler : Scheduler) (turns : List Turn) : Prop where
  alive : ∀ done rest, turns = done ++ rest → Alive (done.foldl (turn config python timing maxCycles) scheduler)
  refused : ∀ settings payload, validatePolicyPayload python payload ≠ .ok () →
    (applyPolicyToArgs python settings payload).1 = settings
  requests : ∀ cycle here, PolicySafe python here (retrieveAndApplyPolicy config python cycle here).1

/-- A hub that is not reached, and answers nothing. -/
def unreached : Cycle where
  supportedFirst := [openDetector]
  supportedAgain := [openDetector]
  checkin := .fails .urlError
  held := false
  policy := .fails .urlError
  cacheWritable := true
  status := .empty
  inventory := .fails .timeoutError

def hourly : Local := ⟨⟨"device", 60, 3600, true, []⟩, .absent⟩

def exactTiming : Timing := ⟨fun time seconds => .ok (time + seconds), fun _ => .ok ()⟩

def samplePython : Python := ⟨String.toInt?, String.toLower, fun _ => "sha256:"⟩

theorem unreached_calm (runCheckin runInventory : Bool) (config : Config) (python : Python) :
    CycleCalm config python runCheckin runInventory unreached .absent := by
  have absent : CacheFile.absent.Calm config python := fun _ _ impossible => by cases impossible
  have fails : unreached.PolicyCalm config python .absent := by
    unfold Cycle.PolicyCalm
    rw [if_neg (show ¬unreached.held = true from Bool.false_ne_true),
      if_neg (show ¬(unreached.accepted config python).isSome = true from Bool.false_ne_true)]
    exact ⟨(fun impossible => by cases impossible), absent⟩
  exact ⟨(fun _ impossible => by cases impossible), fun _ _ => fails, (fun _ impossible => by cases impossible)⟩

end Runs

end OpenAssetWatch.Collector
