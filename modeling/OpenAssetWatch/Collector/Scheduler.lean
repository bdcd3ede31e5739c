import OpenAssetWatch.Collector.Policy

namespace OpenAssetWatch.Collector

section Requests

/-- What decoding the bytes of a body or a file as UTF-8 and reading them as JSON gives. -/
inductive Document where
  | undecodable
  | malformed
  /-- JSON that the reader gives up on: nested too deep, or an integer of too many digits. -/
  | refused (tooDeep : Bool)
  | json (value : Value)

def Document.load : Document → Except Raised Value
  | .undecodable => .error .unicodeDecodeError
  | .malformed => .error .jsonDecodeError
  | .refused true => .error .recursionError
  | .refused false => .error .valueError
  | .json value => .ok value

/-- How a request can fail before there is a body; a status other than success is an `HTTPError`. -/
inductive Failure where
  | httpError
  | urlError
  | timeoutError
  | osError
  | httpException
deriving DecidableEq, Repr

def Failure.raised : Failure → Raised
  | .httpError => .httpError
  | .urlError => .urlError
  | .timeoutError => .timeoutError
  | .osError => .osError
  | .httpException => .httpException

inductive Response where
  | fails (failure : Failure)
  | empty
  | body (document : Document)

/-- `send_checkin`, `send_inventory`, `send_policy_request` and `send_policy_status` after the request is built. -/
def Response.read : Response → Except Raised Value
  | .fails failure => .error failure.raised
  | .empty => .ok (.dict [])
  | .body document => document.load

/-- `except (HTTPError, URLError, TimeoutError, OSError)`. -/
def Raised.isTransport : Raised → Bool
  | .httpError | .urlError | .timeoutError | .osError => true
  | _ => false

/-- `perform_checkin` and `perform_inventory_upload`. -/
def performUpload (response : Response) : Except Raised Bool :=
  match response.read with
  | .ok _ => .ok true
  | .error raised => if raised.isTransport = true then .ok false else .error raised

/-- `report_policy_status`. -/
def reportPolicyStatus (response : Response) : Except Raised Unit :=
  match response.read with
  | .ok _ => .ok ()
  | .error raised => if raised.isTransport = true then .ok () else .error raised

end Requests

section Policies

/-- The policy cache file. -/
inductive CacheFile where
  | absent
  | unreadable
  | holds (document : Document)

/-- The arguments that stay as they are. -/
structure Config where
  policyEnabled : Bool
  cachePathSet : Bool

variable (config : Config) (python : Python)

def readCachedPolicy (document : Document) : Except Raised Value := do
  let payload ← document.load
  Library.require payload.isDict .configError
  validatePolicyPayload python payload
  return payload

/-- `load_cached_policy`. -/
def loadCachedPolicy (cache : CacheFile) : Except Raised (Option Value) :=
  if config.cachePathSet = false then .ok none
  else
    match cache with
    | .absent => .ok none
    | .unreadable => .error .osError
    | .holds document => (readCachedPolicy python document).map some

/-- `except (OSError, json.JSONDecodeError, ConfigError)`. -/
def Raised.isCacheFault : Raised → Bool
  | .osError | .jsonDecodeError | .configError => true
  | raised => raised.isTransport

/-- `except (HTTPError, URLError, TimeoutError, OSError, json.JSONDecodeError, ConfigError)`. -/
def Raised.isPolicyFault : Raised → Bool
  | .jsonDecodeError | .configError => true
  | raised => raised.isTransport

/-- What one cycle finds outside. -/
structure Cycle where
  /-- The capabilities of the payload that is built first, and of the one that is built after the policy. -/
  supportedFirst : List String
  supportedAgain : List String
  checkin : Response
  held : Bool
  policy : Response
  cacheWritable : Bool
  status : Response
  inventory : Response

/-- Settings and cache file. -/
structure Local where
  settings : Settings
  cache : CacheFile

/-- `cache_policy`; the file holds the policy, or is left as it was. -/
def cachePolicy (cycle : Cycle) (payload : Value) (here : Local) : Local × Except Raised Unit :=
  if config.cachePathSet = false then (here, .ok ())
  else if cycle.cacheWritable = true then ({ here with cache := .holds (.json payload) }, .ok ()) else (here, .error .osError)

/-- `except (OSError, json.JSONDecodeError, ConfigError)`, after which the policy asks for nothing. -/
def rescueCache (here : Local) (raised : Raised) : Local × Except Raised Bool :=
  if raised.isCacheFault = true then (here, .ok false) else (here, .error raised)

/-- The policy of the cache file, when the one of the hub failed; no policy is a `ConfigError` that is rescued. -/
def useCachedPolicy (here : Local) : Local × Except Raised Bool :=
  match loadCachedPolicy config python here.cache with
  | .error raised => rescueCache here raised
  | .ok none => rescueCache here .configError
  | .ok (some payload) =>
    let applied := applyPolicyToArgs python here.settings payload
    let here := { here with settings := applied.1 }
    match applied.2 with
    | .error raised => rescueCache here raised
    | .ok runInventoryNow => (here, .ok runInventoryNow)

/-- The first `try` of `retrieve_and_apply_policy`. -/
def applyRemotePolicy (cycle : Cycle) (here : Local) : Local × Except Raised Bool :=
  match cycle.policy.read with
  | .error raised => (here, .error raised)
  | .ok payload =>
    match validatePolicyPayload python payload with
    | .error raised => (here, .error raised)
    | .ok () =>
      match cachePolicy config cycle payload here with
      | (here, .error raised) => (here, .error raised)
      | (here, .ok ()) =>
        let applied := applyPolicyToArgs python here.settings payload
        let here := { here with settings := applied.1 }
        match applied.2 with
        | .error raised => (here, .error raised)
        | .ok runInventoryNow =>
          match reportPolicyStatus cycle.status with
          | .error raised => (here, .error raised)
          | .ok () => (here, .ok runInventoryNow)

/-- `retrieve_and_apply_policy` while the hold file is there. -/
def holdPolicy (cycle : Cycle) (here : Local) : Local × Except Raised Bool :=
  match loadCachedPolicy config python here.cache with
  | .error raised =>
    if raised.isCacheFault = true then (here, (reportPolicyStatus cycle.status).map fun _ => false) else (here, .error raised)
  | .ok _ => (here, (reportPolicyStatus cycle.status).map fun _ => false)

/-- `retrieve_and_apply_policy`. -/
def retrieveAndApplyPolicy (cycle : Cycle) (here : Local) : Local × Except Raised Bool :=
  if config.policyEnabled = false then (here, .ok false)
  else if cycle.held = true then holdPolicy config python cycle here
  else
    match applyRemotePolicy config python cycle here with
    | (here, .ok runInventoryNow) => (here, .ok runInventoryNow)
    | (here, .error raised) => if raised.isPolicyFault = true then useCachedPolicy config python here else (here, .error raised)

end Policies

section Scheduling

variable (config : Config) (python : Python)

def Local.withSupported (here : Local) (supported : List String) : Local :=
  { here with settings := { here.settings with supportedCapabilities := supported } }

/-- The part of `run_backend_cycle` after `build_payload` that is done at a check-in. -/
def checkIn (cycle : Cycle) (here : Local) : Local × Except Raised Bool :=
  match performUpload cycle.checkin with
  | .error raised => (here, .error raised)
  | .ok _ =>
    match retrieveAndApplyPolicy config python cycle here with
    | (here, .error raised) => (here, .error raised)
    | (here, .ok runInventoryNow) =>
      (if config.policyEnabled = true then here.withSupported cycle.supportedAgain else here, .ok runInventoryNow)

/-- `run_backend_cycle`. -/
def runBackendCycle (checkin uploadInventory : Bool) (cycle : Cycle) (here : Local) : Local × Except Raised Unit :=
  let here := here.withSupported cycle.supportedFirst
  match if checkin = true then checkIn config python cycle here else (here, .ok false) with
  | (here, .error raised) => (here, .error raised)
  | (here, .ok runInventoryNow) =>
    if uploadInventory || runInventoryNow = true then (here, (performUpload cycle.inventory).map fun _ => ())
    else (here, .ok ())

inductive Phase where
  | running
  | returned
  | ended (raised : Raised)
deriving DecidableEq, Repr

structure Scheduler where
  here : Local
  nextHeartbeat : ℚ
  nextInventory : ℚ
  completedCycles : Nat
  phase : Phase

/-- The clock: what adding seconds to a time gives, and what sleeping does. -/
structure Timing where
  later : ℚ → Int → Except Raised ℚ
  sleep : ℚ → Except Raised Unit

/-- `except KeyboardInterrupt` returns. -/
def Scheduler.stop (scheduler : Scheduler) (raised : Raised) : Scheduler :=
  { scheduler with phase := if raised = .keyboardInterrupt then .returned else .ended raised }

variable (timing : Timing) (maxCycles : Option Nat)

def limitReached (completedCycles : Nat) : Bool := maxCycles.any (· ≤ completedCycles)

/-- The start of `run_scheduler`, with the two readings of the clock after the first cycle. -/
def start (cycle : Cycle) (first second : ℚ) (here : Local) : Scheduler :=
  match runBackendCycle config python true true cycle here with
  | (here, .error raised) => Scheduler.stop ⟨here, 0, 0, 0, .running⟩ raised
  | (here, .ok ()) =>
    let scheduler : Scheduler := ⟨here, 0, 0, 1, .running⟩
    if limitReached maxCycles 1 = true then { scheduler with phase := .returned }
    else
      match timing.later first here.settings.heartbeatIntervalSeconds with
      | .error raised => scheduler.stop raised
      | .ok nextHeartbeat =>
        match timing.later second here.settings.inventoryIntervalSeconds with
        | .error raised => scheduler.stop raised
        | .ok nextInventory => { scheduler with nextHeartbeat, nextInventory }

/-- A turn of the loop: the two readings of the clock, and what a cycle finds. -/
structure Turn where
  now : ℚ
  woken : ℚ
  cycle : Cycle

/-- The times of the next cycles after a cycle. -/
def Scheduler.reschedule (scheduler : Scheduler) (woken : ℚ) (runCheckin runInventory : Bool) : Scheduler :=
  let settings := scheduler.here.settings
  match if runCheckin = true then timing.later woken settings.heartbeatIntervalSeconds else .ok scheduler.nextHeartbeat with
  | .error raised => scheduler.stop raised
  | .ok nextHeartbeat =>
    let scheduler := { scheduler with nextHeartbeat }
    match if runInventory = true then timing.later woken settings.inventoryIntervalSeconds else .ok scheduler.nextInventory with
    | .error raised => scheduler.stop raised
    | .ok nextInventory => { scheduler with nextInventory }

/-- The cycle of a turn, if one is due. -/
def Scheduler.runDue (scheduler : Scheduler) (turn : Turn) : Scheduler :=
  let runCheckin : Bool := scheduler.nextHeartbeat ≤ turn.woken
  let runInventory : Bool := scheduler.nextInventory ≤ turn.woken
  if runCheckin || runInventory = true then
    match runBackendCycle config python runCheckin runInventory turn.cycle scheduler.here with
    | (here, .error raised) => { scheduler with here }.stop raised
    | (here, .ok ()) =>
      { scheduler with here, completedCycles := scheduler.completedCycles +
        1 }.reschedule timing turn.woken runCheckin runInventory
  else scheduler

def Scheduler.waitSeconds (scheduler : Scheduler) (now : ℚ) : ℚ :=
  max 0 (min scheduler.nextHeartbeat scheduler.nextInventory - now)

/-- One turn of the loop of `run_scheduler`. -/
def turn (scheduler : Scheduler) (input : Turn) : Scheduler :=
  if scheduler.phase ≠ .running then scheduler
  else
    let wait := scheduler.waitSeconds input.now
    match if wait ≠ 0 then timing.sleep wait else .ok () with
    | .error raised => scheduler.stop raised
    | .ok () =>
      let scheduler := scheduler.runDue config python timing input
      if scheduler.phase = .running && limitReached maxCycles scheduler.completedCycles = true then
        { scheduler with phase := .returned }
      else scheduler

end Scheduling

end OpenAssetWatch.Collector
