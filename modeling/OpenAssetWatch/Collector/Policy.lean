import OpenAssetWatch.Library.Guard
import Mathlib.Data.Rat.Floor

namespace OpenAssetWatch.Collector

open Library

section Values

/-- A `float` of Python; a finite one stands for its rational value. -/
inductive FloatValue where
  | finite (value : ℚ)
  | infinite
  | nan

/-- What `json.loads` makes of a document. -/
inductive Value where
  | null
  | bool (value : Bool)
  | int (value : Int)
  | float (value : FloatValue)
  | string (text : String)
  | list (items : List Value)
  | dict (entries : List (String × Value))

/-- The classes of exceptions that the scheduler meets. -/
inductive Raised where
  | httpError
  | urlError
  | timeoutError
  | osError
  | httpException
  | jsonDecodeError
  | unicodeDecodeError
  | valueError
  | recursionError
  | configError
  | typeError
  | overflowError
  | keyboardInterrupt
deriving DecidableEq, Repr

namespace Value

def isDict : Value → Bool
  | dict _ => true
  | _ => false

def text? : Value → Option String
  | string text => some text
  | _ => none

/-- `dict.get` with a default. -/
def getD : Value → String → Value → Value
  | dict entries, key, default => (entries.lookup key).getD default
  | _, _, default => default

def get (value : Value) (key : String) : Value := value.getD key null

def isTruthy : Value → Bool
  | null => false
  | bool value => value
  | int value => value ≠ 0
  | float (.finite value) => value ≠ 0
  | float _ => true
  | string text => text ≠ ""
  | list items => !items.isEmpty
  | dict entries => !entries.isEmpty

def hashable : Value → Bool
  | list _ | dict _ => false
  | _ => true

end Value

end Values

section Validation

/-- What is left to Python: `int` of a text, `lower`, and the hash of the canonical JSON of a policy. -/
structure Python where
  intOfText : String → Option Int
  lower : String → String
  calculatePolicyHash : List (String × Value) → String

variable (python : Python)

def requiredFields : List String :=
  ["policy_id", "policy_version", "policy_hash", "license_status", "assigned_capabilities", "denied_capabilities", "policy"]

def unsafePolicyModuleTerms : List String :=
  ["args", "brute", "c2", "command", "credential", "exploit", "fuzz", "hash", "masscan", "nmap", "payload", "password", "shell",
    "terminal", "webshell"]

def modes : List String := ["device", "network", "hybrid"]

/-- The texts of `set(payload)`. -/
def setOf : Value → Except Raised (List String)
  | .dict entries => .ok (entries.map Prod.fst)
  | .string text => .ok (text.toList.map String.singleton)
  | .list items => if items.all Value.hashable = true then .ok (items.filterMap Value.text?) else .error .typeError
  | .null | .bool _ | .int _ | .float _ => .error .typeError

/-- `payload[key]` of a key that is there; other values than dicts take no text as a key. -/
def subscript (key : String) : Value → Except Raised Value
  | .dict entries => .ok ((entries.lookup key).getD .null)
  | _ => .error .typeError

/-- `int(value)`. -/
def pythonInt : Value → Except Raised Int
  | .bool value => .ok (if value = true then 1 else 0)
  | .int value => .ok value
  | .float (.finite value) => .ok (value.num.tdiv value.den)
  | .float .infinite => .error .overflowError
  | .float .nan => .error .valueError
  | .string text =>
    match python.intOfText text with
    | some value => .ok value
    | none => .error .valueError
  | .null | .list _ | .dict _ => .error .typeError

/-- `config_interval_seconds`. -/
def configIntervalSeconds (value : Value) (default : Int) : Except Raised Int :=
  match value with
  | .null => .ok default
  | value =>
    match pythonInt python value with
    | .ok parsed => if parsed ≤ 0 then .error .configError else .ok parsed
    | .error .typeError | .error .valueError => .error .configError
    | .error other => .error other

def checkMode : Value → Except Raised Unit
  | .null => .ok ()
  | .string text => require (modes.contains text) .configError
  | .list _ | .dict _ => .error .typeError
  | .bool _ | .int _ | .float _ => .error .configError

def checkInterval (scheduler : Value) (key : String) : Except Raised Unit :=
  match scheduler.get key with
  | .null => .ok ()
  | value => (configIntervalSeconds python value 1).map fun _ => ()

def checkScheduler : Value → Except Raised Unit
  | .null => .ok ()
  | .dict entries => do
    checkInterval python (.dict entries) "heartbeat_interval_seconds"
    checkInterval python (.dict entries) "inventory_interval_seconds"
  | _ => .error .configError

def unsafeModule (name : String) : Bool :=
  unsafePolicyModuleTerms.any fun term => (python.lower name).toList.tails.any (term.toList.isPrefixOf ·)

def checkModules : Value → Except Raised Unit
  | .null => .ok ()
  | .dict entries => require (!entries.any fun entry => unsafeModule python entry.1) .configError
  | _ => .error .configError

def checkActions : Value → Except Raised Unit
  | .null | .dict _ => .ok ()
  | _ => .error .configError

def hashMatches (payload : Value) : Bool :=
  match payload with
  | .dict entries => (payload.get "policy_hash").text? = some (python.calculatePolicyHash entries)
  | _ => false

/-- `validate_policy_payload`. -/
def validatePolicyPayload (payload : Value) : Except Raised Unit := do
  let present ← setOf payload
  require (requiredFields.all present.contains) .configError
  let policy ← subscript "policy" payload
  require policy.isDict .configError
  require (hashMatches python payload) .configError
  checkMode (policy.get "mode")
  checkScheduler python (policy.getD "scheduler" (.dict []))
  checkModules python (policy.getD "modules" (.dict []))
  checkActions (policy.getD "actions" (.dict []))

end Validation

section Application

variable (python : Python)

/-- The arguments that a policy may change, and the capabilities that it is compared with. -/
structure Settings where
  mode : String
  heartbeatIntervalSeconds : Int
  inventoryIntervalSeconds : Int
  openDetectorEnabled : Bool
  supportedCapabilities : List String

def openDetector : String := "open_detector"

/-- No value but a text is printed as the name of a capability. -/
def assigns (payload : Value) (capability : String) : Bool :=
  match payload.get "assigned_capabilities" with
  | .list items => items.any fun item => item.text? = some capability
  | _ => false

def Settings.withMode (settings : Settings) (policy : Value) : Settings :=
  match policy.get "mode" with
  | .string text => if modes.contains text = true then { settings with mode := text } else settings
  | _ => settings

/-- An interval of the scheduler object, or the one that is set. -/
def intervalOf (scheduler : Value) (key : String) (current : Int) : Except Raised Int :=
  match scheduler with
  | .dict _ => configIntervalSeconds python (scheduler.get key) current
  | _ => .ok current

def Settings.withOpenDetector (settings : Settings) (payload policy : Value) : Settings :=
  let module := (policy.get "modules").get openDetector
  let enabled := module.get "enabled"
  match enabled with
  | .null => settings
  | enabled =>
    if settings.supportedCapabilities.contains openDetector && assigns payload openDetector = true then
      { settings with openDetectorEnabled := enabled.isTruthy }
    else settings

/-- `apply_policy_to_args`, with the settings also when it raises. -/
def applyPolicyToArgs (settings : Settings) (payload : Value) : Settings × Except Raised Bool :=
  match validatePolicyPayload python payload with
  | .error raised => (settings, .error raised)
  | .ok () =>
    let policy := payload.get "policy"
    let settings := settings.withMode policy
    match intervalOf python (policy.get "scheduler") "heartbeat_interval_seconds" settings.heartbeatIntervalSeconds with
    | .error raised => (settings, .error raised)
    | .ok heartbeat =>
      let settings := { settings with heartbeatIntervalSeconds := heartbeat }
      match intervalOf python (policy.get "scheduler") "inventory_interval_seconds" settings.inventoryIntervalSeconds with
      | .error raised => (settings, .error raised)
      | .ok inventory =>
        let settings := ({ settings with inventoryIntervalSeconds := inventory }).withOpenDetector payload policy
        (settings, .ok ((policy.get "actions").get "run_inventory_now").isTruthy)

end Application

end OpenAssetWatch.Collector
