import OpenAssetWatch.Collector.PolicyLaw
import OpenAssetWatch.Library.Run

namespace OpenAssetWatch.Collector

open Library

section Conditions

/-- The response is a failure of the transport that the handlers name, or has no body, or a body of JSON. -/
def Response.Calm : Response → Prop
  | .fails failure => failure ≠ .httpException
  | .empty => True
  | .body (.json _) => True
  | .body _ => False

variable (config : Config) (python : Python)

/-- A cached document that the policy code can look at. -/
def Document.Calm : Document → Prop
  | .undecodable | .refused _ => False
  | .malformed => True
  | .json payload => payload.isDict = true → WellShaped python payload

def CacheFile.Calm (cache : CacheFile) : Prop :=
  config.cachePathSet = true → ∀ document, cache = .holds document → document.Calm python

def Value.accepted (payload : Value) : Bool := (validatePolicyPayload python payload).isOk

/-- The cached policy, if it is accepted. -/
def CacheFile.accepted (cache : CacheFile) : Option Value :=
  match cache with
  | .holds (.json payload) => if (config.cachePathSet && payload.accepted python) = true then some payload else none
  | _ => none

/-- The policy of the hub, if it is accepted and can be stored. -/
def Cycle.accepted (cycle : Cycle) : Option Value :=
  match cycle.policy with
  | .body (.json payload) =>
    if (payload.accepted python && (!config.cachePathSet || cycle.cacheWritable)) = true then some payload else none
  | _ => none

/-- The policy that a request applies. -/
def Cycle.applies (cycle : Cycle) (cache : CacheFile) : Option Value :=
  if (config.policyEnabled && !cycle.held) = true then (cycle.accepted config python).or (cache.accepted config python) else none

/-- The policy that the hub sends can be looked at, or it is known to fail. -/
def Response.PolicyCalm : Response → Prop
  | .fails failure => failure ≠ .httpException
  | .empty | .body .malformed => True
  | .body .undecodable | .body (.refused _) => False
  | .body (.json payload) => WellShaped python payload

/-- What a policy request finds can be handled: the answers of the hub, and the cache file where it is read. -/
def Cycle.PolicyCalm (cycle : Cycle) (cache : CacheFile) : Prop :=
  if cycle.held = true then cache.Calm config python ∧ cycle.status.Calm
  else if (cycle.accepted config python).isSome = true then cycle.status.Calm ∨ cycle.status = .body .malformed
  else cycle.policy.PolicyCalm python ∧ cache.Calm config python

/-- What a cycle finds can be handled. -/
structure CycleCalm (runCheckin runInventory : Bool) (cycle : Cycle) (cache : CacheFile) : Prop where
  checkin : runCheckin = true → cycle.checkin.Calm
  policy : runCheckin = true → config.policyEnabled = true → cycle.PolicyCalm config python cache
  inventory : (runInventory = true ∨ runCheckin = true ∧ (cycle.applies config python cache).any Value.runsInventoryNow = true) →
    cycle.inventory.Calm

/-- The interval after a cycle. -/
def Cycle.intervalAfter (runCheckin : Bool) (cycle : Cycle) (cache : CacheFile) (key : String) (current : Int) : Int :=
  ((if runCheckin = true then cycle.applies config python cache else none).bind (·.interval? python key)).getD current

variable (timing : Timing)

def Local.heartbeatAfter (runCheckin : Bool) (cycle : Cycle) (here : Local) : Int :=
  cycle.intervalAfter config python runCheckin here.cache "heartbeat_interval_seconds" here.settings.heartbeatIntervalSeconds

def Local.inventoryAfter (runCheckin : Bool) (cycle : Cycle) (here : Local) : Int :=
  cycle.intervalAfter config python runCheckin here.cache "inventory_interval_seconds" here.settings.inventoryIntervalSeconds

def Timing.Adds (time : ℚ) (seconds : Int) : Prop := ∃ next, timing.later time seconds = .ok next

end Conditions

section Requests

variable {response : Response} {config : Config} {python : Python}

theorem failure_isTransport {failure : Failure} (handled : failure ≠ .httpException) : failure.raised.isTransport = true := by
  cases failure with
  | httpException => exact absurd rfl handled
  | _ => rfl

theorem performUpload_calm (calm : response.Calm) : ∃ sent, performUpload response = .ok sent := by
  cases response with
  | fails failure =>
    apply Exists.intro false
    exact if_pos (failure_isTransport calm)
  | empty => exact ⟨true, rfl⟩
  | body document =>
    cases document with
    | json value => exact ⟨true, rfl⟩
    | _ => exact calm.elim

theorem reportPolicyStatus_calm (calm : response.Calm) : reportPolicyStatus response = .ok () := by
  cases response with
  | fails failure => exact if_pos (failure_isTransport calm)
  | empty => rfl
  | body document =>
    cases document with
    | json value => rfl
    | _ => exact calm.elim

theorem accepted_iff {payload : Value} : payload.accepted python = true ↔ validatePolicyPayload python payload = .ok () := by
  unfold Value.accepted
  cases validatePolicyPayload python payload with
  | ok done => exact iff_of_true rfl rfl
  | error raised => exact iff_of_false Bool.false_ne_true (fun impossible => by cases impossible)

theorem loadCachedPolicy_calm {cache : CacheFile} (calm : cache.Calm config python) :
    (∃ payload, cache.accepted config python = some payload ∧ loadCachedPolicy config python cache = .ok (some payload) ∧
      validatePolicyPayload python payload = .ok ()) ∨
      cache.accepted config python = none ∧ (loadCachedPolicy config python cache = .ok none ∨
        ∃ raised, loadCachedPolicy config python cache = .error raised ∧ raised.isCacheFault = true) := by
  unfold loadCachedPolicy CacheFile.accepted
  cases path : config.cachePathSet with
  | false =>
    apply Or.inr
    apply And.intro
    · split
      · rfl
      · rfl
    · exact .inl rfl
  | true =>
    cases cache with
    | absent => exact .inr ⟨rfl, .inl rfl⟩
    | unreadable => exact .inr ⟨rfl, .inr ⟨.osError, rfl, rfl⟩⟩
    | holds document =>
      have sound := calm path document rfl
      cases document with
      | undecodable => exact sound.elim
      | refused tooDeep => exact sound.elim
      | malformed => exact .inr ⟨rfl, .inr ⟨.jsonDecodeError, rfl, rfl⟩⟩
      | json payload =>
        have read : readCachedPolicy python (.json payload) = (require payload.isDict Raised.configError >>= fun _ => do
          validatePolicyPayload python payload
          return payload) := rfl
        dsimp only
        rw [read]
        cases checked : validatePolicyPayload python payload with
        | ok done =>
          rw [(accepted_of_validate checked).isDict, accepted_iff.mpr checked]
          exact .inl ⟨payload, rfl, rfl, checked⟩
        | error raised =>
          have refused : payload.accepted python = false := by rw [Value.accepted, checked]; rfl
          rw [refused]
          cases dict : payload.isDict with
          | false => exact .inr ⟨rfl, .inr ⟨.configError, rfl, rfl⟩⟩
          | true =>
            have fault : raised.isCacheFault = true := by
              rw [onlyConfig_validate.mpr (sound dict) raised checked]
              rfl
            exact .inr ⟨rfl, .inr ⟨raised, rfl, fault⟩⟩

end Requests

section Policies

variable {config : Config} {python : Python} {cycle : Cycle} {here : Local}

/-- The settings come from others by policies that are accepted. -/
def AppliedOnly (python : Python) (before after : Settings) : Prop :=
  ∃ payloads : List Value, (∀ payload ∈ payloads, validatePolicyPayload python payload = .ok ()) ∧
    after = payloads.foldl (fun settings payload => (applyPolicyToArgs python settings payload).1) before

theorem AppliedOnly.refl (settings : Settings) : AppliedOnly python settings settings :=
  ⟨[], fun payload impossible => (by cases impossible), rfl⟩

theorem AppliedOnly.trans {first second third : Settings} (before : AppliedOnly python first second)
    (after : AppliedOnly python second third) : AppliedOnly python first third := by
  obtain ⟨earlier, earlierAccepted, rfl⟩ := before
  obtain ⟨later, laterAccepted, rfl⟩ := after
  apply Exists.intro (earlier ++ later)
  apply And.intro
  · intro payload member
    exact (List.mem_append.mp member).elim (earlierAccepted payload) (laterAccepted payload)
  · rw [List.foldl_append]

theorem AppliedOnly.apply (settings : Settings) (payload : Value) :
    AppliedOnly python settings (applyPolicyToArgs python settings payload).1 := by
  cases checked : validatePolicyPayload python payload with
  | ok done =>
    apply Exists.intro [payload]
    apply And.intro _ rfl
    intro other member
    rw [List.mem_singleton.mp member]
    exact checked
  | error raised =>
    rw [apply_refused checked]
    exact AppliedOnly.refl settings

/-- What a policy request may do to settings and cache. -/
structure PolicySafe (python : Python) (before after : Local) : Prop where
  settings : AppliedOnly python before.settings after.settings
  cache : after.cache = before.cache ∨
    ∃ payload, after.cache = .holds (.json payload) ∧ validatePolicyPayload python payload = .ok ()

theorem PolicySafe.refl (here : Local) : PolicySafe python here here := ⟨AppliedOnly.refl _, .inl rfl⟩

theorem PolicySafe.trans {first second third : Local} (before : PolicySafe python first second)
    (after : PolicySafe python second third) : PolicySafe python first third := by
  apply PolicySafe.mk (before.settings.trans after.settings)
  rcases after.cache with same | stored
  · rw [same]
    exact before.cache
  · exact .inr stored

theorem rescueCache_fst (here : Local) (raised : Raised) : (rescueCache here raised).1 = here := by
  unfold rescueCache
  split
  · rfl
  · rfl

theorem useCachedPolicy_safe (here : Local) : PolicySafe python here (useCachedPolicy config python here).1 := by
  unfold useCachedPolicy
  cases loadCachedPolicy config python here.cache with
  | error raised =>
    dsimp only
    rw [rescueCache_fst]
    exact PolicySafe.refl here
  | ok found =>
    cases found with
    | none =>
      dsimp only
      rw [rescueCache_fst]
      exact PolicySafe.refl here
    | some payload =>
      have applied : PolicySafe python here { here with settings := (applyPolicyToArgs python here.settings payload).1 } :=
        ⟨AppliedOnly.apply _ _, .inl rfl⟩
      dsimp only
      cases (applyPolicyToArgs python here.settings payload).2 with
      | error raised =>
        dsimp only
        rw [rescueCache_fst]
        exact applied
      | ok runInventoryNow => exact applied

theorem cachePolicy_safe {payload : Value} (accepted : validatePolicyPayload python payload = .ok ()) (here : Local) :
    PolicySafe python here (cachePolicy config cycle payload here).1 := by
  unfold cachePolicy
  split
  · exact PolicySafe.refl here
  · split
    · exact ⟨AppliedOnly.refl _, .inr ⟨payload, rfl, accepted⟩⟩
    · exact PolicySafe.refl here

theorem applyRemotePolicy_safe (here : Local) : PolicySafe python here (applyRemotePolicy config python cycle here).1 := by
  unfold applyRemotePolicy
  cases cycle.policy.read with
  | error raised => exact PolicySafe.refl here
  | ok payload =>
    dsimp only
    cases checked : validatePolicyPayload python payload with
    | error raised => exact PolicySafe.refl here
    | ok done =>
      have stored := @cachePolicy_safe config python cycle payload checked here
      dsimp only
      rcases cached : cachePolicy config cycle payload here with ⟨after, written⟩
      rw [cached] at stored
      have applied : PolicySafe python after { after with settings := (applyPolicyToArgs python after.settings payload).1 } :=
        ⟨AppliedOnly.apply _ _, .inl rfl⟩
      cases written with
      | error raised => exact stored
      | ok written =>
        dsimp only
        cases (applyPolicyToArgs python after.settings payload).2 with
        | error raised => exact stored.trans applied
        | ok runInventoryNow =>
          dsimp only
          cases reportPolicyStatus cycle.status with
          | error raised => exact stored.trans applied
          | ok reported => exact stored.trans applied

theorem holdPolicy_fst (here : Local) : (holdPolicy config python cycle here).1 = here := by
  unfold holdPolicy
  cases loadCachedPolicy config python here.cache with
  | error raised =>
    dsimp only
    split
    · rfl
    · rfl
  | ok found => rfl

theorem retrieveAndApplyPolicy_safe (here : Local) :
    PolicySafe python here (retrieveAndApplyPolicy config python cycle here).1 := by
  unfold retrieveAndApplyPolicy
  split
  · exact PolicySafe.refl here
  · split
    · rw [holdPolicy_fst]
      exact PolicySafe.refl here
    · have remote := @applyRemotePolicy_safe config python cycle here
      rcases result : applyRemotePolicy config python cycle here with ⟨after, outcome⟩
      rw [result] at remote
      cases outcome with
      | ok runInventoryNow => exact remote
      | error raised =>
        dsimp only
        split
        · exact remote.trans (useCachedPolicy_safe after)
        · exact remote

end Policies

end OpenAssetWatch.Collector
