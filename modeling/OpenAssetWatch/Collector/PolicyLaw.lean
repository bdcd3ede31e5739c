import OpenAssetWatch.Collector.Scheduler

namespace OpenAssetWatch.Collector

open Library

section Checks

variable {α β : Type} {python : Python}

/-- The check raises nothing but a `ConfigError`. -/
def OnlyConfig (check : Except Raised α) : Prop := ∀ raised, check = .error raised → raised = .configError

theorem onlyConfig_ok (value : α) : OnlyConfig (.ok value) := fun _ impossible => by cases impossible

theorem onlyConfig_require (condition : Bool) : OnlyConfig (require condition .configError) := by
  intro raised failed
  cases condition
  · cases failed
    rfl
  · cases failed

theorem onlyConfig_bind {check : Except Raised α} {next : α → Except Raised β} :
    OnlyConfig (check >>= next) ↔ OnlyConfig check ∧ ∀ value, check = .ok value → OnlyConfig (next value) := by
  cases check with
  | error raised =>
    constructor
    · intro only
      exact ⟨fun other failed => only other (congrArg _ (Except.error.inj failed)), (fun value impossible => by cases impossible)⟩
    · intro only other failed
      exact only.1 other (congrArg _ (Except.error.inj failed))
  | ok value =>
    constructor
    · intro only
      exact ⟨onlyConfig_ok value, (fun other same => by cases same; exact only)⟩
    · exact fun only => only.2 value rfl

theorem onlyConfig_then {condition : Bool} {next : Unit → Except Raised β} :
    OnlyConfig (require condition .configError >>= next) ↔ (condition = true → OnlyConfig (next ())) := by
  rw [onlyConfig_bind, and_iff_right (onlyConfig_require condition)]
  constructor
  · intro after holds
    exact after () (require_eq_ok.mpr holds)
  · intro after value passed
    exact after (require_eq_ok.mp passed)

/-- No number of seconds is infinite. -/
def finite : Value → Bool
  | .float .infinite => false
  | _ => true

theorem onlyConfig_configIntervalSeconds (value : Value) (default : Int) :
    OnlyConfig (configIntervalSeconds python value default) ↔ finite value = true := by
  have parsed (number : Int) : OnlyConfig (if number ≤ 0 then Except.error Raised.configError else .ok number) := by
    intro raised failed
    split at failed
    · cases failed
      rfl
    · cases failed
  cases value with
  | null => exact iff_of_true (onlyConfig_ok default) rfl
  | bool value => exact iff_of_true (parsed _) rfl
  | int value => exact iff_of_true (parsed _) rfl
  | float value =>
    cases value with
    | finite value => exact iff_of_true (parsed _) rfl
    | infinite =>
      apply iff_of_false
      · intro only
        cases only .overflowError rfl
      · exact Bool.false_ne_true
    | nan =>
      apply iff_of_true _ rfl
      intro raised failed
      cases failed
      rfl
  | string text =>
    apply iff_of_true _ rfl
    cases found : python.intOfText text with
    | some number =>
      simp only [configIntervalSeconds, pythonInt, found]
      exact parsed number
    | none =>
      simp only [configIntervalSeconds, pythonInt, found]
      intro raised failed
      cases failed
      rfl
  | list items =>
    apply iff_of_true _ rfl
    intro raised failed
    cases failed
    rfl
  | dict entries =>
    apply iff_of_true _ rfl
    intro raised failed
    cases failed
    rfl

theorem configIntervalSeconds_given {value : Value} (given : value ≠ .null) (first second : Int) :
    configIntervalSeconds python value first = configIntervalSeconds python value second := by
  cases value with
  | null => exact absurd rfl given
  | _ => rfl

theorem checkInterval_eq (scheduler : Value) (key : String) :
    (scheduler.get key = .null ∧ checkInterval python scheduler key = .ok ()) ∨
      scheduler.get key ≠ .null ∧ checkInterval python scheduler key =
        (configIntervalSeconds python (scheduler.get key) 1).map fun _ => () := by
  unfold checkInterval
  cases value : scheduler.get key with
  | null => exact .inl ⟨rfl, rfl⟩
  | _ => exact .inr ⟨(fun impossible => by cases impossible), rfl⟩

theorem onlyConfig_checkInterval (scheduler : Value) (key : String) :
    OnlyConfig (checkInterval python scheduler key) ↔ finite (scheduler.get key) = true := by
  rcases @checkInterval_eq python scheduler key with ⟨absent, passed⟩ | ⟨_, checked⟩
  · rw [passed, absent]
    exact iff_of_true (onlyConfig_ok ()) rfl
  · rw [checked, ← @onlyConfig_configIntervalSeconds python (scheduler.get key) 1]
    cases configIntervalSeconds python (scheduler.get key) 1 with
    | ok value => exact iff_of_true (onlyConfig_ok ()) (onlyConfig_ok value)
    | error raised =>
      constructor
      · exact fun only other failed => only other (congrArg _ (Except.error.inj failed))
      · exact fun only other failed => only other (congrArg _ (Except.error.inj failed))

theorem onlyConfig_checkMode (mode : Value) : OnlyConfig (checkMode mode) ↔ mode.hashable = true := by
  cases mode with
  | null => exact iff_of_true (onlyConfig_ok ()) rfl
  | string text => exact iff_of_true (onlyConfig_require _) rfl
  | list items => exact iff_of_false (fun only => by cases only .typeError rfl) Bool.false_ne_true
  | dict entries => exact iff_of_false (fun only => by cases only .typeError rfl) Bool.false_ne_true
  | _ =>
    apply iff_of_true _ rfl
    intro raised failed
    cases failed
    rfl

/-- The intervals of a scheduler object are finite, as far as they are looked at. -/
def FiniteIntervals (python : Python) (scheduler : Value) : Prop :=
  scheduler.isDict = true → finite (scheduler.get "heartbeat_interval_seconds") = true ∧
    (checkInterval python scheduler "heartbeat_interval_seconds" = .ok () →
      finite (scheduler.get "inventory_interval_seconds") = true)

theorem onlyConfig_checkScheduler (scheduler : Value) :
    OnlyConfig (checkScheduler python scheduler) ↔ FiniteIntervals python scheduler := by
  cases scheduler with
  | dict entries =>
    unfold checkScheduler FiniteIntervals
    rw [onlyConfig_bind, onlyConfig_checkInterval]
    simp only [onlyConfig_checkInterval, Value.isDict, forall_const]
    exact and_congr_right fun _ => ⟨fun all => all (), fun one _ => one⟩
  | null => exact iff_of_true (onlyConfig_ok ()) fun impossible => by cases impossible
  | _ =>
    apply iff_of_true
    · intro raised failed
      cases failed
      rfl
    · intro impossible
      cases impossible

theorem onlyConfig_checkModules (modules : Value) : OnlyConfig (checkModules python modules) := by
  cases modules with
  | null => exact onlyConfig_ok ()
  | dict entries => exact onlyConfig_require _
  | _ =>
    intro raised failed
    cases failed
    rfl

theorem onlyConfig_checkActions (actions : Value) : OnlyConfig (checkActions actions) := by
  cases actions with
  | null => exact onlyConfig_ok ()
  | dict entries => exact onlyConfig_ok ()
  | _ =>
    intro raised failed
    cases failed
    rfl

end Checks

section Validation

variable {python : Python} {payload : Value} {settings : Settings}

/-- The fields of a policy that the checks look at can be looked at. -/
def SoundPolicy (python : Python) (policy : Value) : Prop :=
  (policy.get "mode").hashable = true ∧
    (checkMode (policy.get "mode") = .ok () → FiniteIntervals python (policy.getD "scheduler" (.dict [])))

/-- The shape of the JSON that the validation can look at. -/
def WellShaped (python : Python) : Value → Prop
  | .dict entries =>
    requiredFields.all (entries.map Prod.fst).contains = true → ((Value.dict entries).get "policy").isDict = true →
      hashMatches python (.dict entries) = true → SoundPolicy python ((Value.dict entries).get "policy")
  | .list items => items.all Value.hashable = true ∧ requiredFields.all (items.filterMap Value.text?).contains = false
  | .string _ => True
  | .null | .bool _ | .int _ | .float _ => False

theorem onlyConfig_checks (policy : Value) :
    OnlyConfig (do
      checkMode (policy.get "mode")
      checkScheduler python (policy.getD "scheduler" (.dict []))
      checkModules python (policy.getD "modules" (.dict []))
      checkActions (policy.getD "actions" (.dict []))) ↔ SoundPolicy python policy := by
  rw [onlyConfig_bind, onlyConfig_checkMode]
  apply and_congr_right
  intro _
  have rest : OnlyConfig (do
      checkScheduler python (policy.getD "scheduler" (.dict []))
      checkModules python (policy.getD "modules" (.dict []))
      checkActions (policy.getD "actions" (.dict []))) ↔ FiniteIntervals python (policy.getD "scheduler" (.dict [])) := by
    rw [onlyConfig_bind, onlyConfig_checkScheduler]
    apply and_iff_left
    intro _ _
    exact onlyConfig_bind.mpr ⟨onlyConfig_checkModules _, fun _ _ => onlyConfig_checkActions _⟩
  constructor
  · exact fun all passed => rest.mp (all () passed)
  · exact fun finite value passed => rest.mpr (finite passed)

theorem not_all_required_of_text (text : String) :
    requiredFields.all (text.toList.map String.singleton).contains = false := by
  apply Bool.eq_false_iff.mpr
  intro all
  have first := List.all_eq_true.mp all "policy_id" List.mem_cons_self
  obtain ⟨c, _, same⟩ := List.mem_map.mp (List.contains_iff_mem.mp first)
  have lengths := congrArg (fun name => name.toList.length) same
  simp at lengths

theorem onlyConfig_validate : OnlyConfig (validatePolicyPayload python payload) ↔ WellShaped python payload := by
  unfold validatePolicyPayload
  cases payload with
  | dict entries =>
    have same : OnlyConfig (subscript "policy" (.dict entries) >>= fun policy => do
        require policy.isDict .configError
        require (hashMatches python (.dict entries)) .configError
        checkMode (policy.get "mode")
        checkScheduler python (policy.getD "scheduler" (.dict []))
        checkModules python (policy.getD "modules" (.dict []))
        checkActions (policy.getD "actions" (.dict []))) ↔
        (((Value.dict entries).get "policy").isDict = true → hashMatches python (.dict entries) = true →
          SoundPolicy python ((Value.dict entries).get "policy")) := by
      show OnlyConfig (require ((Value.dict entries).get "policy").isDict .configError >>= fun _ => _) ↔ _
      rw [onlyConfig_then, onlyConfig_then, onlyConfig_checks]
      exact Iff.rfl
    show OnlyConfig (require (requiredFields.all (entries.map Prod.fst).contains) .configError >>= fun _ => _) ↔ _
    rw [onlyConfig_then, same]
    exact Iff.rfl
  | string text =>
    apply iff_of_true _ trivial
    show OnlyConfig (require (requiredFields.all (text.toList.map String.singleton).contains) .configError >>= fun _ => _)
    rw [onlyConfig_then, not_all_required_of_text]
    exact fun impossible => by cases impossible
  | list items =>
    cases sound : items.all Value.hashable with
    | false =>
      apply iff_of_false
      · intro only
        have failed : setOf (.list items) = .error .typeError := by
          show (if items.all Value.hashable = true then _ else _) = _
          rw [sound]
          exact if_neg Bool.false_ne_true
        rw [failed] at only
        cases only .typeError rfl
      · intro shaped
        rw [shaped.1] at sound
        cases sound
    | true =>
      have present : setOf (.list items) = .ok (items.filterMap Value.text?) := if_pos sound
      rw [present]
      show OnlyConfig (require (requiredFields.all (items.filterMap Value.text?).contains) .configError >>= fun _ => _) ↔ _
      rw [onlyConfig_then]
      constructor
      · intro only
        apply And.intro sound
        apply Bool.eq_false_iff.mpr
        intro all
        cases only all .typeError rfl
      · intro shaped all
        rw [shaped.2] at all
        cases all
  | _ => exact iff_of_false (fun only => by cases only .typeError rfl) id

/-- What an accepted policy is. -/
structure Accepted (python : Python) (payload : Value) : Prop where
  isDict : payload.isDict = true
  policy : (payload.get "policy").isDict = true
  mode : checkMode ((payload.get "policy").get "mode") = .ok ()
  scheduler : checkScheduler python ((payload.get "policy").getD "scheduler" (.dict [])) = .ok ()

theorem accepted_of_validate (accepted : validatePolicyPayload python payload = .ok ()) : Accepted python payload := by
  obtain ⟨present, first, rest⟩ := bind_eq_ok.mp accepted
  obtain ⟨_, rest⟩ := require_bind_eq_ok.mp rest
  obtain ⟨policy, second, rest⟩ := bind_eq_ok.mp rest
  obtain ⟨policyDict, rest⟩ := require_bind_eq_ok.mp rest
  obtain ⟨_, rest⟩ := require_bind_eq_ok.mp rest
  obtain ⟨mode, rest⟩ := then_eq_ok.mp rest
  obtain ⟨scheduler, _⟩ := then_eq_ok.mp rest
  cases payload with
  | dict entries =>
    cases second
    exact ⟨rfl, policyDict, mode, scheduler⟩
  | _ => cases second

/-- The interval that the scheduler object of a policy gives. -/
def Value.interval? (python : Python) (payload : Value) (key : String) : Option Int :=
  match ((payload.get "policy").get "scheduler").get key with
  | .null => none
  | value => (configIntervalSeconds python value 1).toOption

theorem get_scheduler (policy : Value) :
    policy.getD "scheduler" (.dict []) = .dict [] ∨ policy.getD "scheduler" (.dict []) = policy.get "scheduler" := by
  cases policy with
  | dict entries =>
    cases found : entries.lookup "scheduler" with
    | none => exact .inl (by rw [Value.getD, found]; rfl)
    | some value => exact .inr (by rw [Value.get, Value.getD, Value.getD, found]; rfl)
  | _ => exact .inl rfl

theorem intervalOf_of_checked {scheduler : Value} {key : String} (checked : checkInterval python scheduler key = .ok ())
    (current : Int) :
    (intervalOf python scheduler key current = .ok current ∧ scheduler.get key = .null) ∨
      ∃ seconds, intervalOf python scheduler key current = .ok seconds ∧ scheduler.get key ≠ .null ∧
        configIntervalSeconds python (scheduler.get key) 1 = .ok seconds := by
  unfold intervalOf
  cases scheduler with
  | dict entries =>
    rcases @checkInterval_eq python (.dict entries) key with ⟨absent, _⟩ | ⟨given, same⟩
    · apply Or.inl
      dsimp only
      rw [absent]
      exact ⟨rfl, rfl⟩
    · rw [same] at checked
      dsimp only
      cases parsed : configIntervalSeconds python ((Value.dict entries).get key) 1 with
      | ok seconds =>
        rw [configIntervalSeconds_given given current 1, parsed]
        exact .inr ⟨seconds, rfl, given, rfl⟩
      | error raised =>
        rw [parsed] at checked
        cases checked
  | _ => exact .inl ⟨rfl, rfl⟩

theorem intervalOf_of_accepted (accepted : Accepted python payload) {key : String}
    (known : key = "heartbeat_interval_seconds" ∨ key = "inventory_interval_seconds") (current : Int) :
    intervalOf python ((payload.get "policy").get "scheduler") key current =
      .ok ((payload.interval? python key).getD current) := by
  have checked := accepted.scheduler
  unfold Value.interval?
  rcases get_scheduler (payload.get "policy") with absent | same
  · have none : (payload.get "policy").get "scheduler" = .dict [] ∨ (payload.get "policy").get "scheduler" = .null := by
      cases policy : payload.get "policy" with
      | dict entries =>
        cases found : entries.lookup "scheduler" with
        | none => exact .inr (by rw [Value.get, Value.getD, found]; rfl)
        | some value =>
          rw [policy, Value.getD, found] at absent
          exact .inl (by rw [Value.get, Value.getD, found]; exact absent)
      | _ => exact .inr rfl
    rcases none with empty | null
    · rw [empty]
      rfl
    · rw [null]
      rfl
  · rw [same] at checked
    have interval : checkInterval python ((payload.get "policy").get "scheduler") key = .ok () := by
      cases scheduler : (payload.get "policy").get "scheduler" with
      | dict entries =>
        rw [scheduler] at checked
        obtain ⟨heartbeat, inventory⟩ := then_eq_ok.mp checked
        rcases known with rfl | rfl
        · exact heartbeat
        · exact inventory
      | _ => rfl
    rcases intervalOf_of_checked interval current with ⟨found, null⟩ | ⟨seconds, found, given, parsed⟩
    · rw [found, null]
      rfl
    · rw [found]
      cases value : ((payload.get "policy").get "scheduler").get key with
      | null => exact absurd value given
      | _ =>
        rw [value] at parsed
        dsimp only
        rw [parsed]
        rfl

theorem withOpenDetector_eq (policy : Value) :
    ∃ enabled, settings.withOpenDetector payload policy = { settings with openDetectorEnabled := enabled } := by
  unfold Settings.withOpenDetector
  dsimp only
  split
  · exact ⟨settings.openDetectorEnabled, rfl⟩
  · split
    · exact ⟨_, rfl⟩
    · exact ⟨settings.openDetectorEnabled, rfl⟩

theorem withMode_eq (policy : Value) : ∃ mode, settings.withMode policy = { settings with mode := mode } := by
  unfold Settings.withMode
  split
  · split
    · exact ⟨_, rfl⟩
    · exact ⟨settings.mode, rfl⟩
  · exact ⟨settings.mode, rfl⟩

theorem apply_refused {raised : Raised} (refused : validatePolicyPayload python payload = .error raised) :
    applyPolicyToArgs python settings payload = (settings, .error raised) := by
  rw [applyPolicyToArgs, refused]

def Value.runsInventoryNow (payload : Value) : Bool :=
  (((payload.get "policy").get "actions").get "run_inventory_now").isTruthy

theorem apply_accepted (accepted : validatePolicyPayload python payload = .ok ()) :
    (applyPolicyToArgs python settings payload).2 = .ok payload.runsInventoryNow ∧
      (applyPolicyToArgs python settings payload).1.heartbeatIntervalSeconds =
        (payload.interval? python "heartbeat_interval_seconds").getD settings.heartbeatIntervalSeconds ∧
      (applyPolicyToArgs python settings payload).1.inventoryIntervalSeconds =
        (payload.interval? python "inventory_interval_seconds").getD settings.inventoryIntervalSeconds := by
  have sound := accepted_of_validate accepted
  obtain ⟨mode, withMode⟩ := @withMode_eq settings (payload.get "policy")
  have heartbeat := intervalOf_of_accepted sound (.inl rfl) settings.heartbeatIntervalSeconds
  have inventory := intervalOf_of_accepted sound (.inr rfl) settings.inventoryIntervalSeconds
  have result : applyPolicyToArgs python settings payload =
      (({ settings with
          mode,
          heartbeatIntervalSeconds :=
            (payload.interval? python "heartbeat_interval_seconds").getD settings.heartbeatIntervalSeconds,
          inventoryIntervalSeconds :=
            (payload.interval? python "inventory_interval_seconds").getD settings.inventoryIntervalSeconds } :
          Settings).withOpenDetector payload (payload.get "policy"), .ok payload.runsInventoryNow) := by
    rw [applyPolicyToArgs, accepted]
    dsimp only
    rw [withMode, heartbeat]
    dsimp only
    rw [inventory]
    rfl
  rw [result]
  apply And.intro rfl
  obtain ⟨enabled, kept⟩ := @withOpenDetector_eq payload _ (payload.get "policy")
  rw [kept]
  exact ⟨rfl, rfl⟩

end Validation

end OpenAssetWatch.Collector
