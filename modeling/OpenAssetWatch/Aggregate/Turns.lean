import OpenAssetWatch.Aggregate.Aggregator

namespace OpenAssetWatch.Aggregate

open Library Sensor

variable {parseIP : GoString → Option GoString} {a : Aggregator} {device : Device} {item : Decode.Evidence} {key : List UInt8}

@[simp] theorem expire_config (now : Instant) : (a.expire now).config = a.config := rfl

@[simp] theorem expire_dropped (now : Instant) : (a.expire now).dropped = a.dropped := rfl

theorem get?_expire (now : Instant) (key : List UInt8) :
    (a.expire now).devices.get? key = (a.devices.get? key).filter fun device => !device.isExpired a.config.ttl now := by
  apply Option.ext
  intro device
  rw [Dict.get?_eq_some, Aggregator.expire, List.mem_filter, ← Dict.get?_eq_some, Option.filter_eq_some_iff]

theorem get?_expire_eq_some (now : Instant) (key : List UInt8) :
    (a.expire now).devices.get? key = some device ↔ a.devices.get? key = some device ∧ device.isExpired a.config.ttl now = false := by
  rw [get?_expire, Option.filter_eq_some_iff, Bool.not_eq_true']

theorem size_le_set {κ ν : Type*} [DecidableEq κ] (d : Dict κ ν) (k : κ) (v : ν) : d.size ≤ (d.set k v).size := by
  have keys := congrArg List.length (DictEntries.keys_update k (fun _ => v) d.entries)
  rw [List.length_map] at keys
  rw [Dict.size, Dict.size, Dict.set, Dict.update, keys]
  split_ifs
  · exact (List.length_map _).ge
  · rw [List.length_append, List.length_map]
    exact Nat.le_add_right _ _

/-- Whether the addresses of a device take in an address. -/
def Device.takesIP (device : Device) (maxIPs : Int) (ip : GoString) : Bool := (device.ips.get? ip).isSome || device.ips.size < maxIPs

theorem seeIP_none (absent : parseIP item.ip.trimmed = none) (maxIPs : Int) : device.seeIP parseIP maxIPs item = (device, 0) := by
  rw [Device.seeIP, absent]

theorem seeIP_some {ip : GoString} (parsed : parseIP item.ip.trimmed = some ip) (maxIPs : Int) :
    device.seeIP parseIP maxIPs item =
      if device.takesIP maxIPs ip then ({ device with ips := device.ips.set ip item.observedAt }, 0) else (device, 1) := by
  rw [Device.seeIP, parsed]
  rfl

theorem get?_seeIP (device : Device) (maxIPs : Int) (item : Decode.Evidence) (ip : GoString) :
    (device.seeIP parseIP maxIPs item).1.ips.get? ip =
      if parseIP item.ip.trimmed = some ip ∧ device.takesIP maxIPs ip then some item.observedAt else device.ips.get? ip := by
  cases parsed : parseIP item.ip.trimmed with
  | none =>
    rw [seeIP_none parsed, if_neg]
    exact fun both => nomatch both.1
  | some seen =>
    rw [seeIP_some parsed]
    by_cases same : ip = seen
    · subst same
      by_cases taken : device.takesIP maxIPs ip
      · rw [if_pos taken, if_pos ⟨rfl, taken⟩, Dict.get?_set, if_pos rfl]
      · rw [if_neg taken, if_neg fun both => taken both.2]
    · have other : ¬(some seen = some ip ∧ device.takesIP maxIPs ip) := fun both => same (Option.some.inj both.1).symm
      rw [if_neg other]
      by_cases taken : device.takesIP maxIPs seen
      · rw [if_pos taken]
        exact (Dict.get?_set _ _ _ _).trans (if_neg same)
      · rw [if_neg taken]

theorem observe_eq (device : Device) (maxIPs : Int) (item : Decode.Evidence) :
    (device.observe parseIP maxIPs item).1 =
      { device with
        lastSeen := max device.lastSeen item.observedAt
        ips := (device.seeIP parseIP maxIPs item).1.ips
        hostname := if device.takesHostname item then cleanHostname item.hostname else device.hostname
        hostScore := if device.takesHostname item then number item.confidence else device.hostScore } := by
  have seen : (if device.lastSeen < item.observedAt then { device with lastSeen := item.observedAt } else device) =
      { device with lastSeen := max device.lastSeen item.observedAt } := by
    split_ifs with later
    · rw [max_eq_right later.le]
    · rw [max_eq_left (not_lt.mp later)]
  have addresses (lastSeen : Instant) : (Device.seeIP parseIP { device with lastSeen } maxIPs item).1 =
      { device with lastSeen, ips := (device.seeIP parseIP maxIPs item).1.ips } := by
    unfold Device.seeIP
    cases parseIP item.ip.trimmed with
    | none => rfl
    | some ip =>
      dsimp only
      split_ifs <;> rfl
  unfold Device.observe
  rw [seen]
  generalize max device.lastSeen item.observedAt = lastSeen
  have named (ips : Dict GoString Instant) : Device.takesHostname { device with lastSeen, ips } item = device.takesHostname item := rfl
  dsimp only
  rw [addresses, named]
  split_ifs <;> rfl

/-- An observation of a device, its evidence included. -/
def Device.turn (parseIP : GoString → Option GoString) (config : Config) (item : Decode.Evidence) (device : Device) :
    Device × Option AddError :=
  (device.observe parseIP config.maxIPsPerDevice item).1.keepEvidence config.maxEvidencePerDevice item

theorem keepEvidence_cases (device : Device) (most : Int) (item : Decode.Evidence) :
    (∃ evidence, device.keepEvidence most item = ({ device with evidence }, none)) ∨
      (device.keepEvidence most item = (device, some .capacity) ∧ most ≤ device.evidence.size) := by
  unfold Device.keepEvidence
  extract_lets value entry kept
  split_ifs with query blank full
  · exact .inl ⟨device.evidence, rfl⟩
  · exact .inl ⟨device.evidence, rfl⟩
  · rw [Bool.and_eq_true, decide_eq_true_eq] at full
    exact .inr ⟨rfl, full.2⟩
  · exact .inl ⟨_, rfl⟩

theorem record_error : (a.record parseIP key device item).2 = (device.turn parseIP a.config item).2 := rfl

theorem get?_record (other : List UInt8) :
    (a.record parseIP key device item).1.devices.get? other =
      if other = key then some (device.turn parseIP a.config item).1 else a.devices.get? other :=
  Dict.get?_set _ _ _ _

/-- The device of an observation: the one under its key, or a new one where there is room. -/
inductive Aggregator.Has (a : Aggregator) (key : List UInt8) (mac : GoString) (item : Decode.Evidence) : Device → Prop
  | old {device : Device} (stored : a.devices.get? key = some device) : a.Has key mac item device
  | new (absent : a.devices.get? key = none) (room : a.devices.size < a.config.maxDevices) : a.Has key mac item (Device.fresh mac item)

/-- All that `Add` can do. -/
inductive Adding (parseIP : GoString → Option GoString) (a : Aggregator) (item : Decode.Evidence) : Aggregator × Option AddError → Prop
  | invalid (message : String) (wrong : ¬(validateEvidence item = .ok () ∧ ∃ mac, normalizeMAC item.mac = .ok mac)) :
      Adding parseIP a item (a, some (.invalid message))
  | full {mac : GoString} (valid : validateEvidence item = .ok ()) (hardware : normalizeMAC item.mac = .ok mac)
      (absent : (a.expire item.observedAt).devices.get? (deviceKey a.config.siteId mac item.vlanId) = none)
      (full : a.config.maxDevices ≤ (a.expire item.observedAt).devices.size) :
      Adding parseIP a item ({ a.expire item.observedAt with dropped := a.dropped + 1 }, some .capacity)
  | recorded {mac : GoString} {device : Device} (valid : validateEvidence item = .ok ()) (hardware : normalizeMAC item.mac = .ok mac)
      (has : (a.expire item.observedAt).Has (deviceKey a.config.siteId mac item.vlanId) mac item device) :
      Adding parseIP a item ((a.expire item.observedAt).record parseIP (deviceKey a.config.siteId mac item.vlanId) device item)

theorem observedAt_of_valid (valid : validateEvidence item = .ok ()) : item.observedAt ≠ 0 := by
  simp only [validateEvidence, require_bind_eq_ok, require_eq_ok] at valid
  obtain ⟨-, -, -, -, -, -, -, -, -, timed⟩ := valid
  exact of_decide_eq_true timed

theorem add_cases (a : Aggregator) (item : Decode.Evidence) : Adding parseIP a item (a.add parseIP item) := by
  unfold Aggregator.add
  cases valid : validateEvidence item with
  | error message =>
    exact .invalid message fun both => nomatch valid.symm.trans both.1
  | ok _ =>
    cases hardware : normalizeMAC item.mac with
    | error message =>
      refine .invalid message fun both => ?_
      obtain ⟨mac, good⟩ := both.2
      cases hardware.symm.trans good
    | ok mac =>
      simp only [bind, Except.bind, if_neg (observedAt_of_valid valid)]
      split
      · rename_i device stored
        exact .recorded valid hardware (.old stored)
      · rename_i absent
        split
        · rename_i full
          exact .full valid hardware absent full
        · rename_i full
          exact .recorded valid hardware (.new absent (not_le.mp full))

/-- What an observation does to a device apart from its evidence. -/
structure Refreshed (parseIP : GoString → Option GoString) (maxIPs : Int) (item : Decode.Evidence) (before after : Device) : Prop where
  mac : after.mac = before.mac
  vlanId : after.vlanId = before.vlanId
  firstSeen : after.firstSeen = before.firstSeen
  lastSeen : after.lastSeen = max before.lastSeen item.observedAt
  ips : ∀ ip, after.ips.get? ip =
    if parseIP item.ip.trimmed = some ip ∧ before.takesIP maxIPs ip then some item.observedAt else before.ips.get? ip
  hostname : after.hostname = if before.takesHostname item then cleanHostname item.hostname else before.hostname
  hostScore : after.hostScore = if before.takesHostname item then number item.confidence else before.hostScore
  evidence : after.evidence = before.evidence

theorem observe_refreshed (device : Device) (maxIPs : Int) (item : Decode.Evidence) :
    Refreshed parseIP maxIPs item device (device.observe parseIP maxIPs item).1 := by
  rw [observe_eq]
  exact {
    mac := rfl
    vlanId := rfl
    firstSeen := rfl
    lastSeen := rfl
    ips := get?_seeIP device maxIPs item
    hostname := rfl
    hostScore := rfl
    evidence := rfl }

/-- The device under a key, if it is not yet to be removed. -/
def Aggregator.unexpired (a : Aggregator) (now : Instant) (key : List UInt8) : Option Device :=
  (a.devices.get? key).filter fun device => !device.isExpired a.config.ttl now

theorem turn_refused (refused : (device.turn parseIP a.config item).2.isSome) :
    device.turn parseIP a.config item = ((device.observe parseIP a.config.maxIPsPerDevice item).1, some .capacity) ∧
      a.config.maxEvidencePerDevice ≤ device.evidence.size := by
  have kept : (device.observe parseIP a.config.maxIPsPerDevice item).1.evidence = device.evidence :=
    (observe_refreshed device _ item).evidence
  rcases keepEvidence_cases (device.observe parseIP a.config.maxIPsPerDevice item).1 a.config.maxEvidencePerDevice item with
    ⟨evidence, accepted⟩ | ⟨full, bound⟩
  · rw [Device.turn, accepted] at refused
    cases refused
  · rw [kept] at bound
    exact ⟨full, bound⟩

theorem fresh_not_refused (mac : GoString) : ((Device.fresh mac item).turn parseIP a.config item).2 = none := by
  cases refused : ((Device.fresh mac item).turn parseIP a.config item).2 with
  | none => rfl
  | some error =>
    have stopped : ((Device.fresh mac item).turn parseIP a.config item).2.isSome := by
      rw [refused]
      rfl
    have full := (turn_refused stopped).2
    have room := a.config.evidenceBounded.1
    have empty : (Device.fresh mac item).evidence.size = 0 := rfl
    omega

/-- What an observation that is refused leaves: all of the devices when it is invalid; and when it is for want of
    room every unexpired device, of which the observed one is refreshed and keeps its evidence. -/
theorem refusal_effects (a : Aggregator) (item : Decode.Evidence) (error : AddError)
    (refused : (a.add parseIP item).2 = some error) :
    (∃ message, error = .invalid message ∧ (a.add parseIP item).1 = a) ∨
      (error = .capacity ∧ ∃ mac, normalizeMAC item.mac = .ok mac ∧
        ∀ key, (key ≠ deviceKey a.config.siteId mac item.vlanId →
            (a.add parseIP item).1.devices.get? key = a.unexpired item.observedAt key) ∧
          (a.unexpired item.observedAt key = none → (a.add parseIP item).1.devices.get? key = none) ∧
          ∀ before, a.unexpired item.observedAt key = some before →
            key = deviceKey a.config.siteId mac item.vlanId →
            ∃ after, (a.add parseIP item).1.devices.get? key = some after ∧
              Refreshed parseIP a.config.maxIPsPerDevice item before after ∧
              a.config.maxEvidencePerDevice ≤ before.evidence.size) := by
  have adding : Adding parseIP a item (a.add parseIP item) := add_cases a item
  generalize a.add parseIP item = result at adding refused
  cases adding with
  | invalid message _ => exact .inl ⟨message, (Option.some.inj refused).symm, rfl⟩
  | @full mac valid hardware absent full =>
    refine .inr ⟨(Option.some.inj refused).symm, mac, hardware, fun key => ⟨fun _ => get?_expire _ key, fun gone => ?_, ?_⟩⟩
    · exact (get?_expire _ key).trans gone
    · intro before stored here
      rw [here] at stored
      rw [get?_expire] at absent
      cases absent.symm.trans stored
  | @recorded mac device valid hardware has =>
    rw [record_error, expire_config] at refused
    cases has with
    | new absent room =>
      have taken : ((Device.fresh mac item).turn parseIP a.config item).2 = none := fresh_not_refused mac
      cases taken.symm.trans refused
    | old stored =>
      have stopped : (device.turn parseIP a.config item).2.isSome := by
        rw [refused]
        rfl
      obtain ⟨same, full⟩ := turn_refused stopped
      rw [same] at refused
      refine .inr ⟨(Option.some.inj refused).symm, mac, hardware, fun key => ?_⟩
      simp only [get?_record, expire_config, same]
      rw [get?_expire] at stored
      refine ⟨fun other => ?_, fun gone => ?_, fun before here same => ?_⟩
      · rw [if_neg other]
        exact get?_expire _ key
      · rw [if_neg]
        · exact (get?_expire _ key).trans gone
        · intro same
          rw [same] at gone
          cases gone.symm.trans stored
      · rw [if_pos same]
        rw [same] at here
        cases here.symm.trans stored
        exact ⟨_, rfl, observe_refreshed device _ item, full⟩

/-- A sensor that keeps one piece of evidence and one address of a device. -/
def smallConfig : Config where
  siteId := GoString.ofText "site"
  maxDevices := 2
  maxEvidencePerDevice := 1
  maxIPsPerDevice := 1
  ttl := defaultTTL
  siteValid := by decide
  devicesBounded := by decide
  evidenceBounded := by decide
  ipsBounded := by decide
  ttlBounded := by decide

/-- What an ARP reply with some address is decoded to. -/
def sighting (ip : String) (observedAt : Instant) : Decode.Evidence where
  mac := GoString.ofText "02:00:5e:10:00:01"
  ip := GoString.ofText ip
  protocol := GoString.ofText "arp"
  kind := GoString.ofText "reply"
  value := GoString.ofText ip
  vlanId := none
  confidence := .finite 1
  observedAt := observedAt

/-- The second address is refused, and the device is seen later all the same. -/
theorem refused_evidence_refreshes :
    let a := (Aggregator.add some { config := smallConfig } (sighting "192.0.2.10" 1)).1
    let result := a.add some (sighting "192.0.2.11" 2)
    result.2 = some .capacity ∧ (a.devices.values.map (·.lastSeen)) = [1] ∧ (result.1.devices.values.map (·.lastSeen)) = [2] := by
  decide

theorem refusal_effects_sample :
    let a := (Aggregator.add some { config := smallConfig } (sighting "192.0.2.10" 1)).1
    (∃ message, AddError.capacity = .invalid message ∧ (a.add some (sighting "192.0.2.11" 2)).1 = a) ∨
      (AddError.capacity = .capacity ∧ ∃ mac, normalizeMAC (sighting "192.0.2.11" 2).mac = .ok mac ∧
        ∀ key, (key ≠ deviceKey a.config.siteId mac none →
            (a.add some (sighting "192.0.2.11" 2)).1.devices.get? key = a.unexpired 2 key) ∧
          (a.unexpired 2 key = none → (a.add some (sighting "192.0.2.11" 2)).1.devices.get? key = none) ∧
          ∀ before, a.unexpired 2 key = some before →
            key = deviceKey a.config.siteId mac none →
            ∃ after, (a.add some (sighting "192.0.2.11" 2)).1.devices.get? key = some after ∧
              Refreshed some a.config.maxIPsPerDevice (sighting "192.0.2.11" 2) before after ∧
              a.config.maxEvidencePerDevice ≤ before.evidence.size) :=
  refusal_effects _ (sighting "192.0.2.11" 2) .capacity (by decide)

end OpenAssetWatch.Aggregate
