import OpenAssetWatch.Aggregate.Flushes

namespace OpenAssetWatch.Aggregate

open Library Sensor

/-- Whether a history has the observations of each address in the order of their times. -/
def Chronological (parseIP : GoString → Option GoString) (history : List Decode.Evidence) : Prop :=
  history.Pairwise fun earlier later => address parseIP earlier = address parseIP later → earlier.observedAt ≤ later.observedAt

def isNamed (item : Decode.Evidence) : Bool := cleanHostname item.hostname ≠ []

/-- What a device keeps of its history that its order of arrival does not decide. -/
structure Recent (parseIP : GoString → Option GoString) (maxIPs : Int) (history : List Decode.Evidence) (device : Device) : Prop where
  lastSeen : IsGreatest {time | ∃ item ∈ history, item.observedAt = time} device.lastSeen
  firstSeen : ∀ first ∈ history.head?, (∀ item ∈ history, first.observedAt ≤ item.observedAt) →
    IsLeast {time | ∃ item ∈ history, item.observedAt = time} device.firstSeen
  -- the name with the greatest confidence
  unnamed : (∀ item ∈ history, isNamed item = false) → device.hostname = [] ∧ device.hostScore = 0
  hostname : (∃ item ∈ history, isNamed item = true) →
    (∃ item ∈ history, isNamed item = true ∧ device.hostname = cleanHostname item.hostname ∧ device.hostScore = number item.confidence) ∧
      ∀ item ∈ history, isNamed item = true → number item.confidence ≤ device.hostScore
  -- an address is left out only when there is no room for it
  ips : ∀ item ∈ history, ∀ ip, address parseIP item = some ip → (device.ips.get? ip).isSome ∨ maxIPs ≤ device.ips.size
  primaryIp : Chronological parseIP history → ∀ item ∈ history, ∀ ip, address parseIP item = some ip → (device.ips.get? ip).isSome →
    0 < item.observedAt →
    ∃ best ∈ history, address parseIP best = some device.asset.primaryIp ∧ item.observedAt ≤ best.observedAt

section Fields

variable {parseIP : GoString → Option GoString} {config : Config} {device : Device} {item : Decode.Evidence}
  {history : List Decode.Evidence}

theorem turn_eq (device : Device) (item : Decode.Evidence) :
    ∃ evidence, (device.turn parseIP config item).1 =
      { device with
        lastSeen := max device.lastSeen item.observedAt
        ips := (device.seeIP parseIP config.maxIPsPerDevice item).1.ips
        hostname := if device.takesHostname item then cleanHostname item.hostname else device.hostname
        hostScore := if device.takesHostname item then number item.confidence else device.hostScore
        evidence } := by
  rw [Device.turn, observe_eq]
  rcases keepEvidence_cases _ config.maxEvidencePerDevice item with ⟨evidence, same⟩ | ⟨same, -⟩
  · exact ⟨evidence, congrArg Prod.fst same⟩
  · exact ⟨_, congrArg Prod.fst same⟩

@[simp] theorem turn_firstSeen : (device.turn parseIP config item).1.firstSeen = device.firstSeen := by
  obtain ⟨_, same⟩ := @turn_eq parseIP config device item
  rw [same]

@[simp] theorem turn_lastSeen : (device.turn parseIP config item).1.lastSeen = max device.lastSeen item.observedAt := by
  obtain ⟨_, same⟩ := @turn_eq parseIP config device item
  rw [same]

@[simp] theorem turn_ips :
    (device.turn parseIP config item).1.ips = (device.seeIP parseIP config.maxIPsPerDevice item).1.ips := by
  obtain ⟨_, same⟩ := @turn_eq parseIP config device item
  rw [same]

@[simp] theorem turn_hostname :
    (device.turn parseIP config item).1.hostname = if device.takesHostname item then cleanHostname item.hostname else device.hostname := by
  obtain ⟨_, same⟩ := @turn_eq parseIP config device item
  rw [same]

@[simp] theorem turn_hostScore :
    (device.turn parseIP config item).1.hostScore = if device.takesHostname item then number item.confidence else device.hostScore := by
  obtain ⟨_, same⟩ := @turn_eq parseIP config device item
  rw [same]

theorem recorded_lastSeen (recorded : Recorded parseIP config history device) :
    IsGreatest {time | ∃ item ∈ history, item.observedAt = time} device.lastSeen := by
  induction recorded with
  | first mac item =>
    rw [turn_lastSeen]
    have same : max (Device.fresh mac item).lastSeen item.observedAt = item.observedAt := max_self _
    rw [same]
    refine ⟨⟨item, List.mem_singleton.mpr rfl, rfl⟩, ?_⟩
    rintro time ⟨other, member, rfl⟩
    rw [List.mem_singleton.mp member]
  | @next history device recorded item ih =>
    rw [turn_lastSeen]
    obtain ⟨⟨latest, member, same⟩, greatest⟩ := ih
    constructor
    · rcases max_choice device.lastSeen item.observedAt with older | newer
      · exact ⟨latest, List.mem_append_left _ member, same.trans older.symm⟩
      · exact ⟨item, List.mem_append_right _ (List.mem_singleton.mpr rfl), newer.symm⟩
    · rintro time ⟨other, member, rfl⟩
      rcases List.mem_append.mp member with before | here
      · exact le_max_of_le_left (greatest ⟨other, before, rfl⟩)
      · rw [List.mem_singleton.mp here]
        exact le_max_right _ _

theorem recorded_firstSeen (recorded : Recorded parseIP config history device) :
    ∃ first rest, history = first :: rest ∧ device.firstSeen = first.observedAt := by
  induction recorded with
  | first mac item => exact ⟨item, [], rfl, turn_firstSeen⟩
  | next recorded item ih =>
    obtain ⟨first, rest, same, seen⟩ := ih
    exact ⟨first, rest ++ [item], by rw [same, List.cons_append], turn_firstSeen.trans seen⟩

/-- The name of a device is that of the greatest confidence so far. -/
structure Named (history : List Decode.Evidence) (device : Device) : Prop where
  unnamed : (∀ item ∈ history, isNamed item = false) → device.hostname = [] ∧ device.hostScore = 0
  named : (∃ item ∈ history, isNamed item = true) → device.hostname ≠ [] ∧
    (∃ item ∈ history, isNamed item = true ∧ device.hostname = cleanHostname item.hostname ∧ device.hostScore = number item.confidence) ∧
      ∀ item ∈ history, isNamed item = true → number item.confidence ≤ device.hostScore

theorem named_turn (named : Named history device) (item : Decode.Evidence) :
    Named (history ++ [item]) (device.turn parseIP config item).1 := by
  have here : item ∈ history ++ [item] := List.mem_append_right _ (List.mem_singleton.mpr rfl)
  by_cases taken : device.takesHostname item
  · obtain ⟨isnamed, better⟩ := Bool.and_eq_true_iff.mp taken
    have new : isNamed item = true := isnamed
    constructor
    · intro none
      exact absurd new (by rw [none item here]; exact Bool.false_ne_true)
    · intro _
      rw [turn_hostname, turn_hostScore, if_pos taken, if_pos taken]
      refine ⟨of_decide_eq_true new, ⟨item, here, new, rfl, rfl⟩, ?_⟩
      intro other member othernamed
      rcases List.mem_append.mp member with before | last
      · obtain ⟨present, -, greatest⟩ := named.named ⟨other, before, othernamed⟩
        rw [Bool.or_eq_true, decide_eq_true_eq, decide_eq_true_eq] at better
        exact (greatest other before othernamed).trans (better.resolve_left present).le
      · rw [List.mem_singleton.mp last]
  · constructor
    · intro none
      rw [turn_hostname, turn_hostScore, if_neg taken, if_neg taken]
      exact named.unnamed fun other member => none other (List.mem_append_left _ member)
    · rintro ⟨other, member, othernamed⟩
      rw [turn_hostname, turn_hostScore, if_neg taken, if_neg taken]
      -- a name that is not taken finds one at least as good
      have earlier : ∃ old ∈ history, isNamed old = true := by
        by_contra none
        have blank : ∀ old ∈ history, isNamed old = false := fun old before => Bool.eq_false_iff.mpr fun yes => none ⟨old, before, yes⟩
        rcases List.mem_append.mp member with before | last
        · exact none ⟨other, before, othernamed⟩
        · rw [List.mem_singleton.mp last] at othernamed
          refine taken (Bool.and_eq_true_iff.mpr ⟨othernamed, ?_⟩)
          rw [decide_eq_true (named.unnamed blank).1, Bool.true_or]
      obtain ⟨present, ⟨old, before, oldnamed, name, score⟩, greatest⟩ := named.named earlier
      refine ⟨present, ⟨old, List.mem_append_left _ before, oldnamed, name, score⟩, ?_⟩
      intro another among anothernamed
      rcases List.mem_append.mp among with before | last
      · exact greatest another before anothernamed
      · rw [List.mem_singleton.mp last] at anothernamed ⊢
        by_contra worse
        refine taken (Bool.and_eq_true_iff.mpr ⟨anothernamed, ?_⟩)
        rw [decide_eq_true (not_le.mp worse), Bool.or_true]

theorem recorded_named (recorded : Recorded parseIP config history device) : Named history device := by
  induction recorded with
  | first mac item =>
    have blank : Named [] (Device.fresh mac item) :=
      ⟨fun _ => ⟨rfl, rfl⟩, fun ⟨_, member, _⟩ => nomatch member⟩
    exact named_turn blank item
  | next recorded item ih => exact named_turn ih item

/-- The addresses of a device, each with the time of the last observation of it that there was. -/
structure Seen (parseIP : GoString → Option GoString) (maxIPs : Int) (history : List Decode.Evidence) (ips : Dict GoString Instant) : Prop where
  last : ∀ ip time, ips.get? ip = some time →
    ∃ before item after, history = before ++ item :: after ∧ address parseIP item = some ip ∧ item.observedAt = time ∧
      ∀ later ∈ after, address parseIP later ≠ some ip
  recorded : ∀ item ∈ history, ∀ ip, address parseIP item = some ip → (ips.get? ip).isSome ∨ maxIPs ≤ ips.size

theorem size_seeIP (device : Device) (maxIPs : Int) (item : Decode.Evidence) :
    device.ips.size ≤ (device.seeIP parseIP maxIPs item).1.ips.size := by
  cases parsed : parseIP item.ip.trimmed with
  | none => rw [seeIP_none parsed]
  | some ip =>
    rw [seeIP_some parsed]
    split_ifs
    · exact size_le_set _ _ _
    · exact le_rfl

theorem seen_turn {maxIPs : Int} (seen : Seen parseIP maxIPs history device.ips) (item : Decode.Evidence) :
    Seen parseIP maxIPs (history ++ [item]) (device.seeIP parseIP maxIPs item).1.ips := by
  constructor
  · intro ip time stored
    rw [get?_seeIP] at stored
    by_cases taken : parseIP item.ip.trimmed = some ip ∧ device.takesIP maxIPs ip = true
    · rw [if_pos taken] at stored
      exact ⟨history, item, [], rfl, taken.1, Option.some.inj stored, fun later member => nomatch member⟩
    · rw [if_neg taken] at stored
      obtain ⟨before, old, after, same, named, timed, last⟩ := seen.last ip time stored
      refine ⟨before, old, after ++ [item], by rw [same, List.append_assoc, List.cons_append], named, timed, ?_⟩
      intro later member
      rcases List.mem_append.mp member with among | here
      · exact last later among
      · rw [List.mem_singleton.mp here]
        intro names
        refine taken ⟨names, ?_⟩
        rw [Device.takesIP, stored]
        rfl
  · intro other member ip named
    rw [get?_seeIP]
    by_cases taken : parseIP item.ip.trimmed = some ip ∧ device.takesIP maxIPs ip = true
    · rw [if_pos taken]
      exact .inl rfl
    · rw [if_neg taken]
      have grown : device.ips.size ≤ (device.seeIP parseIP maxIPs item).1.ips.size := size_seeIP device maxIPs item
      rcases List.mem_append.mp member with before | here
      · refine (seen.recorded other before ip named).imp id fun full => full.trans ?_
        exact_mod_cast grown
      · rw [List.mem_singleton.mp here] at named
        have refused : ¬device.takesIP maxIPs ip = true := fun yes => taken ⟨named, yes⟩
        rw [Device.takesIP, Bool.or_eq_true, decide_eq_true_eq, not_or, not_lt] at refused
        refine .inr (refused.2.trans ?_)
        exact_mod_cast grown

theorem recorded_seen (recorded : Recorded parseIP config history device) : Seen parseIP config.maxIPsPerDevice history device.ips := by
  induction recorded with
  | first mac item =>
    rw [turn_ips]
    have none : Seen parseIP config.maxIPsPerDevice [] (Device.fresh mac item).ips :=
      ⟨fun _ _ stored => (nomatch stored), fun _ member => (nomatch member)⟩
    exact seen_turn none item
  | next recorded item ih =>
    rw [turn_ips]
    exact seen_turn ih item

end Fields

section Primary

/-- What the primary address is greatest in: its time, and then that its text sorts first. -/
def recency (entry : GoString × Instant) : Instant ×ₗ (List Nat)ᵒᵈ := toLex (entry.2, OrderDual.toDual (textOrder entry.1))

theorem laterIP_eq (latest entry : GoString × Instant) :
    laterIP latest entry = if recency latest < recency entry then entry else latest := by
  unfold laterIP
  congr 1
  rw [recency, recency, Prod.Lex.toLex_lt_toLex, Bool.or_eq_true, Bool.and_eq_true, decide_eq_true_eq, decide_eq_true_eq,
    decide_eq_true_eq, OrderDual.toDual_lt_toDual, eq_comm (a := entry.2)]

theorem foldl_laterIP (entries : List (GoString × Instant)) (start : GoString × Instant) :
    (entries.foldl laterIP start = start ∨ entries.foldl laterIP start ∈ entries) ∧
      recency start ≤ recency (entries.foldl laterIP start) ∧
      ∀ entry ∈ entries, recency entry ≤ recency (entries.foldl laterIP start) := by
  induction entries generalizing start with
  | nil => exact ⟨.inl rfl, le_rfl, fun _ member => nomatch member⟩
  | cons entry rest ih =>
    rw [List.foldl_cons, laterIP_eq]
    split_ifs with later
    · obtain ⟨chosen, above, greatest⟩ := ih entry
      refine ⟨.inr ?_, later.le.trans above, ?_⟩
      · exact List.mem_cons.mpr chosen
      · intro other member
        rcases List.mem_cons.mp member with rfl | among
        · exact above
        · exact greatest other among
    · obtain ⟨chosen, above, greatest⟩ := ih start
      refine ⟨chosen.imp id (List.mem_cons_of_mem _), above, ?_⟩
      intro other member
      rcases List.mem_cons.mp member with rfl | among
      · exact (not_lt.mp later).trans above
      · exact greatest other among

theorem latestIP_greatest {ips : Dict GoString Instant} {ip : GoString} {time : Instant} (stored : ips.get? ip = some time)
    (positive : 0 < time) : ∃ latest, ips.get? (latestIP ips) = some latest ∧ time ≤ latest := by
  obtain ⟨chosen, -, greatest⟩ := foldl_laterIP ips.entries ([], 0)
  have above := greatest (ip, time) ((ips.get?_eq_some _ _).mp stored)
  have later : time ≤ (ips.entries.foldl laterIP ([], 0)).2 := (Prod.Lex.toLex_le_toLex.mp above).elim le_of_lt fun same => same.1.le
  rcases chosen with none | member
  · rw [none] at later
    exact absurd (lt_of_lt_of_le positive later) (lt_irrefl _)
  · exact ⟨_, (ips.get?_eq_some _ _).mpr member, later⟩

end Primary

section Recent

variable {parseIP : GoString → Option GoString} {config : Config} {device : Device} {item : Decode.Evidence}
  {history other : List Decode.Evidence}

theorem chronological_le {maxIPs : Int} {ips : Dict GoString Instant} (seen : Seen parseIP maxIPs history ips)
    (ordered : Chronological parseIP history) (member : item ∈ history) {ip : GoString} (named : address parseIP item = some ip)
    {time : Instant} (stored : ips.get? ip = some time) : item.observedAt ≤ time := by
  obtain ⟨before, last, after, rfl, lastnamed, rfl, none⟩ := seen.last ip time stored
  obtain ⟨-, -, across⟩ := List.pairwise_append.mp ordered
  rcases List.mem_append.mp member with earlier | here
  · exact across item earlier last List.mem_cons_self (named.trans lastnamed.symm)
  · rcases List.mem_cons.mp here with rfl | later
    · exact le_rfl
    · exact absurd named (none item later)

theorem recorded_recent (recorded : Recorded parseIP config history device) :
    Recent parseIP config.maxIPsPerDevice history device where
  lastSeen := recorded_lastSeen recorded
  firstSeen := by
    obtain ⟨first, rest, rfl, seen⟩ := recorded_firstSeen recorded
    rintro earliest ⟨⟩ least
    refine ⟨⟨first, List.mem_cons_self, seen.symm⟩, ?_⟩
    rintro time ⟨item, member, rfl⟩
    rw [seen]
    exact least item member
  unnamed := (recorded_named recorded).unnamed
  hostname some := ((recorded_named recorded).named some).2
  ips := (recorded_seen recorded).recorded
  primaryIp := by
    intro ordered item member ip named present positive
    obtain ⟨time, stored⟩ := Option.isSome_iff_exists.mp present
    have earlier : item.observedAt ≤ time := chronological_le (recorded_seen recorded) ordered member named stored
    obtain ⟨latest, primary, later⟩ := latestIP_greatest stored (lt_of_lt_of_le positive earlier)
    obtain ⟨before, best, after, rfl, bestnamed, rfl, -⟩ := (recorded_seen recorded).last _ _ primary
    exact ⟨best, List.mem_append_right _ List.mem_cons_self, bestnamed, earlier.trans later⟩

theorem hostScore_perm {device' : Device} (recorded : Recorded parseIP config history device)
    (recorded' : Recorded parseIP config other device') (perm : history.Perm other) : device.hostScore = device'.hostScore := by
  have named := recorded_recent recorded
  have named' := recorded_recent recorded'
  by_cases any : ∃ item ∈ history, isNamed item = true
  · obtain ⟨⟨item, member, isnamed, -, score⟩, greatest⟩ := named.hostname any
    obtain ⟨⟨item', member', isnamed', -, score'⟩, greatest'⟩ := named'.hostname ⟨item, perm.mem_iff.mp member, isnamed⟩
    apply le_antisymm
    · rw [score]
      exact greatest' item (perm.mem_iff.mp member) isnamed
    · rw [score']
      exact greatest item' (perm.mem_iff.mpr member') isnamed'
  · have none : ∀ item ∈ history, isNamed item = false := fun item member => Bool.eq_false_iff.mpr fun yes => any ⟨item, member, yes⟩
    rw [(named.unnamed none).2, (named'.unnamed fun item member => none item (perm.mem_iff.mpr member)).2]

theorem lastSeen_perm {device' : Device} (recorded : Recorded parseIP config history device)
    (recorded' : Recorded parseIP config other device') (perm : history.Perm other) : device.lastSeen = device'.lastSeen := by
  have latest := recorded_lastSeen recorded'
  simp only [← perm.mem_iff] at latest
  exact (recorded_lastSeen recorded).unique latest

end Recent

/-- What a device says of the observations it has taken in, in whatever order they arrived. -/
theorem arrival_order (parseIP : GoString → Option GoString) (config : Config) :
    (∀ items key device, (Aggregator.run parseIP config items).devices.get? key = some device →
      ∃ history, history <:+ items.filter (names config key) ∧ Recorded parseIP config history device) ∧
    (∀ history device, Recorded parseIP config history device → Recent parseIP config.maxIPsPerDevice history device) ∧
    (∀ history other device device', Recorded parseIP config history device → Recorded parseIP config other device' →
      history.Perm other → device.lastSeen = device'.lastSeen ∧ device.hostScore = device'.hostScore) ∧
    (∀ (device : Device) (item : Decode.Evidence), device.lastSeen ≤ (device.turn parseIP config item).1.lastSeen ∧
      ((device.turn parseIP config item).1.hostname ≠ device.hostname →
        device.hostname = [] ∨ device.hostScore < number item.confidence)) := by
  refine ⟨run_recorded, fun _ _ => recorded_recent, fun _ _ _ _ here there perm => ?_, fun device item => ⟨?_, ?_⟩⟩
  · exact ⟨lastSeen_perm here there perm, hostScore_perm here there perm⟩
  · rw [turn_lastSeen]
    exact le_max_left _ _
  · rw [turn_hostname]
    intro changed
    by_cases taken : device.takesHostname item
    · have better := (Bool.and_eq_true_iff.mp taken).2
      rwa [Bool.or_eq_true, decide_eq_true_eq, decide_eq_true_eq] at better
    · exact absurd (if_neg taken) changed

/-- An older observation that comes later makes its address older than it is, the first time is that of the first to
    arrive, and a more confident name replaces a more recent one. -/
theorem older_observation_replaces :
    let config := { smallConfig with maxIPsPerDevice := 2, ipsBounded := by decide }
    let arrived := (Aggregator.run some config [sighting "192.0.2.10" 10, sighting "192.0.2.11" 9, sighting "192.0.2.10" 5]).devices.values
    let ordered := (Aggregator.run some config [sighting "192.0.2.10" 5, sighting "192.0.2.11" 9, sighting "192.0.2.10" 10]).devices.values
    let named (name : String) (confidence : ℚ) (time : Instant) : Decode.Evidence :=
      { sighting "192.0.2.10" time with hostname := GoString.ofText name, confidence := .finite confidence }
    arrived.map (·.asset.primaryIp) = [GoString.ofText "192.0.2.11"] ∧ arrived.map (·.firstSeen) = [10] ∧
      ordered.map (·.asset.primaryIp) = [GoString.ofText "192.0.2.10"] ∧ ordered.map (·.firstSeen) = [5] ∧
      (Aggregator.run some config [named "new" (1 / 2) 2, named "old" 1 1]).devices.values.map (·.hostname) = [GoString.ofText "old"] := by
  decide +kernel

end OpenAssetWatch.Aggregate
