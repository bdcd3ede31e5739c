import OpenAssetWatch.Aggregate.Turns
import OpenAssetWatch.Library.Ranking

namespace OpenAssetWatch.Aggregate

open Library Sensor

/-- `flush` of the runtime as far as the aggregator goes: the batch holds a snapshot. -/
def Aggregator.flush (a : Aggregator) (batchSize : Int) (observedAt : Instant) : Aggregator × List Asset :=
  a.snapshot observedAt batchSize

/-- The aggregator after some flushes without new traffic. -/
def Aggregator.flushes (a : Aggregator) (batchSize : Int) (times : Nat → Instant) : Nat → Aggregator
  | 0 => a
  | n + 1 => ((a.flushes batchSize times n).flush batchSize (times n)).1

/-- The keys of the devices of one of the batches. -/
def Aggregator.batchKeys (a : Aggregator) (batchSize : Int) (times : Nat → Instant) (n : Nat) : List (List UInt8) :=
  ((a.flushes batchSize times n).expire (times n)).snapshotKeys batchSize

/-- Every device that the first flush finds unexpired is in one of a bounded number of batches. -/
def NoStarvation (a : Aggregator) (batchSize : Int) (times : Nat → Instant) : Prop :=
  ∃ bound, ∀ key, a.unexpired (times 0) key ≠ none → ∃ n < bound, key ∈ a.batchKeys batchSize times n

/-- A device that no flush up to this one removes. -/
def Device.Lasts (ttl : Int) (times : Nat → Instant) (n : Nat) (device : Device) : Prop :=
  ∀ i ≤ n, device.isExpired ttl (times i) = false

instance (ttl : Int) (times : Nat → Instant) (n : Nat) (device : Device) : Decidable (device.Lasts ttl times n) :=
  inferInstanceAs (Decidable (∀ i ≤ n, _))

/-- How many devices that last sort before a key. -/
def Aggregator.before (a : Aggregator) (times : Nat → Instant) (n : Nat) (key : List UInt8) : Nat :=
  a.devices.entries.countP fun entry => decide (entry.2.Lasts a.config.ttl times n) && decide (byteOrder entry.1 < byteOrder key)

variable {a : Aggregator} {batchSize : Int} {times : Nat → Instant} {key : List UInt8}

theorem byteOrder_injective : Function.Injective byteOrder := fun _ _ same => List.map_injective_iff.mpr (fun _ _ => UInt8.toNat_inj.mp) same

theorem flushes_config (n : Nat) : (a.flushes batchSize times n).config = a.config := by
  induction n with
  | zero => rfl
  | succ n ih => exact ih

theorem expire_entries (now : Instant) :
    (a.expire now).devices.entries = a.devices.entries.filter fun entry => !entry.2.isExpired a.config.ttl now := rfl

theorem lasts_zero (ttl : Int) (device : Device) : device.Lasts ttl times 0 ↔ device.isExpired ttl (times 0) = false := by
  simp [Device.Lasts]

theorem lasts_succ (ttl : Int) (n : Nat) (device : Device) :
    device.Lasts ttl times (n + 1) ↔ device.isExpired ttl (times (n + 1)) = false ∧ device.Lasts ttl times n := by
  simp only [Device.Lasts, Nat.le_succ_iff]
  constructor
  · exact fun lasts => ⟨lasts (n + 1) (.inr rfl), fun i bound => lasts i (.inl bound)⟩
  · rintro ⟨last, lasts⟩ i (bound | rfl)
    · exact lasts i bound
    · exact last

theorem flushes_entries (n : Nat) :
    ((a.flushes batchSize times n).expire (times n)).devices.entries =
      a.devices.entries.filter fun entry => decide (entry.2.Lasts a.config.ttl times n) := by
  induction n with
  | zero =>
    apply List.filter_congr
    intro entry _
    rw [Bool.eq_iff_iff, Bool.not_eq_true', decide_eq_true_eq]
    exact (lasts_zero a.config.ttl entry.2).symm
  | succ n ih =>
    have step : (a.flushes batchSize times (n + 1)).devices.entries =
      ((a.flushes batchSize times n).expire (times n)).devices.entries := rfl
    rw [expire_entries, step, ih, flushes_config, List.filter_filter]
    apply List.filter_congr
    intro entry _
    rw [Bool.eq_iff_iff, Bool.and_eq_true, Bool.not_eq_true', decide_eq_true_eq, decide_eq_true_eq]
    exact (lasts_succ a.config.ttl n entry.2).symm

theorem snapshotKeys_eq (a : Aggregator) (limit : Int) :
    a.snapshotKeys limit =
      (sortedDescending (fun key => OrderDual.toDual (byteOrder key)) (a.devices.entries.map Prod.fst)).take (snapshotLimit limit) := rfl

theorem mem_batchKeys (n : Nat) :
    key ∈ a.batchKeys batchSize times n ↔
      (∃ device, a.devices.get? key = some device ∧ device.Lasts a.config.ttl times n) ∧
        a.before times n key < snapshotLimit batchSize := by
  have nodup := ((a.flushes batchSize times n).expire (times n)).devices.nodup
  have before : standing (fun key => OrderDual.toDual (byteOrder key)) (fun _ => ())
      (((a.flushes batchSize times n).expire (times n)).devices.entries.map Prod.fst) key = a.before times n key := by
    rw [flushes_entries, standing, List.countP_map, List.countP_filter, Aggregator.before]
    apply List.countP_congr
    intro entry _
    simp [and_comm]
  rw [Aggregator.batchKeys, snapshotKeys_eq, mem_take_sortedDescending _ nodup, before, flushes_entries, List.mem_map]
  · simp only [List.mem_filter, decide_eq_true_eq, Prod.exists, exists_eq_right, Dict.get?_eq_some, exists_and_right]
  · exact fun _ _ _ _ same => byteOrder_injective (OrderDual.toDual_inj.mp same)

theorem exists_common_bound {α : Type*} {P : α → Nat → Prop} (items : List α) (each : ∀ x ∈ items, ∃ n, P x n) :
    ∃ bound, ∀ x ∈ items, ∃ n < bound, P x n := by
  induction items with
  | nil => exact ⟨0, fun x member => nomatch member⟩
  | cons x rest ih =>
    obtain ⟨n, here⟩ := each x List.mem_cons_self
    obtain ⟨bound, later⟩ := ih fun y member => each y (List.mem_cons_of_mem _ member)
    refine ⟨max (n + 1) bound, fun y member => ?_⟩
    rcases List.mem_cons.mp member with rfl | member
    · exact ⟨n, by omega, here⟩
    · obtain ⟨m, below, there⟩ := later y member
      exact ⟨m, by omega, there⟩

theorem unexpired_ne_none (now : Instant) (key : List UInt8) :
    a.unexpired now key ≠ none ↔ ∃ device, a.devices.get? key = some device ∧ device.isExpired a.config.ttl now = false := by
  rw [Option.ne_none_iff_exists']
  exact exists_congr fun device => by rw [Aggregator.unexpired, Option.filter_eq_some_iff, Bool.not_eq_true']

theorem noStarvation_iff_batched :
    NoStarvation a batchSize times ↔
      ∀ key device, a.devices.get? key = some device → device.Lasts a.config.ttl times 0 →
        ∃ n, device.Lasts a.config.ttl times n ∧ a.before times n key < snapshotLimit batchSize := by
  constructor
  · rintro ⟨bound, batched⟩ key device stored lasts
    have unexpired : a.unexpired (times 0) key ≠ none :=
      (unexpired_ne_none _ _).mpr ⟨device, stored, (lasts_zero _ _).mp lasts⟩
    obtain ⟨n, -, inside⟩ := batched key unexpired
    obtain ⟨⟨other, here, still⟩, room⟩ := (mem_batchKeys n).mp inside
    cases stored.symm.trans here
    exact ⟨n, still, room⟩
  · intro each
    have some_flush : ∀ entry ∈ a.devices.entries, ∃ n, entry.2.Lasts a.config.ttl times 0 → entry.1 ∈ a.batchKeys batchSize times n := by
      intro entry member
      have stored := (a.devices.get?_eq_some _ _).mpr member
      by_cases lasts : entry.2.Lasts a.config.ttl times 0
      · obtain ⟨n, still, room⟩ := each _ _ stored lasts
        exact ⟨n, fun _ => (mem_batchKeys n).mpr ⟨⟨_, stored, still⟩, room⟩⟩
      · exact ⟨0, fun here => absurd here lasts⟩
    obtain ⟨bound, batched⟩ := exists_common_bound a.devices.entries some_flush
    refine ⟨bound, fun key unexpired => ?_⟩
    obtain ⟨device, stored, fresh⟩ := (unexpired_ne_none _ _).mp unexpired
    obtain ⟨n, below, inside⟩ := batched (key, device) ((a.devices.get?_eq_some _ _).mp stored)
    exact ⟨n, below, inside ((lasts_zero _ _).mpr fresh)⟩

theorem before_of_lasts (last : ∀ key device, a.devices.get? key = some device → ∀ n, device.Lasts a.config.ttl times n) (n : Nat)
    (key : List UInt8) : a.before times n key = a.before times 0 key := by
  apply List.countP_congr
  intro entry member
  have stored := last _ _ ((a.devices.get?_eq_some _ _).mpr member)
  rw [decide_eq_true (stored n), decide_eq_true (stored 0)]

theorem noStarvation_iff_fits (last : ∀ key device, a.devices.get? key = some device → ∀ n, device.Lasts a.config.ttl times n) :
    NoStarvation a batchSize times ↔ a.devices.size ≤ snapshotLimit batchSize := by
  rw [noStarvation_iff_batched]
  have keys : (a.devices.entries.map Prod.fst).length = a.devices.size := List.length_map _
  constructor
  · intro each
    have inside : a.devices.entries.map Prod.fst ⊆ a.batchKeys batchSize times 0 := by
      intro key member
      obtain ⟨⟨_, device⟩, stored, rfl⟩ := List.mem_map.mp member
      have stored := (a.devices.get?_eq_some _ _).mpr stored
      obtain ⟨n, _, room⟩ := each _ _ stored (last _ _ stored 0)
      rw [before_of_lasts last] at room
      exact (mem_batchKeys 0).mpr ⟨⟨device, stored, last _ _ stored 0⟩, room⟩
    rw [← keys]
    exact ((a.devices.nodup.subperm inside).length_le).trans (List.length_take_le _ _)
  · intro fits key device stored _
    refine ⟨0, last _ _ stored 0, lt_of_lt_of_le ?_ fits⟩
    apply List.countP_lt_length_iff.mpr
    refine ⟨(key, device), (a.devices.get?_eq_some _ _).mp stored, ?_⟩
    simp

end OpenAssetWatch.Aggregate

namespace OpenAssetWatch.Aggregate

open Library Sensor

/-- The aggregator after a run of observations. -/
def Aggregator.run (parseIP : GoString → Option GoString) (config : Config) (items : List Decode.Evidence) : Aggregator :=
  items.foldl (fun a item => (a.add parseIP item).1) { config }

/-- The address of an observation. -/
def address (parseIP : GoString → Option GoString) (item : Decode.Evidence) : Option GoString := parseIP item.ip.trimmed

/-- Whether an observation is a valid one of the device under a key. -/
def names (config : Config) (key : List UInt8) (item : Decode.Evidence) : Bool :=
  match validateEvidence item >>= fun _ => normalizeMAC item.mac with
  | .ok mac => deviceKey config.siteId mac item.vlanId = key
  | .error _ => false

/-- A device that has taken in a history of observations, the first of which made it. -/
inductive Recorded (parseIP : GoString → Option GoString) (config : Config) : List Decode.Evidence → Device → Prop
  | first (mac : GoString) (item : Decode.Evidence) : Recorded parseIP config [item] ((Device.fresh mac item).turn parseIP config item).1
  | next {history : List Decode.Evidence} {device : Device} (recorded : Recorded parseIP config history device) (item : Decode.Evidence) :
      Recorded parseIP config (history ++ [item]) (device.turn parseIP config item).1

section Run

variable {parseIP : GoString → Option GoString} {config : Config} {a : Aggregator} {item : Decode.Evidence} {key : List UInt8}

theorem names_of_invalid (wrong : ¬(validateEvidence item = .ok () ∧ ∃ mac, normalizeMAC item.mac = .ok mac)) :
    names config key item = false := by
  unfold names
  cases valid : validateEvidence item with
  | error message => rfl
  | ok _ =>
    cases hardware : normalizeMAC item.mac with
    | error message => rfl
    | ok mac => exact absurd ⟨valid, mac, hardware⟩ wrong

theorem names_of_valid {mac : GoString} (valid : validateEvidence item = .ok ()) (hardware : normalizeMAC item.mac = .ok mac) :
    names config key item = decide (deviceKey config.siteId mac item.vlanId = key) := by
  unfold names
  rw [valid, hardware]
  rfl

theorem add_config (a : Aggregator) (item : Decode.Evidence) : (a.add parseIP item).1.config = a.config := by
  have adding : Adding parseIP a item (a.add parseIP item) := add_cases a item
  generalize a.add parseIP item = result at adding
  cases adding <;> rfl

theorem add_at_key {device : Device} (stored : (a.add parseIP item).1.devices.get? key = some device) :
    (names a.config key item = false ∧ a.devices.get? key = some device) ∨
      (names a.config key item = true ∧
        ((∃ before, a.devices.get? key = some before ∧ device = (before.turn parseIP a.config item).1) ∨
          ∃ mac, device = ((Device.fresh mac item).turn parseIP a.config item).1)) := by
  have adding : Adding parseIP a item (a.add parseIP item) := add_cases a item
  generalize a.add parseIP item = result at adding stored
  cases adding with
  | invalid message wrong => exact .inl ⟨names_of_invalid wrong, stored⟩
  | full valid hardware absent full =>
    refine .inl ⟨?_, ((get?_expire_eq_some _ _).mp stored).1⟩
    rw [names_of_valid valid hardware, decide_eq_false_iff_not]
    intro here
    rw [here] at absent
    cases absent.symm.trans stored
  | @recorded mac known valid hardware has =>
    rw [get?_record, expire_config] at stored
    rw [names_of_valid valid hardware, decide_eq_true_eq, decide_eq_false_iff_not]
    by_cases here : key = deviceKey a.config.siteId mac item.vlanId
    · rw [if_pos here] at stored
      refine .inr ⟨here.symm, ?_⟩
      cases has with
      | old before =>
        rw [← here] at before
        exact .inl ⟨known, ((get?_expire_eq_some _ _).mp before).1, (Option.some.inj stored).symm⟩
      | new _ _ => exact .inr ⟨mac, (Option.some.inj stored).symm⟩
    · rw [if_neg here] at stored
      exact .inl ⟨fun same => here same.symm, ((get?_expire_eq_some _ _).mp stored).1⟩

theorem run_config (items : List Decode.Evidence) : (Aggregator.run parseIP config items).config = config := by
  induction items using List.reverseRecOn with
  | nil => rfl
  | append_singleton items item ih =>
    rw [Aggregator.run, List.foldl_append] at *
    exact (add_config _ _).trans ih

theorem run_recorded (items : List Decode.Evidence) (key : List UInt8) (device : Device)
    (stored : (Aggregator.run parseIP config items).devices.get? key = some device) :
    ∃ history, history <:+ items.filter (names config key) ∧ Recorded parseIP config history device := by
  induction items using List.reverseRecOn generalizing device with
  | nil => cases stored
  | append_singleton items item ih =>
    have last : Aggregator.run parseIP config (items ++ [item]) = ((Aggregator.run parseIP config items).add parseIP item).1 := by
      rw [Aggregator.run, List.foldl_append]
      rfl
    rw [last] at stored
    have cases := add_at_key stored
    rw [run_config] at cases
    rw [List.filter_append]
    rcases cases with ⟨other, before⟩ | ⟨here, ⟨before, known, rfl⟩ | ⟨mac, rfl⟩⟩
    · obtain ⟨history, suffix, recorded⟩ := ih device before
      refine ⟨history, ?_, recorded⟩
      rw [List.filter_cons_of_neg (by rw [other]; exact Bool.false_ne_true), List.filter_nil, List.append_nil]
      exact suffix
    · obtain ⟨history, ⟨earlier, same⟩, recorded⟩ := ih before known
      refine ⟨history ++ [item], ⟨earlier, ?_⟩, recorded.next item⟩
      rw [List.filter_cons_of_pos here, List.filter_nil, ← same, List.append_assoc]
    · refine ⟨[item], ⟨items.filter (names config key), ?_⟩, .first mac item⟩
      rw [List.filter_cons_of_pos here, List.filter_nil]

end Run

end OpenAssetWatch.Aggregate
