import OpenAssetWatch.Sensor.Acknowledgement
import OpenAssetWatch.Sensor.SpoolCapacity

namespace OpenAssetWatch.Sensor

open Library Ingestion
open GoString (ofText)

section Client

structure DeliveryError where
  statusCode : Nat := 0
  errorClass : String
  retryable : Bool := false
  message : String
deriving DecidableEq

/-- The error of a response outside of 2xx. -/
def classifyStatus (status : Nat) : DeliveryError :=
  let code := " (HTTP " ++ toString status ++ ")"
  if status = 401 || status = 403 then
    { statusCode := status, errorClass := "authentication", message := "hub authentication rejected" ++ code }
  else if status = 408 then
    { statusCode := status, errorClass := "timeout", retryable := true, message := "hub request is retryable" ++ code }
  else if status = 429 then
    { statusCode := status, errorClass := "rate-limit", retryable := true,
      message := "hub rate limit requires a retry (HTTP 429)" }
  else if 500 ≤ status && status ≤ 599 then
    { statusCode := status, errorClass := "server", retryable := true, message := "hub service error is retryable" ++ code }
  else if 300 ≤ status && status ≤ 399 then
    { statusCode := status, errorClass := "redirect", message := "hub redirect was refused" ++ code }
  else { statusCode := status, errorClass := "validation", message := "hub rejected observation batch" ++ code }

/-- What the network makes of a request: no response (at a deadline or not), one whose body cannot be read, or one. -/
inductive Exchange where
  | failed (deadline : Bool)
  | unread (statusCode : Nat)
  | answered (response : HubResponse)

variable (floatLength : ℚ → Nat) (parseTime : ParseTime)

/-- `Client.Send`. -/
def send (exchange : Exchange) (batch : Batch) : Except DeliveryError Acknowledgement :=
  match marshal floatLength batch with
  | .error _ => .error { errorClass := "validation", message := "observation batch validation failed" }
  | .ok _ =>
    match exchange with
    | .failed deadline =>
      .error { errorClass := if deadline then "timeout" else "network", retryable := true, message := "hub request failed" }
    | .unread status => .error ⟨status, "network", true, "failed to read hub acknowledgement"⟩
    | .answered response =>
      if maxResponseBytes < response.size then
        .error ⟨response.statusCode, "protocol", false, "hub acknowledgement exceeds size limit"⟩
      else if response.statusCode < 200 || 300 ≤ response.statusCode then .error (classifyStatus response.statusCode)
      else (readAcknowledgement parseTime response.documents batch).mapError (⟨response.statusCode, "protocol", false, ·⟩)

/-- The doublings of `Backoff`. -/
def backoffLoop (maximum : Int) : Nat → Int → Int
  | 0, delay => delay
  | attempts + 1, delay =>
    if delay < maximum then if maximum / 2 < delay then maximum else backoffLoop maximum attempts (2 * delay) else delay

/-- `Backoff`, with the random number it draws. -/
def backoff (attempt initial maximum : Int) (random : Option Nat) : Int :=
  let initial := if initial ≤ 0 then second else initial
  let maximum := if maximum < initial then initial else maximum
  let delay := min (backoffLoop maximum attempt.toNat initial) maximum
  match random with
  | none => delay
  | some value =>
    let jitter := value % (delay / 4 + 1)
    if maximum - jitter < delay then maximum else delay + jitter

end Client

section Runner

/-- What one round of the loop of `deliverPending` meets: clocks, random numbers and the exchange with the hub. -/
structure DeliveryRound where
  now : Instant
  wall : Nat → Instant
  quarantine : BitVec 128
  exchange : Exchange
  retryNow : Instant
  jitter : Option Nat
  guarded : Instant
  retryWall : Instant
  temporary : BitVec 128

structure RetryConfig where
  initial : Int
  maximum : Int

variable (floatLength : ℚ → Nat) (parseTime : ParseTime) (digest : EntryName → BitVec 64) (retry : RetryConfig)

/-- The batch as it is sent. -/
def outgoing (entry : Entry) : Batch :=
  if 0 < entry.attempts then { entry.batch with deliveryState := ofText "cached-retry" } else entry.batch

/-- One round of `deliverPending`: the directory behind it, and whether the loop goes on. -/
def Directory.deliver (d : Directory) (round : DeliveryRound) : Directory × Bool :=
  match d.next digest round.now round.wall round.quarantine with
  | (.error _, read) => (read, false)
  | (.ok entry, read) =>
    match send floatLength parseTime round.exchange (outgoing entry) with
    | .ok _ => ((read.remove (.entry entry.name)).2, (read.remove (.entry entry.name)).1.isOk)
    | .error error =>
      if error.retryable then
        ((read.recordRetry floatLength (.entry entry.name)
          (round.retryNow + backoff entry.attempts retry.initial retry.maximum round.jitter) (ofText error.errorClass)
          round.guarded round.retryWall round.temporary).2, false)
      else (read, false)

/-- `deliverPending`, as long as the process lives. -/
def Directory.deliverPending (d : Directory) : List DeliveryRound → Directory
  | [] => d
  | round :: rest =>
    let step := d.deliver floatLength parseTime digest retry round
    if step.2 then step.1.deliverPending rest else step.1

/-- What happens to the spool of a sensor; a process may die when the hub has the request but the spool has no answer. -/
inductive SensorEvent where
  | enqueue (batch : Batch) (now : Instant) (random temporary : BitVec 128)
  | deliver (round : DeliveryRound)
  | dies (round : DeliveryRound)

variable (config : Config)

def Directory.happen (d : Directory) : SensorEvent → Directory
  | .enqueue batch now random temporary => (d.enqueue floatLength config batch now random temporary).2
  | .deliver round => (d.deliver floatLength parseTime digest retry round).1
  | .dies round => (d.next digest round.now round.wall round.quarantine).2

def Directory.happenAll (d : Directory) (events : List SensorEvent) : Directory :=
  events.foldl (Directory.happen floatLength parseTime digest retry config) d

end Runner

section Rounds

variable {floatLength : ℚ → Nat} {parseTime : ParseTime} {digest : EntryName → BitVec 64} {retry : RetryConfig} {config : Config}
  {d : Directory} {name : EntryName}

/-- The loop makes its rounds one after the other. -/
theorem deliverPending_rounds (rounds : List DeliveryRound) (d : Directory) :
    ∃ made, made <+: rounds ∧ d.deliverPending floatLength parseTime digest retry rounds =
      d.happenAll floatLength parseTime digest retry config (made.map .deliver) := by
  induction rounds generalizing d with
  | nil => exact ⟨[], List.nil_prefix, rfl⟩
  | cons round rest hypothesis =>
    rw [Directory.deliverPending]
    split
    · obtain ⟨made, front, same⟩ := hypothesis (d.deliver floatLength parseTime digest retry round).1
      exact ⟨round :: made, List.cons_prefix_cons.mpr ⟨rfl, front⟩, same⟩
    · exact ⟨[round], List.cons_prefix_cons.mpr ⟨rfl, List.nil_prefix⟩, rfl⟩

/-- A round sends the entry of the name, and the response to it acknowledges its batch. -/
def Acknowledged (parseTime : ParseTime) (digest : EntryName → BitVec 64) (d : Directory) (name : EntryName)
    (round : DeliveryRound) : Prop :=
  ∃ entry response ack, d.next digest round.now round.wall round.quarantine = (.ok entry, d) ∧ entry.name = name ∧
    round.exchange = .answered response ∧ receive parseTime response (outgoing entry) = .ok ack ∧ Acknowledges ack entry.batch

/-- `Next` cannot read the entry of the name, which is kept under another name. -/
def Quarantined (digest : EntryName → BitVec 64) (d : Directory) (name : EntryName) (round : DeliveryRound) : Prop :=
  ∃ file wall cause, d.get? (.entry name) = some file ∧ d.readEnvelope (.entry name) wall = .error cause ∧
    (d.next digest round.now round.wall round.quarantine).2.get? (.quarantined (digest name) round.quarantine) = some file

theorem send_ok {exchange : Exchange} {batch : Batch} {ack : Acknowledgement}
    (sent : send floatLength parseTime exchange batch = .ok ack) :
    ∃ response, exchange = .answered response ∧ receive parseTime response batch = .ok ack ∧
      validateAcknowledgement ack batch = .ok () := by
  unfold send at sent
  split at sent
  · cases sent
  · split at sent
    · cases sent
    · cases sent
    · rename_i response
      split at sent
      · cases sent
      · rename_i small
        split at sent
        · cases sent
        · rename_i good
          have read := mapError_eq_ok.mp sent
          refine ⟨response, rfl, ?_, ?_⟩
          · rw [receive, require_bind_eq_ok, require_bind_eq_ok]
            simp only [Bool.or_eq_true, decide_eq_true_eq, not_or, Bool.and_eq_true] at good ⊢
            exact ⟨by omega, ⟨by omega, by omega⟩, read⟩
          · unfold readAcknowledgement at read
            split at read
            · split at read
              · obtain ⟨valid, same⟩ := then_eq_ok.mp read
                cases same
                exact valid
              · cases read
            · cases read

theorem acknowledges_outgoing {ack : Acknowledgement} {entry : Entry} (acknowledges : Acknowledges ack (outgoing entry)) :
    Acknowledges ack entry.batch := by
  unfold outgoing at acknowledges
  split at acknowledges
  · exact ⟨acknowledges.batchId, acknowledges.siteId, acknowledges.sensorId, acknowledges.assetCount⟩
  · exact acknowledges

theorem next_spec (d : Directory) (now : Instant) (wall : Nat → Instant) (random : BitVec 128) :
    (d.next digest now wall random).2 = d ∨
    ∃ other at_ cause, d.readEnvelope (.entry other) at_ = .error cause ∧
      d.next digest now wall random =
        (.error (.corrupt cause), d.rename (.entry other) (.quarantined (digest other) random)) := by
  have loop : ∀ (names : List EntryName) (i : Nat), (d.nextFrom digest now wall random i names).2 = d ∨
      ∃ other at_ cause, d.readEnvelope (.entry other) at_ = .error cause ∧ d.nextFrom digest now wall random i names =
        (.error (.corrupt cause), d.rename (.entry other) (.quarantined (digest other) random)) := by
    intro names
    induction names with
    | nil => exact fun _ => .inl rfl
    | cons other rest hypothesis =>
      intro i
      unfold Directory.nextFrom
      cases read : d.readEnvelope (.entry other) (wall i) with
      | error cause => exact .inr ⟨other, wall i, cause, read, rfl⟩
      | ok item =>
        dsimp only
        split
        · exact hypothesis (i + 1)
        · exact .inl rfl
  unfold Directory.next
  cases d.pendingNames with
  | error => exact .inl rfl
  | ok names => exact loop names 0

theorem next_keeps {file : File} (found : d.get? (.entry name) = some file) (round : DeliveryRound) :
    (d.next digest round.now round.wall round.quarantine).2.get? (.entry name) = some file ∨ Quarantined digest d name round := by
  rcases next_spec d round.now round.wall round.quarantine with same | ⟨other, at_, cause, unread, moved⟩
  · rw [same]
    exact .inl found
  · rw [Quarantined, moved]
    by_cases here : other = name
    · subst here
      exact .inr ⟨file, at_, cause, found, unread, by rw [Dict.get?_rename _ found, if_pos rfl]⟩
    · left
      cases there : d.get? (.entry other) with
      | none => rwa [Dict.rename, there]
      | some content => rwa [Dict.get?_rename _ there, if_neg (by simp), if_neg fun same => here (FileName.entry.inj same).symm]

theorem next_ok {now : Instant} {wall : Nat → Instant} {random : BitVec 128} {entry : Entry} {read : Directory}
    (given : d.next digest now wall random = (.ok entry, read)) : read = d := by
  rcases @next_spec digest d now wall random with same | ⟨_, _, _, _, moved⟩
  · rw [given] at same
    exact same
  · rw [given] at moved
    cases moved

theorem atomicWrite_keeps {other : EntryName} {file : File} {replace : Bool} {random : BitVec 128}
    (found : (d.get? (.entry name)).isSome) :
    ((d.atomicWrite (.entry other) file replace random).2.get? (.entry name)).isSome := by
  rcases @Directory.atomicWrite_cases d (.entry other) file replace random nofun with ⟨_, _, same⟩ | ⟨_, _, _, same⟩
  · rwa [same]
  · rw [same, Directory.get?_set]
    split
    · rfl
    · exact found

theorem enqueue_keeps {batch : Batch} {now : Instant} {random temporary : BitVec 128} (found : (d.get? (.entry name)).isSome) :
    ((d.enqueue floatLength config batch now random temporary).2.get? (.entry name)).isSome := by
  rcases Directory.enqueue_eq floatLength config d batch now random temporary with ⟨_, same⟩ | ⟨_, _, _, same⟩
  · rwa [same]
  · rw [same]
    exact atomicWrite_keeps found

theorem recordRetry_keeps {other : EntryName} {nextAttempt guarded wall : Instant} {errorClass :
    GoString} {temporary : BitVec 128}
    (found : (d.get? (.entry name)).isSome) :
    ((d.recordRetry floatLength (.entry other) nextAttempt errorClass guarded wall temporary).2.get? (.entry name)).isSome := by
  rcases Directory.recordRetry_eq floatLength d (.entry other) nextAttempt errorClass guarded wall temporary with
    ⟨_, same⟩ | ⟨_, _, same⟩
  · rwa [same]
  · rw [same]
    exact atomicWrite_keeps found

theorem deliver_spec (d : Directory) (round : DeliveryRound) :
    (d.deliver floatLength parseTime digest retry round).1 = (d.next digest round.now round.wall round.quarantine).2 ∨
    (∃ entry ack, d.next digest round.now round.wall round.quarantine = (.ok entry, d) ∧
      send floatLength parseTime round.exchange (outgoing entry) = .ok ack ∧
      (d.deliver floatLength parseTime digest retry round).1 = (d.remove (.entry entry.name)).2) ∨
    ∃ other nextAttempt errorClass, (d.deliver floatLength parseTime digest retry round).1 =
      (d.recordRetry floatLength (.entry other) nextAttempt errorClass round.guarded round.retryWall round.temporary).2 := by
  unfold Directory.deliver
  split
  · rename_i given
    exact .inl (by rw [given])
  · rename_i entry read given
    obtain rfl := next_ok given
    split
    · rename_i ack taken
      exact .inr (.inl ⟨entry, ack, given, taken, rfl⟩)
    · split
      · exact .inr (.inr ⟨_, _, _, rfl⟩)
      · exact .inl (by rw [given])

theorem remove_keeps {other : EntryName} (apart : other ≠ name) (found : (d.get? (.entry name)).isSome) :
    ((d.remove (.entry other)).2.get? (.entry name)).isSome := by
  unfold Directory.remove
  split
  · exact found
  · rwa [Dict.get?_erase, if_neg fun same => apart (FileName.entry.inj same).symm]

theorem happen_keeps (found : (d.get? (.entry name)).isSome) (event : SensorEvent) :
    ((d.happen floatLength parseTime digest retry config event).get? (.entry name)).isSome ∨
      (∃ round, event = .deliver round ∧ Acknowledged parseTime digest d name round) ∨
      ∃ round, (event = .deliver round ∨ event = .dies round) ∧ Quarantined digest d name round := by
  obtain ⟨file, there⟩ := Option.isSome_iff_exists.mp found
  cases event with
  | enqueue => exact .inl (enqueue_keeps found)
  | dies round =>
    rcases next_keeps there round with kept | put
    · exact .inl (Option.isSome_iff_exists.mpr ⟨file, kept⟩)
    · exact .inr (.inr ⟨round, .inr rfl, put⟩)
  | deliver round =>
    unfold Directory.happen
    dsimp only
    rcases deliver_spec d round with same | ⟨entry, ack, given, taken, same⟩ | ⟨_, _, _, same⟩
    · rw [same]
      rcases next_keeps there round with kept | put
      · exact .inl (Option.isSome_iff_exists.mpr ⟨file, kept⟩)
      · exact .inr (.inr ⟨round, .inl rfl, put⟩)
    · rw [same]
      by_cases here : entry.name = name
      · obtain ⟨response, answered, received, valid⟩ := send_ok taken
        exact .inr (.inl ⟨round, rfl, entry, response, ack, given, here, answered, received,
          acknowledges_outgoing (acknowledges_of_validated valid)⟩)
      · exact .inl (remove_keeps here found)
    · rw [same]
      exact .inl (recordRetry_keeps found)

/-- Whatever the network does and whenever the process dies, an entry of the spool stays until a response acknowledges its
batch or `Next` cannot read it. -/
theorem delivered_or_kept (floatLength : ℚ → Nat) (parseTime : ParseTime) (digest : EntryName → BitVec 64) (retry : RetryConfig)
    (config : Config) (d : Directory) (events : List SensorEvent) (name : EntryName) (found : (d.get? (.entry name)).isSome) :
    ((d.happenAll floatLength parseTime digest retry config events).get? (.entry name)).isSome ∨
      ∃ before event after, events = before ++ event :: after ∧
        ((∃ round, event = .deliver round ∧
          Acknowledged parseTime digest (d.happenAll floatLength parseTime digest retry config before) name round) ∨
        ∃ round, (event = .deliver round ∨ event = .dies round) ∧
          Quarantined digest (d.happenAll floatLength parseTime digest retry config before) name round) := by
  induction events generalizing d with
  | nil => exact .inl found
  | cons event rest hypothesis =>
    rcases @happen_keeps floatLength parseTime digest retry config d name found event with kept | gone
    · rcases hypothesis _ kept with stays | ⟨before, other, after, split, gone⟩
      · exact .inl stays
      · exact .inr ⟨event :: before, other, after, congrArg (event :: ·) split, gone⟩
    · exact .inr ⟨[], event, rest, rfl, gone⟩

/-- A spool with one batch. -/
def spooled : Directory :=
  (Directory.enqueue Directory.sampleFloatLength Dict.empty Directory.roomyConfig Directory.sampleBatch
    (63_000_000_001 * second) 1 2).2

def spooledName : EntryName := ⟨63_000_000_001 * second, 1⟩

def sampleRound (exchange : Exchange) : DeliveryRound where
  now := 63_000_000_002 * second
  wall _ := 63_000_000_002 * second
  quarantine := 3
  exchange := exchange
  retryNow := 63_000_000_002 * second
  jitter := none
  guarded := 63_000_000_002 * second
  retryWall := 63_000_000_002 * second
  temporary := 4

/-- The first request is lost, and the process dies at the second one. -/
def sampleLosses : List SensorEvent := [.deliver (sampleRound (.failed true)), .dies (sampleRound (.unread 200))]

theorem spooled_found : (spooled.get? (.entry spooledName)).isSome := by decide +kernel

def sampleKept : Directory :=
  spooled.happenAll Directory.sampleFloatLength (fun _ => some ⟨1, 0⟩) Directory.sampleDigest ⟨second, 60 * second⟩
  Directory.roomyConfig sampleLosses

theorem delivered_or_kept_losses : (sampleKept.get? (.entry spooledName)).isSome ∨ ∃ before event after,
    sampleLosses = before ++ event :: after ∧
      ((∃ round, event = .deliver round ∧ Acknowledged (fun _ => some ⟨1, 0⟩) Directory.sampleDigest
      (spooled.happenAll Directory.sampleFloatLength (fun _ => some ⟨1, 0⟩)
        Directory.sampleDigest ⟨second, 60 * second⟩ Directory.roomyConfig before)
      spooledName round) ∨
    ∃ round, (event = .deliver round ∨ event = .dies round) ∧ Quarantined Directory.sampleDigest
      (spooled.happenAll Directory.sampleFloatLength (fun _ => some ⟨1, 0⟩)
        Directory.sampleDigest ⟨second, 60 * second⟩ Directory.roomyConfig before)
      spooledName round) :=
  delivered_or_kept Directory.sampleFloatLength (fun _ => some ⟨1, 0⟩)
    Directory.sampleDigest ⟨second, 60 * second⟩ Directory.roomyConfig spooled sampleLosses
    spooledName spooled_found

/-- A response in 2xx has the body that the hub gives it. -/
def FromHub (exchange : Exchange) : Prop :=
  ∀ response, exchange = .answered response → 200 ≤ response.statusCode → response.statusCode < 300 →
    ∃ payload acknowledgement evaluationState,
      response.documents = some [observationBatchResponse payload acknowledgement evaluationState]

theorem not_acknowledged {round : DeliveryRound} (hub : FromHub round.exchange) :
    ¬Acknowledged parseTime digest d name round := by
  rintro ⟨entry, response, ack, _, _, answered, received, _⟩
  obtain ⟨_, received⟩ := require_bind_eq_ok.mp received
  obtain ⟨good, received⟩ := require_bind_eq_ok.mp received
  rw [Bool.and_eq_true, decide_eq_true_iff, decide_eq_true_iff] at good
  obtain ⟨payload, acknowledgement, evaluationState, body⟩ := hub response answered good.1 good.2
  rw [body, readAcknowledgement, decode_hub] at received
  cases received

/-- With the hub's own responses no entry ever leaves the spool but by the quarantine. -/
theorem hub_empties_nothing (floatLength : ℚ → Nat) (parseTime : ParseTime) (digest : EntryName → BitVec 64) (retry : RetryConfig)
    (config : Config) (d : Directory) (events : List SensorEvent)
    (hub : ∀ round, SensorEvent.deliver round ∈ events → FromHub round.exchange) (name : EntryName)
    (found : (d.get? (.entry name)).isSome) :
    ((d.happenAll floatLength parseTime digest retry config events).get? (.entry name)).isSome ∨
      ∃ before event after round, events = before ++ event :: after ∧ (event = .deliver round ∨ event = .dies round) ∧
        Quarantined digest (d.happenAll floatLength parseTime digest retry config before) name round := by
  induction events generalizing d with
  | nil => exact .inl found
  | cons event rest hypothesis =>
    rcases @happen_keeps floatLength parseTime digest retry config d name found event with
      kept | ⟨round, rfl, acknowledged⟩ | ⟨round, which, put⟩
    · rcases hypothesis _ (fun round listed => hub round (List.mem_cons_of_mem _ listed)) kept with
        stays | ⟨before, other, after, round, split, gone⟩
      · exact .inl stays
      · exact .inr ⟨event :: before, other, after, round, congrArg (event :: ·) split, gone⟩
    · exact absurd acknowledged (not_acknowledged (hub round List.mem_cons_self))
    · exact .inr ⟨[], event, rest, round, rfl, which, put⟩

/-- The hub has stored the batch and says so. -/
def hubRound : DeliveryRound := sampleRound (.answered ⟨200, 640, some [observationBatchResponse
  ⟨"oaw:first-batch".toList, "site-demo".toList, "sensor-demo".toList⟩ acceptedBatch .notRequired]⟩)

theorem hub_empties_nothing_accepted :
    ((spooled.happenAll Directory.sampleFloatLength (fun _ => some ⟨1, 0⟩)
      Directory.sampleDigest ⟨second, 60 * second⟩ Directory.roomyConfig
      [.deliver hubRound]).get? (.entry spooledName)).isSome ∨ ∃ before event after round,
      [SensorEvent.deliver hubRound] = before ++ event :: after ∧ (event = .deliver round ∨ event = .dies round) ∧
        Quarantined Directory.sampleDigest
          (spooled.happenAll Directory.sampleFloatLength (fun _ => some ⟨1, 0⟩) Directory.sampleDigest ⟨second, 60 * second⟩
          Directory.roomyConfig before) spooledName round := by
  apply hub_empties_nothing Directory.sampleFloatLength (fun _ => some ⟨1, 0⟩)
    Directory.sampleDigest ⟨second, 60 * second⟩ Directory.roomyConfig spooled
    [.deliver hubRound] _ spooledName spooled_found
  intro round listed
  cases List.mem_singleton.mp listed
  intro response answered _ _
  cases answered
  exact ⟨_, _, _, rfl⟩

end Rounds

end OpenAssetWatch.Sensor
