import OpenAssetWatch.Library.Weight
import OpenAssetWatch.Sensor.Wire

namespace OpenAssetWatch.Sensor

open Library

inductive SpoolError where
  | full
  | empty
  | corrupt (cause : String)
  | other (message : String)
deriving DecidableEq, Repr

def maxItemsAbsolute : Nat := 10_000

def maxBytesAbsolute : Nat := 10 * 2 ^ 30

def maxScanEntries : Nat := 10_000

def maxAttempts : Int := 100_000

def maxEntryBytes : Nat := maxBodyBytes + 64 * 2 ^ 10

/-- `MaxRetryDelay`, 24 hours. -/
def maxRetryDelay : Int := 24 * 3600 * second

/-- The limits that `Open` admits. -/
structure Config where
  maxItems : Nat
  maxBytes : Nat
  items_pos : 1 ≤ maxItems
  items_le : maxItems ≤ maxItemsAbsolute
  bytes_pos : 1 ≤ maxBytes
  bytes_le : maxBytes ≤ maxBytesAbsolute

/-- The name of an entry: its creation time in UTC, in digits of a fixed width, and sixteen random bytes in hexadecimal. -/
structure EntryName where
  createdAt : Instant
  random : BitVec 128
deriving DecidableEq, Repr

/-- Names sort as their texts do. -/
def EntryName.key (name : EntryName) : Int ×ₗ Nat := toLex (name.createdAt, name.random.toNat)

theorem EntryName.key_injective : Function.Injective EntryName.key := by
  rintro ⟨createdAt, random⟩ ⟨createdAt', random'⟩ same
  have pair := toLex.injective same
  simp only [Prod.mk.injEq] at pair
  rw [EntryName.mk.injEq]
  exact ⟨pair.1, BitVec.eq_of_toNat_eq pair.2⟩

instance : LinearOrder EntryName := LinearOrder.lift' EntryName.key EntryName.key_injective

/-- The files of the spool's directory. -/
inductive FileName where
  | entry (name : EntryName)
  | temporary (random : BitVec 128)
  | quarantined (digest : BitVec 64) (random : BitVec 128)
deriving DecidableEq, Repr

def FileName.pendingName? : FileName → Option EntryName
  | .entry name => some name
  | .temporary _ => none
  | .quarantined _ _ => none

structure WireEnvelope where
  schemaVersion : List Char
  createdAt : Rfc3339
  attempts : Int
  nextAttemptAt : Option Rfc3339
  lastErrorClass : List Char
  batch : WireBatch
deriving DecidableEq, Repr

/-- `envelope`. -/
structure Envelope where
  schemaVersion : GoString
  createdAt : GoTime
  attempts : Int
  nextAttemptAt : Option GoTime
  lastErrorClass : GoString
  batch : Batch
deriving DecidableEq, Repr

/-- A file with the document that its bytes hold, unless they hold none. -/
structure File where
  size : Nat
  document : Option WireEnvelope
deriving DecidableEq, Repr

abbrev Directory := Dict FileName File

def spoolVersion : String := "oaw.sensor-spool.v1"

def Envelope.marshal (item : Envelope) : Except String WireEnvelope := do
  return {
    schemaVersion := item.schemaVersion.runes
    createdAt := ← item.createdAt.marshal
    attempts := item.attempts
    nextAttemptAt := ← item.nextAttemptAt.mapM GoTime.marshal
    lastErrorClass := item.lastErrorClass.runes
    batch := ← item.batch.marshal }

def WireEnvelope.unmarshal (document : WireEnvelope) : Envelope where
  schemaVersion := .ofChars document.schemaVersion
  createdAt := document.createdAt.unmarshal
  attempts := document.attempts
  nextAttemptAt := document.nextAttemptAt.map Rfc3339.unmarshal
  lastErrorClass := .ofChars document.lastErrorClass
  batch := document.batch.unmarshal

/-- `validErrorClass`. -/
def errorClasses : List String := ["network", "timeout", "rate-limit", "server", "temporary"]

def validErrorClass (value : GoString) : Bool := errorClasses.any fun name => value = GoString.ofText name

/-- `unicode.ToLower` as far as it gives ASCII letters, which the sign for kelvin and the dotted I have too. -/
def lowerRune (c : Char) : Char :=
  if c.toNat = 0x212A then 'k' else if c.toNat = 0x130 then 'i' else c.toLower

/-- `cleanErrorClass`. -/
def cleanErrorClass (value : GoString) : GoString :=
  let lowered := (trimSpace value.runes).map lowerRune
  if errorClasses.any fun name => lowered = name.toList then .ofChars lowered else .ofText "temporary"

section

/-- `readEntriesBounded`. -/
def Directory.scan (d : Directory) : Except String (List FileName) := do
  require (d.size ≤ maxScanEntries) "spool directory entry count exceeds safety limit"
  return d.entries.map Prod.fst

structure Stats where
  items : Nat
  bytes : Nat

/-- `statsLocked`; its capacity ratio has no part in the limits. -/
def Directory.stats (d : Directory) : Except String Stats := do
  let names ← d.scan
  return {
    items := names.countP (·.pendingName?.isSome)
    bytes := (d.entries.map (·.2.size)).sum }

/-- `pendingNames`. -/
def Directory.pendingNames (d : Directory) : Except String (List EntryName) := do
  let names ← d.scan
  return (names.filterMap FileName.pendingName?).insertionSort (· ≤ ·)

/-- `readEnvelope`, with the time that the clock of the machine shows it. -/
def Directory.readEnvelope (d : Directory) (name : FileName) (wall : Instant) : Except String Envelope := do
  let some file := d.get? name
    | throw "file does not exist"
  require (1 ≤ file.size && file.size ≤ maxEntryBytes) "spool entry has invalid size"
  let some document := file.document
    | throw "decode spool entry"
  let item := document.unmarshal
  require (item.schemaVersion = GoString.ofText spoolVersion && !item.createdAt.isZero && 0 ≤ item.attempts &&
    item.attempts ≤ maxAttempts) "spool metadata is invalid"
  require (item.attempts ≠ 0 || item.nextAttemptAt.isNone && item.lastErrorClass = []) "spool retry metadata is invalid"
  require (item.attempts ≤ 0 || item.nextAttemptAt.isSome && validErrorClass item.lastErrorClass)
    "spool retry metadata is invalid"
  require (item.nextAttemptAt.all fun next => next.instant ≤ wall + maxRetryDelay)
    "spool retry timestamp exceeds safety limit"
  item.batch.validate
  return item

/-- `atomicWrite`, over a temporary file of the given name. -/
def Directory.atomicWrite (d : Directory) (name : FileName) (file : File) (replace : Bool) (random : BitVec 128) :
    Except SpoolError Unit × Directory :=
  if maxEntryBytes < file.size then (.error (.other "invalid or oversized spool entry"), d)
  else if (d.get? (.temporary random)).isSome then (.error (.other "create spool temporary file"), d)
  else
    let written : Directory := d.set (.temporary random) file
    if !replace && (written.get? name).isSome then
      (.error (.other "spool entry already exists"), written.erase (.temporary random))
    else (.ok (), written.rename (.temporary random) name)

variable (floatLength : ℚ → Nat)

/-- The bytes of `json.Marshal` of an envelope. -/
def Envelope.jsonLength (item : Envelope) (document : WireEnvelope) : Nat := listLength (
  [fieldLength "schema_version" item.schemaVersion.jsonLength,
    fieldLength "created_at" document.createdAt.jsonLength,
    fieldLength "attempts" (naturalLength item.attempts.toNat)] ++
  document.nextAttemptAt.toList.map (fun next => fieldLength "next_attempt_at" next.jsonLength) ++
  optionalLength "last_error_class" item.lastErrorClass ++
  [fieldLength "batch" (item.batch.jsonLength floatLength document.batch.observedAt)])

/-- The envelope of a batch before its first attempt. -/
def firstEnvelope (batch : Batch) (now : Instant) : Envelope where
  schemaVersion := .ofText spoolVersion
  createdAt := ⟨now, 0⟩
  attempts := 0
  nextAttemptAt := none
  lastErrorClass := []
  batch := batch

/-- An encoded envelope and the bytes of its JSON, before the newline that its file ends with. -/
structure Encoded where
  length : Nat
  document : WireEnvelope

def Encoded.file (data : Encoded) : File := ⟨data.length + 1, some data.document⟩

/-- What `Enqueue` encodes before it looks at the directory. -/
def encodeFirst (batch : Batch) (now : Instant) : Except SpoolError Encoded := do
  require (now ≠ 0) (.other "spool creation timestamp is required")
  batch.validate.mapError .other
  let payload := firstEnvelope batch now
  let document ← payload.marshal.mapError .other
  let length := payload.jsonLength floatLength document
  require (length ≤ maxEntryBytes) (.other "spool entry exceeds size limit")
  return ⟨length, document⟩

/-- The check of `Enqueue` against the limits of the queue. -/
def Directory.admit (d : Directory) (config : Config) (data : Encoded) : Except SpoolError Unit := do
  let stats ← d.stats.mapError .other
  require (stats.items < config.maxItems && stats.bytes + data.length ≤ config.maxBytes) .full

/-- `Enqueue`, over the random bytes of the entry's name and of its temporary file's. -/
def Directory.enqueue (d : Directory) (config : Config) (batch : Batch) (now : Instant) (random temporary : BitVec 128) :
    Except SpoolError EntryName × Directory :=
  match (do let data ← encodeFirst floatLength batch now; d.admit config data; return data : Except SpoolError Encoded) with
  | .error error => (.error error, d)
  | .ok data =>
    let result := d.atomicWrite (.entry ⟨now, random⟩) data.file false temporary
    (result.1.map fun _ => ⟨now, random⟩, result.2)

/-- `Entry`. -/
structure Entry where
  name : EntryName
  batch : Batch
  attempts : Int
  nextAttemptAt : GoTime
  lastErrorClass : GoString
deriving DecidableEq, Repr

/-- `timeValue`. -/
def timeValue (value : Option GoTime) : GoTime := value.elim ⟨0, 0⟩ fun t => ⟨t.instant, 0⟩

variable (digest : EntryName → BitVec 64)

/-- The loop of `Next` over the names that are left, of which it reads the first when the clock shows `wall i`. -/
def Directory.nextFrom (d : Directory) (now : Instant) (wall : Nat → Instant) (random : BitVec 128) (i : Nat) :
    List EntryName → Except SpoolError Entry × Directory
  | [] => (.error .empty, d)
  | name :: rest =>
    match d.readEnvelope (.entry name) (wall i) with
    | .error cause => (.error (.corrupt cause), d.rename (.entry name) (.quarantined (digest name) random))
    | .ok item =>
      if item.nextAttemptAt.any fun next => now < next.instant then d.nextFrom now wall random (i + 1) rest
      else
        (.ok ⟨name, item.batch, item.attempts, timeValue item.nextAttemptAt, item.lastErrorClass⟩, d)

/-- `Next`. -/
def Directory.next (d : Directory) (now : Instant) (wall : Nat → Instant) (random : BitVec 128) :
    Except SpoolError Entry × Directory :=
  match d.pendingNames with
  | .error error => (.error (.other error), d)
  | .ok names => d.nextFrom digest now wall random 0 names

/-- An envelope after one more attempt. -/
def Envelope.retried (current : Envelope) (nextAttempt : Instant) (errorClass : GoString) : Envelope :=
  { current with
    attempts := current.attempts + 1
    nextAttemptAt := some ⟨nextAttempt, 0⟩
    lastErrorClass := cleanErrorClass errorClass }

/-- What `RecordRetry` encodes; the clock shows `guarded` to its own check and `wall` to the reading of the entry. -/
def Directory.encodeRetry (d : Directory) (name : FileName) (nextAttempt : Instant) (errorClass : GoString)
    (guarded wall : Instant) : Except SpoolError Encoded := do
  require (nextAttempt ≠ 0 && nextAttempt ≤ guarded + maxRetryDelay) (.other "invalid spool retry metadata")
  let current ← (d.readEnvelope name wall).mapError .other
  require (current.attempts < maxAttempts) (.other "spool retry limit reached")
  let next := current.retried nextAttempt errorClass
  let document ← next.marshal.mapError .other
  return ⟨next.jsonLength floatLength document, document⟩

/-- `RecordRetry`. -/
def Directory.recordRetry (d : Directory) (name : FileName) (nextAttempt : Instant) (errorClass : GoString)
    (guarded wall : Instant) (temporary : BitVec 128) : Except SpoolError Unit × Directory :=
  match d.encodeRetry floatLength name nextAttempt errorClass guarded wall with
  | .error error => (.error error, d)
  | .ok data => d.atomicWrite name data.file true temporary

/-- `Remove`. -/
def Directory.remove (d : Directory) (name : FileName) : Except SpoolError Unit × Directory :=
  match d.get? name with
  | none => (.error (.other "file does not exist"), d)
  | some _ => (.ok (), d.erase name)

end

/-- The calls on an open queue, each with what the machine's clock and its random source give it. -/
inductive Call where
  | enqueue (batch : Batch) (now : Instant) (random temporary : BitVec 128)
  | next (now : Instant) (wall : Nat → Instant) (random : BitVec 128)
  | recordRetry (name : FileName) (nextAttempt : Instant) (errorClass : GoString) (guarded wall : Instant)
      (temporary : BitVec 128)
  | remove (name : FileName)

namespace Directory

variable (floatLength : ℚ → Nat) (digest : EntryName → BitVec 64) (config : Config)

/-- The directory after a call. -/
def after (d : Directory) : Call → Directory
  | .enqueue batch now random temporary => (d.enqueue floatLength config batch now random temporary).2
  | .next now wall random => (d.next digest now wall random).2
  | .recordRetry name nextAttempt errorClass guarded wall temporary =>
    (d.recordRetry floatLength name nextAttempt errorClass guarded wall temporary).2
  | .remove name => (d.remove name).2

/-- Two directories with the same files. -/
def SameFiles (d e : Directory) : Prop := ∀ name, d.get? name = e.get? name

variable {d d' : Directory}

theorem SameFiles.rfl : SameFiles d d := fun _ => Eq.refl _

theorem get?_set (d : Directory) (name other : FileName) (file : File) :
    (d.set name file).get? other = if other = name then some file else d.get? other :=
  d.get?_update name other fun _ => file

theorem atomicWrite_cases {name : FileName} {file : File} {replace : Bool} {random : BitVec 128}
    (apart : d.get? (.temporary random) = none → name ≠ .temporary random) :
    (∃ message, (d.atomicWrite name file replace random).1 = .error (.other message) ∧
      SameFiles (d.atomicWrite name file replace random).2 d) ∨
    ((d.atomicWrite name file replace random).1 = .ok () ∧ file.size ≤ maxEntryBytes ∧
      (replace = true ∨ d.get? name = none) ∧ SameFiles (d.atomicWrite name file replace random).2 (d.set name file)) := by
  unfold atomicWrite
  by_cases large : maxEntryBytes < file.size
  · rw [if_pos large]
    exact .inl ⟨_, rfl, .rfl⟩
  · rw [if_neg large]
    by_cases taken : (d.get? (.temporary random)).isSome = true
    · rw [if_pos taken]
      exact .inl ⟨_, rfl, .rfl⟩
    · rw [if_neg taken]
      have free : d.get? (.temporary random) = none := by simpa using taken
      have other := apart free
      have here : (d.set (.temporary random) file).get? name = d.get? name := by
        rw [get?_set, if_neg other]
      have written : (d.set (.temporary random) file).get? (.temporary random) = some file := by
        rw [get?_set, if_pos rfl]
      dsimp only
      rw [here]
      by_cases exists_ : (!replace && (d.get? name).isSome) = true
      · rw [if_pos exists_]
        left
        refine ⟨_, rfl, fun k => ?_⟩
        show ((d.set (.temporary random) file).erase (.temporary random)).get? k = d.get? k
        rw [Dict.get?_erase, get?_set]
        split
        · rename_i same
          rw [same, free]
        · rfl
      · rw [if_neg exists_]
        right
        refine ⟨rfl, not_lt.mp large, ?_, fun k => ?_⟩
        · cases replace with
          | true => exact .inl rfl
          | false => exact .inr (by simpa using exists_)
        · show ((d.set (.temporary random) file).rename (.temporary random) name).get? k = (d.set name file).get? k
          rw [Dict.get?_rename _ written, get?_set, get?_set]
          split
          · rfl
          · split
            · rename_i same
              rw [same, free]
            · rfl

theorem enqueue_eq (d : Directory) (batch : Batch) (now : Instant) (random temporary : BitVec 128) :
    (∃ error, d.enqueue floatLength config batch now random temporary = (.error error, d)) ∨
    ∃ data, encodeFirst floatLength batch now = .ok data ∧ d.admit config data = .ok () ∧
      d.enqueue floatLength config batch now random temporary =
        ((d.atomicWrite (.entry ⟨now, random⟩) data.file false temporary).1.map fun _ => ⟨now, random⟩,
          (d.atomicWrite (.entry ⟨now, random⟩) data.file false temporary).2) := by
  unfold enqueue
  cases encoded : encodeFirst floatLength batch now with
  | error error => exact .inl ⟨error, rfl⟩
  | ok data =>
    cases admitted : d.admit config data with
    | error error =>
      left
      refine ⟨error, ?_⟩
      simp only [bind, Except.bind, admitted]
    | ok done =>
      right
      refine ⟨data, rfl, admitted, ?_⟩
      simp only [bind, Except.bind, admitted, pure, Except.pure]

theorem recordRetry_eq (d : Directory) (name : FileName) (nextAttempt : Instant) (errorClass : GoString)
    (guarded wall : Instant) (temporary : BitVec 128) :
    (∃ error, d.recordRetry floatLength name nextAttempt errorClass guarded wall temporary = (.error error, d)) ∨
    ∃ data, d.encodeRetry floatLength name nextAttempt errorClass guarded wall = .ok data ∧
      d.recordRetry floatLength name nextAttempt errorClass guarded wall temporary =
        d.atomicWrite name data.file true temporary := by
  unfold recordRetry
  cases encoded : d.encodeRetry floatLength name nextAttempt errorClass guarded wall with
  | error error => exact .inl ⟨error, rfl⟩
  | ok data => exact .inr ⟨data, rfl, rfl⟩

theorem get?_of_read {name : FileName} {wall : Instant} {item : Envelope} (read : d.readEnvelope name wall = .ok item) :
    ∃ file, d.get? name = some file := by
  unfold readEnvelope at read
  cases found : d.get? name with
  | none =>
    rw [found] at read
    cases read
  | some file => exact ⟨file, rfl⟩

theorem get?_of_encodeRetry {name : FileName} {nextAttempt : Instant} {errorClass : GoString} {guarded wall : Instant}
    {data : Encoded} (encoded : d.encodeRetry floatLength name nextAttempt errorClass guarded wall = .ok data) :
    ∃ file, d.get? name = some file := by
  simp only [encodeRetry, require_bind_eq_ok] at encoded
  obtain ⟨item, read, -⟩ := bind_eq_ok.mp encoded.2
  exact get?_of_read (mapError_eq_ok.mp read)

theorem nextFrom_cases (d : Directory) (now : Instant) (wall : Nat → Instant) (random : BitVec 128) (i : Nat)
    (names : List EntryName) :
    (d.nextFrom digest now wall random i names).2 = d ∨
    ∃ name ∈ names, (d.nextFrom digest now wall random i names).2 =
      d.rename (.entry name) (.quarantined (digest name) random) := by
  induction names generalizing i with
  | nil => exact .inl rfl
  | cons name rest ih =>
    unfold nextFrom
    cases d.readEnvelope (.entry name) (wall i) with
    | error cause => exact .inr ⟨name, List.mem_cons_self, rfl⟩
    | ok item =>
      dsimp only
      split
      · rcases ih (i + 1) with same | ⟨other, member, moved⟩
        · exact .inl same
        · exact .inr ⟨other, List.mem_cons_of_mem _ member, moved⟩
      · exact .inl rfl

end Directory

end OpenAssetWatch.Sensor
