import OpenAssetWatch.Library.Run
import OpenAssetWatch.Sensor.Spool

namespace OpenAssetWatch.Sensor

open Library

namespace Directory

/-- The number of entry files. -/
def itemCount (d : Directory) : Nat := d.total fun name _ => if name.pendingName?.isSome then 1 else 0

/-- The bytes of the entry files. -/
def entryBytes (d : Directory) : Nat := d.total fun name file => if name.pendingName?.isSome then file.size else 0

/-- The bytes of all files. -/
def bytes (d : Directory) : Nat := d.total fun _ file => file.size

/-- The entries are within the limits of the queue. -/
structure Within (config : Config) (d : Directory) : Prop where
  items : d.itemCount ≤ config.maxItems
  bytes : d.entryBytes ≤ config.maxBytes

/-- A new entry would be one too many, or would not fit. -/
def Exceeds (config : Config) (d : Directory) (data : Encoded) : Prop :=
  config.maxItems < d.itemCount + 1 ∨ config.maxBytes < d.entryBytes + data.file.size

section

variable {floatLength : ℚ → Nat} {digest : EntryName → BitVec 64} {config : Config} {d e : Directory}

theorem SameFiles.within (same : SameFiles d e) (within : e.Within config) : d.Within config := by
  constructor
  · rw [itemCount, Dict.total_congr _ same]
    exact within.items
  · rw [entryBytes, Dict.total_congr _ same]
    exact within.bytes

theorem entryBytes_le (d : Directory) : d.entryBytes ≤ d.bytes := by
  apply Dict.total_mono
  intro name file
  split <;> omega

theorem stats_eq {stats : Stats} (found : d.stats = .ok stats) : stats.items = d.itemCount ∧ stats.bytes = d.bytes := by
  unfold Directory.stats Directory.scan at found
  rw [bind_eq_ok] at found
  obtain ⟨names, listed, found⟩ := found
  rw [require_bind_eq_ok] at listed
  cases listed.2
  cases found
  exact ⟨Dict.countP_keys _ _, rfl⟩

theorem admit_eq {data : Encoded} (admitted : d.admit config data = .ok ()) :
    d.itemCount < config.maxItems ∧ d.bytes + data.length ≤ config.maxBytes := by
  unfold Directory.admit at admitted
  obtain ⟨stats, found, checked⟩ := bind_eq_ok.mp admitted
  obtain ⟨items, bytes⟩ := stats_eq (mapError_eq_ok.mp found)
  simp only [require_eq_ok, Bool.and_eq_true, decide_eq_true_eq] at checked
  rwa [items, bytes] at checked

theorem itemCount_set (d : Directory) (name : EntryName) (file : File) : itemCount (d.set (.entry name) file) ≤ d.itemCount + 1 := by
  have total := Dict.total_set (fun name (_ : File) => if name.pendingName?.isSome then 1 else 0) d (.entry name) file
  unfold itemCount
  simp only [FileName.pendingName?, Option.isSome_some, if_true] at total ⊢
  omega

theorem itemCount_set_present (d : Directory) {name : FileName} {old : File} (present : d.get? name = some old) (file : File) :
    itemCount (d.set name file) = d.itemCount := by
  have total := Dict.total_set (fun name (_ : File) => if name.pendingName?.isSome then 1 else 0) d name file
  unfold itemCount
  rw [Dict.weightAt, present] at total
  simp only [Option.elim_some] at total
  omega

theorem entryBytes_set (d : Directory) (name : EntryName) (file : File) :
    entryBytes (d.set (.entry name) file) + ((d.get? (.entry name)).elim 0 File.size) = d.entryBytes + file.size := by
  have total := Dict.total_set (fun name (file : File) => if name.pendingName?.isSome then file.size else 0) d (.entry name) file
  unfold entryBytes
  rw [Dict.weightAt] at total
  simpa [FileName.pendingName?] using total

theorem entryBytes_set_other (d : Directory) {name : FileName} (other : name.pendingName? = none) (file : File) :
    entryBytes (d.set name file) = d.entryBytes := by
  have total := Dict.total_set (fun name (file : File) => if name.pendingName?.isSome then file.size else 0) d name file
  unfold entryBytes
  rw [Dict.weightAt] at total
  cases found : d.get? name <;> simpa [other, found] using total

theorem within_erase (within : d.Within config) (name : FileName) : Within config (d.erase name) := by
  constructor
  · have total := Dict.total_erase (fun name (_ : File) => if name.pendingName?.isSome then 1 else 0) d name
    have items := within.items
    unfold itemCount at items ⊢
    omega
  · have total := Dict.total_erase (fun name (file : File) => if name.pendingName?.isSome then file.size else 0) d name
    have bytes := within.bytes
    unfold entryBytes at bytes ⊢
    omega

theorem within_set_other (within : d.Within config) {name : FileName} (other : name.pendingName? = none) (file : File) :
    Within config (d.set name file) := by
  constructor
  · have total := Dict.total_set (fun name (_ : File) => if name.pendingName?.isSome then 1 else 0) d name file
    have items := within.items
    unfold itemCount at items ⊢
    simp only [other] at total
    simp only [Option.isSome_none, Bool.false_eq_true, if_false] at total
    omega
  · rw [entryBytes_set_other d other]
    exact within.bytes

theorem within_quarantine (within : d.Within config) (name : EntryName) (digest : BitVec 64) (random : BitVec 128) :
    Within config (d.rename (.entry name) (.quarantined digest random)) := by
  unfold Dict.rename
  cases d.get? (.entry name) with
  | none => exact within
  | some file => exact within_set_other (within_erase within _) rfl file

theorem within_next (within : d.Within config) (now : Instant) (wall : Nat → Instant) (random : BitVec 128) :
    Within config (d.next digest now wall random).2 := by
  unfold Directory.next
  cases d.pendingNames with
  | error error => exact within
  | ok names =>
    rcases nextFrom_cases digest d now wall random 0 names with same | ⟨name, -, moved⟩
    · show Within config (d.nextFrom digest now wall random 0 names).2
      rwa [same]
    · show Within config (d.nextFrom digest now wall random 0 names).2
      rw [moved]
      exact within_quarantine within name _ _

theorem within_remove (within : d.Within config) (name : FileName) : Within config (d.remove name).2 := by
  unfold Directory.remove
  cases d.get? name with
  | none => exact within
  | some file => exact within_erase within name

end

variable (floatLength : ℚ → Nat) (digest : EntryName → BitVec 64) (config : Config)

/-- The newline after a new entry still fits, and the growth of an entry at a retry does. -/
def Spare (d : Directory) : Call → Prop
  | .enqueue batch now _ _ =>
    ∀ data, encodeFirst floatLength batch now = .ok data → d.bytes = d.entryBytes → d.entryBytes + data.length ≠ config.maxBytes
  | .recordRetry (.entry name) nextAttempt errorClass guarded wall _ =>
    ∀ data, d.encodeRetry floatLength (.entry name) nextAttempt errorClass guarded wall = .ok data →
      d.entryBytes + data.file.size ≤ config.maxBytes + (d.get? (.entry name)).elim 0 File.size
  | _ => True

/-- A call leaves the entries within the limits, and a new entry that would exceed them is refused with no file changed. -/
structure Bounded (d : Directory) (call : Call) : Prop where
  within : Within config (d.after floatLength digest config call)
  refused : ∀ batch now random temporary, call = .enqueue batch now random temporary →
    ∀ data, encodeFirst floatLength batch now = .ok data → d.Exceeds config data →
      ∃ error, d.enqueue floatLength config batch now random temporary = (.error error, d)

section

variable {floatLength digest config} {d : Directory}

theorem not_exceeds {batch : Batch} {now : Instant} {random temporary : BitVec 128} {data : Encoded}
    (spare : Spare floatLength config d (.enqueue batch now random temporary))
    (encoded : encodeFirst floatLength batch now = .ok data) (admitted : d.admit config data = .ok ()) :
    ¬ d.Exceeds config data := by
  obtain ⟨items, bytes⟩ := admit_eq admitted
  have entries := entryBytes_le d
  have apart := spare data encoded
  rintro (many | large)
  · omega
  · change config.maxBytes < d.entryBytes + (data.length + 1) at large
    apply apart
    · omega
    · omega

theorem within_enqueue (within : d.Within config) {batch : Batch} {now : Instant} {random temporary : BitVec 128}
    (spare : Spare floatLength config d (.enqueue batch now random temporary)) :
    Within config (d.enqueue floatLength config batch now random temporary).2 := by
  rcases enqueue_eq floatLength config d batch now random temporary with ⟨error, refused⟩ | ⟨data, encoded, admitted, written⟩
  · rw [refused]
    exact within
  · have apart : d.get? (.temporary temporary) = none → FileName.entry ⟨now, random⟩ ≠ .temporary temporary :=
      fun _ => FileName.noConfusion
    rw [written]
    rcases atomicWrite_cases apart with ⟨message, -, same⟩ | ⟨-, -, -, same⟩
    · exact same.within within
    · apply same.within
      have fits := not_exceeds spare encoded admitted
      unfold Exceeds at fits
      push Not at fits
      constructor
      · exact (itemCount_set d _ _).trans fits.1
      · have total := entryBytes_set d ⟨now, random⟩ data.file
        omega

theorem within_recordRetry (within : d.Within config) {name : FileName} {nextAttempt : Instant} {errorClass : GoString}
    {guarded wall : Instant} {temporary : BitVec 128}
    (spare : Spare floatLength config d (.recordRetry name nextAttempt errorClass guarded wall temporary)) :
    Within config (d.recordRetry floatLength name nextAttempt errorClass guarded wall temporary).2 := by
  rcases recordRetry_eq floatLength d name nextAttempt errorClass guarded wall temporary with
    ⟨error, refused⟩ | ⟨data, encoded, written⟩
  · rw [refused]
    exact within
  · obtain ⟨old, present⟩ := get?_of_encodeRetry floatLength encoded
    have apart : d.get? (.temporary temporary) = none → name ≠ .temporary temporary := by
      rintro free rfl
      rw [free] at present
      cases present
    rw [written]
    rcases atomicWrite_cases apart with ⟨message, -, same⟩ | ⟨-, -, -, same⟩
    · exact same.within within
    · apply same.within
      cases name with
      | entry name =>
        constructor
        · rw [itemCount_set_present d present]
          exact within.items
        · have total := entryBytes_set d name data.file
          have fits := spare data encoded
          rw [present] at total fits
          simp only [Option.elim_some] at total fits
          omega
      | temporary random => exact within_set_other within rfl _
      | quarantined digest random => exact within_set_other within rfl _

theorem bounded_of_spare (within : d.Within config) {call : Call} (spare : Spare floatLength config d call) :
    Bounded floatLength digest config d call := by
  constructor
  · cases call with
    | enqueue batch now random temporary => exact within_enqueue within spare
    | next now wall random => exact within_next within now wall random
    | recordRetry name nextAttempt errorClass guarded wall temporary => exact within_recordRetry within spare
    | remove name => exact within_remove within name
  · rintro batch now random temporary rfl data encoded exceeds
    rcases enqueue_eq floatLength config d batch now random temporary with refused | ⟨other, again, admitted, -⟩
    · exact refused
    · rw [encoded] at again
      cases again
      exact absurd exceeds (not_exceeds spare encoded admitted)

end

section Sample

/-- A batch without assets. -/
def sampleBatch : Batch where
  schemaVersion := .ofText "oaw.observation-batch.v1"
  observationBatchId := .ofText "oaw:first-batch"
  siteId := .ofText "site-demo"
  sensorId := .ofText "sensor-demo"
  sensorName := .ofText "Demo Passive Sensor"
  sensorType := .ofText "passive-network-sensor"
  observedAt := ⟨63_000_000_000 * second, 0⟩
  observationSource := .ofText "passive-network"
  deliveryState := .ofText "live"
  confidence := .finite 1
  assets := some []

/-- The shortest decimals of 0 and 1, and of halves and tenths between them. -/
def sampleFloatLength (value : ℚ) : Nat := if value.den = 1 then 1 else 3

def sampleDigest (name : EntryName) : BitVec 64 := BitVec.ofInt 64 name.createdAt

def roomyConfig : Config := ⟨10, 1000, by decide, by decide, by decide, by decide⟩

/-- A limit of as many bytes as the entry of the sample has without its newline. -/
def exactConfig : Config := ⟨10, 434, by decide, by decide, by decide, by decide⟩

def sampleEnqueue : Call := .enqueue sampleBatch (63_000_000_001 * second) 1 2

theorem empty_within (config : Config) : Within config Dict.empty := ⟨Nat.zero_le _, Nat.zero_le _⟩

theorem sample_length : (encodeFirst sampleFloatLength sampleBatch (63_000_000_001 * second)).toOption.map (·.length) =
    some 434 := by
  decide

end Sample

end Directory

end OpenAssetWatch.Sensor
