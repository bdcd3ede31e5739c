import OpenAssetWatch.Sensor.SpoolCapacity

namespace OpenAssetWatch.Sensor

open Library

/-- When the process dies in a call: before it creates its temporary file, while that file holds `left`, or once it is renamed. -/
inductive CrashPoint where
  | before
  | during (left : File)
  | past

/-- What happens to a spool: calls, crashes, damaged files, and openings that may crash after some renames. -/
inductive Event where
  | perform (call : Call)
  | crash (call : Call) (point : CrashPoint)
  | damage (name : FileName) (file : File)
  | open_ (randoms : Nat → BitVec 128) (crash : Option Nat)

/-- The directory and whether a process has the queue open. -/
structure Machine where
  directory : Directory
  opened : Bool

/-- The call of an event that gets as far as its temporary file, if it has one. -/
def Event.writer? : Event → Option Call
  | .perform call => some call
  | .crash call (.during _) => some call
  | .crash call .past => some call
  | .crash _ .before => none
  | .damage _ _ => none
  | .open_ _ _ => none

def FileName.isTemporary : FileName → Bool
  | .temporary _ => true
  | .entry _ => false
  | .quarantined _ _ => false

namespace Directory

section

variable (digest : FileName → BitVec 64)

/-- The renames of `recoverTemps`, of which the first takes the random bytes `randoms i`. -/
def quarantineTemps (randoms : Nat → BitVec 128) (i : Nat) (d : Directory) : List FileName → Directory
  | [] => d
  | name :: rest => quarantineTemps randoms (i + 1) (d.rename name (.quarantined (digest name) (randoms i))) rest

/-- `recoverTemps`, which a crash may stop after so many renames. -/
def recoverTemps (d : Directory) (randoms : Nat → BitVec 128) (crash : Option Nat) : Except String Directory := do
  let names ← d.scan
  let temporary := names.filter (·.isTemporary)
  return quarantineTemps digest randoms 0 d (temporary.take (crash.getD temporary.length))

variable (floatLength : ℚ → Nat) (config : Config)

/-- The temporary file that is created for encoded bytes. -/
def temporaryFor (d : Directory) (temporary : BitVec 128) : Except SpoolError Encoded → Option (BitVec 128)
  | .error _ => none
  | .ok data => if data.file.size ≤ maxEntryBytes ∧ d.get? (.temporary temporary) = none then some temporary else none

/-- The temporary file that a call creates, if it gets as far. -/
def temporaryOf (d : Directory) : Call → Option (BitVec 128)
  | .enqueue batch now _ temporary =>
    d.temporaryFor temporary (do let data ← encodeFirst floatLength batch now; d.admit config data; return data)
  | .recordRetry name nextAttempt errorClass guarded wall temporary =>
    d.temporaryFor temporary (d.encodeRetry floatLength name nextAttempt errorClass guarded wall)
  | .next _ _ _ => none
  | .remove _ => none

/-- The directory that a crash in a call leaves behind. -/
def crashed (d : Directory) (call : Call) : CrashPoint → Directory
  | .before => d
  | .during left => (d.temporaryOf floatLength config call).elim d fun temporary => d.set (.temporary temporary) left
  | .past => d.after floatLength (fun name => digest (.entry name)) config call

end

end Directory

section

variable (floatLength : ℚ → Nat) (digest : FileName → BitVec 64) (config : Config)

/-- One event. Calls and crashes happen to an open queue, and `Open` fails where the directory cannot be scanned. -/
def Machine.step (m : Machine) : Event → Machine
  | .perform call =>
    if m.opened then ⟨m.directory.after floatLength (fun name => digest (.entry name)) config call, true⟩ else m
  | .crash call point =>
    if m.opened then ⟨m.directory.crashed digest floatLength config call point, false⟩ else m
  | .damage name file => if (m.directory.get? name).isSome then { m with directory := m.directory.set name file } else m
  | .open_ randoms crash =>
    if m.opened then m
    else
      match m.directory.recoverTemps digest randoms crash with
      | .error _ => m
      | .ok directory => ⟨directory, crash.isNone⟩

/-- What one event leaves in order: the directory never holds more files than a scan admits, also while the event has its
    temporary file, so that the next scan succeeds. -/
structure Machine.Contained (m : Machine) (event : Event) : Prop where
  meanwhile : m.opened = true → ∀ call ∈ event.writer?, ∀ temporary ∈ m.directory.temporaryOf floatLength config call,
    ∀ left, (m.directory.set (.temporary temporary) left).size ≤ maxScanEntries
  afterwards : (m.step floatLength digest config event).directory.size ≤ maxScanEntries
  scanned : ∃ names, (m.step floatLength digest config event).directory.scan = .ok names

/-- No call creates its temporary file in a directory that is as large as a scan admits. -/
def Machine.Roomy (m : Machine) (event : Event) : Prop :=
  m.opened = true → ∀ call ∈ event.writer?, (m.directory.temporaryOf floatLength config call).isSome = true →
    m.directory.size < maxScanEntries

end

namespace Directory

variable {digest : FileName → BitVec 64} {floatLength : ℚ → Nat} {config : Config} {d e : Directory}

theorem size_eq_total (d : Directory) : d.size = d.total fun _ _ => 1 := by
  unfold Dict.size Dict.total
  rw [List.map_const', List.sum_replicate, smul_eq_mul, Nat.mul_one]

theorem SameFiles.size (same : SameFiles d e) : d.size = e.size := by
  rw [size_eq_total, size_eq_total]
  exact Dict.total_congr _ same

theorem size_set (d : Directory) (name : FileName) (file : File) :
    (d.set name file : Directory).size = if (d.get? name).isSome then d.size else d.size + 1 := by
  have counted := Dict.total_set (fun _ _ => 1) d name file
  rw [← size_eq_total, ← size_eq_total] at counted
  cases found : d.get? name with
  | none =>
    have nothing : d.weightAt (fun _ _ => 1) name = 0 := by
      rw [Dict.weightAt, found]
      rfl
    rw [nothing] at counted
    exact counted
  | some old =>
    have one : d.weightAt (fun _ _ => 1) name = 1 := by
      rw [Dict.weightAt, found]
      rfl
    rw [one] at counted
    exact Nat.add_right_cancel counted

theorem size_erase_le (d : Directory) (name : FileName) : (d.erase name : Directory).size ≤ d.size := by
  have counted := Dict.total_erase (fun _ _ => 1) d name
  rw [← size_eq_total, ← size_eq_total] at counted
  omega

theorem size_rename_le (d : Directory) {old new : FileName} (apart : new ≠ old) : (d.rename old new : Directory).size ≤ d.size := by
  cases found : d.get? old with
  | none =>
    unfold Dict.rename
    rw [found]
  | some file =>
    have counted := Dict.total_rename (fun _ _ => 1) d found apart
    rw [← size_eq_total, ← size_eq_total] at counted
    omega

theorem size_quarantineTemps (randoms : Nat → BitVec 128) (i : Nat) (d : Directory) {names : List FileName}
    (temporary : ∀ name ∈ names, name.isTemporary = true) : (quarantineTemps digest randoms i d names).size ≤ d.size := by
  induction names generalizing i d with
  | nil => exact le_rfl
  | cons name rest ih =>
    have apart : FileName.quarantined (digest name) (randoms i) ≠ name := by
      intro same
      have moved := temporary name List.mem_cons_self
      rw [← same] at moved
      exact absurd moved Bool.noConfusion
    exact (ih (i + 1) _ fun other member => temporary other (List.mem_cons_of_mem _ member)).trans (size_rename_le d apart)

theorem size_recoverTemps {randoms : Nat → BitVec 128} {crash : Option Nat} (recovered : d.recoverTemps digest randoms crash = .ok e) :
    e.size ≤ d.size := by
  unfold recoverTemps at recovered
  obtain ⟨names, -, done⟩ := bind_eq_ok.mp recovered
  rw [← Except.ok.inj done]
  apply size_quarantineTemps
  intro name member
  exact (List.mem_filter.mp (List.mem_of_mem_take member)).2

theorem temporaryFor_free {data : Except SpoolError Encoded} {random temporary : BitVec 128}
    (made : d.temporaryFor random data = some temporary) : d.get? (.temporary temporary) = none := by
  cases data with
  | error error => cases made
  | ok data =>
    unfold temporaryFor at made
    obtain ⟨free, same⟩ := Option.ite_none_right_eq_some.mp made
    rw [← Option.some.inj same]
    exact free.2

theorem temporaryOf_free {call : Call} {temporary : BitVec 128} (made : d.temporaryOf floatLength config call = some temporary) :
    d.get? (.temporary temporary) = none := by
  cases call with
  | enqueue batch now random temporary' => exact temporaryFor_free made
  | recordRetry name nextAttempt errorClass guarded wall temporary' => exact temporaryFor_free made
  | next now wall random => cases made
  | remove name => cases made

theorem temporaryFor_of_write {name : FileName} {data : Encoded} {replace : Bool} {random : BitVec 128}
    (done : (d.atomicWrite name data.file replace random).1 = .ok ()) : d.temporaryFor random (.ok data) = some random := by
  unfold atomicWrite at done
  split at done
  · cases done
  · rename_i small
    split at done
    · cases done
    · rename_i free
      exact if_pos ⟨not_lt.mp small, by simpa using free⟩

theorem size_atomicWrite {name : FileName} (data : Encoded) (replace : Bool) {random : BitVec 128}
    (apart : d.get? (.temporary random) = none → name ≠ .temporary random) :
    (d.atomicWrite name data.file replace random).2.size ≤ d.size ∨
      (d.get? name = none ∧ d.temporaryFor random (.ok data) = some random ∧
        (d.atomicWrite name data.file replace random).2.size = d.size + 1) := by
  have result : SameFiles (d.atomicWrite name data.file replace random).2 d ∨
      (d.atomicWrite name data.file replace random).1 = .ok () ∧
        SameFiles (d.atomicWrite name data.file replace random).2 (d.set name data.file) := by
    rcases atomicWrite_cases apart with ⟨message, -, same⟩ | ⟨done, -, -, same⟩
    · exact .inl same
    · exact .inr ⟨done, same⟩
  rcases result with same | ⟨done, same⟩
  · exact .inl same.size.le
  · have counted := same.size
    rw [size_set] at counted
    cases found : d.get? name with
    | none =>
      rw [found] at counted
      exact .inr ⟨rfl, temporaryFor_of_write done, counted⟩
    | some old =>
      rw [found] at counted
      exact .inl counted.le

variable (floatLength config) in
theorem size_after (digest : EntryName → BitVec 64) (d : Directory) (call : Call) :
    (d.after floatLength digest config call).size ≤ d.size ∨
      (d.temporaryOf floatLength config call).isSome = true ∧ (d.after floatLength digest config call).size = d.size + 1 := by
  cases call with
  | enqueue batch now random temporary =>
    show (d.enqueue floatLength config batch now random temporary).2.size ≤ d.size ∨
      _ ∧ (d.enqueue floatLength config batch now random temporary).2.size = d.size + 1
    rcases enqueue_eq floatLength config d batch now random temporary with ⟨error, same⟩ | ⟨data, encoded, admitted, same⟩
    · rw [same]
      exact .inl le_rfl
    · rw [same]
      have apart : d.get? (.temporary temporary) = none → FileName.entry ⟨now, random⟩ ≠ .temporary temporary :=
        fun _ => FileName.noConfusion
      rcases size_atomicWrite data false apart with less | ⟨-, made, more⟩
      · exact .inl less
      · right
        refine ⟨?_, more⟩
        show (d.temporaryFor temporary (do let data ← encodeFirst floatLength batch now; d.admit config data; return data)).isSome = true
        rw [encoded]
        simp only [bind, Except.bind, admitted, pure, Except.pure]
        rw [made]
        rfl
  | recordRetry name nextAttempt errorClass guarded wall temporary =>
    show (d.recordRetry floatLength name nextAttempt errorClass guarded wall temporary).2.size ≤ d.size ∨
      _ ∧ (d.recordRetry floatLength name nextAttempt errorClass guarded wall temporary).2.size = d.size + 1
    rcases recordRetry_eq floatLength d name nextAttempt errorClass guarded wall temporary with ⟨error, same⟩ | ⟨data, encoded, same⟩
    · rw [same]
      exact .inl le_rfl
    · rw [same]
      obtain ⟨file, present⟩ := get?_of_encodeRetry floatLength encoded
      have apart : d.get? (.temporary temporary) = none → name ≠ .temporary temporary := by
        rintro free rfl
        rw [present] at free
        cases free
      rcases size_atomicWrite data true apart with less | ⟨absent, -, -⟩
      · exact .inl less
      · rw [present] at absent
        cases absent
  | next now wall random =>
    left
    show (d.next digest now wall random).2.size ≤ d.size
    unfold Directory.next
    cases d.pendingNames with
    | error error => exact le_rfl
    | ok names =>
      rcases nextFrom_cases digest d now wall random 0 names with same | ⟨name, -, moved⟩
      · show (d.nextFrom digest now wall random 0 names).2.size ≤ d.size
        rw [same]
      · show (d.nextFrom digest now wall random 0 names).2.size ≤ d.size
        rw [moved]
        exact size_rename_le d FileName.noConfusion
  | remove name =>
    left
    show (d.remove name).2.size ≤ d.size
    unfold Directory.remove
    cases d.get? name with
    | none => exact le_rfl
    | some file => exact size_erase_le d name

theorem scan_of_size (small : d.size ≤ maxScanEntries) : ∃ names, d.scan = .ok names :=
  ⟨_, require_bind_eq_ok.mpr ⟨decide_eq_true small, rfl⟩⟩

end Directory

namespace Machine

variable {digest : FileName → BitVec 64} {floatLength : ℚ → Nat} {config : Config} {m : Machine} {event : Event}

variable (floatLength digest config) in
theorem size_step (m : Machine) (event : Event) :
    (m.step floatLength digest config event).directory.size ≤ m.directory.size ∨
      (m.opened = true ∧ ∃ call ∈ event.writer?, (m.directory.temporaryOf floatLength config call).isSome = true) ∧
        (m.step floatLength digest config event).directory.size = m.directory.size + 1 := by
  cases event with
  | perform call =>
    rw [step]
    by_cases opened : m.opened = true
    · rw [if_pos opened]
      rcases Directory.size_after floatLength config (fun name => digest (.entry name)) m.directory call with
        less | ⟨made, more⟩
      · exact .inl less
      · exact .inr ⟨⟨opened, call, rfl, made⟩, more⟩
    · rw [if_neg opened]
      exact .inl le_rfl
  | crash call point =>
    rw [step]
    by_cases opened : m.opened = true
    · rw [if_pos opened]
      cases point with
      | before => exact .inl le_rfl
      | during left =>
        show (((m.directory.temporaryOf floatLength config call).elim m.directory fun temporary =>
            m.directory.set (.temporary temporary) left : Directory).size ≤ m.directory.size) ∨
          _ ∧ ((m.directory.temporaryOf floatLength config call).elim m.directory fun temporary =>
            m.directory.set (.temporary temporary) left : Directory).size = m.directory.size + 1
        cases made : m.directory.temporaryOf floatLength config call with
        | none => exact .inl le_rfl
        | some temporary =>
          right
          refine ⟨⟨opened, call, rfl, by rw [made]; rfl⟩, ?_⟩
          rw [Option.elim_some, Directory.size_set, Directory.temporaryOf_free made]
          rfl
      | past =>
        rcases Directory.size_after floatLength config (fun name => digest (.entry name)) m.directory
          call with less | ⟨made, more⟩
        · exact .inl less
        · exact .inr ⟨⟨opened, call, rfl, made⟩, more⟩
    · rw [if_neg opened]
      exact .inl le_rfl
  | damage name file =>
    left
    rw [step]
    by_cases present : (m.directory.get? name).isSome = true
    · rw [if_pos present]
      show (m.directory.set name file : Directory).size ≤ m.directory.size
      rw [Directory.size_set, if_pos present]
    · rw [if_neg present]
  | open_ randoms crash =>
    left
    rw [step]
    by_cases opened : m.opened = true
    · rw [if_pos opened]
    · rw [if_neg opened]
      cases recovered : m.directory.recoverTemps digest randoms crash with
      | error error => exact le_rfl
      | ok directory => exact Directory.size_recoverTemps recovered

theorem contained_iff (small : m.directory.size ≤ maxScanEntries) :
    m.Contained floatLength digest config event ↔ m.Roomy floatLength config event := by
  constructor
  · rintro ⟨meanwhile, -, -⟩ opened call member made
    obtain ⟨temporary, found⟩ := Option.isSome_iff_exists.mp made
    have within := meanwhile opened call member temporary found ⟨0, none⟩
    rw [Directory.size_set, Directory.temporaryOf_free found] at within
    exact within
  · intro roomy
    have afterwards : (m.step floatLength digest config event).directory.size ≤ maxScanEntries := by
      rcases size_step digest floatLength config m event with
        less | ⟨⟨opened, call, member, made⟩, more⟩
      · exact less.trans small
      · rw [more]
        exact roomy opened call member made
    refine ⟨?_, afterwards, Directory.scan_of_size afterwards⟩
    intro opened call member temporary found left
    rw [Directory.size_set, Directory.temporaryOf_free found]
    exact roomy opened call member (by rw [found]; rfl)

section Sample

def sampleTime : Instant := 63_000_000_001 * second

def sampleCreated (i : Nat) : EntryName := ⟨sampleTime, BitVec.ofNat 128 i⟩

/-- A batch is queued, the disk loses the content of its file, and the next delivery finds it out. -/
def sampleLoss (i : Nat) : List Event :=
  [.perform (.enqueue Directory.sampleBatch sampleTime (BitVec.ofNat 128 i) (BitVec.ofNat 128 i)),
    .damage (.entry (sampleCreated i)) ⟨0, none⟩,
    .perform (.next sampleTime (fun _ => sampleTime) (BitVec.ofNat 128 i))]

def sampleLosses : Nat → List Event
  | 0 => []
  | i + 1 => sampleLosses i ++ sampleLoss i

/-- What the sample's losses leave behind. -/
def quarantinedFiles (i : Nat) : List (FileName × File) :=
  (List.range i).map fun j => (.quarantined 0 (BitVec.ofNat 128 j), ⟨0, none⟩)

theorem quarantined_of_mem {i : Nat} {entry : FileName × File} (member : entry ∈ quarantinedFiles i) :
    ∃ j < i, entry = (.quarantined 0 (BitVec.ofNat 128 j), ⟨0, none⟩) := by
  obtain ⟨j, listed, same⟩ := List.mem_map.mp member
  exact ⟨j, List.mem_range.mp listed, same.symm⟩

theorem sample_encodes : ∃ data, encodeFirst Directory.sampleFloatLength Directory.sampleBatch sampleTime = .ok data ∧ data.length = 434 := by
  have length := Directory.sample_length
  cases encoded : encodeFirst Directory.sampleFloatLength Directory.sampleBatch sampleTime with
  | error error =>
    rw [show (63_000_000_001 * second : Instant) = sampleTime from rfl, encoded] at length
    cases length
  | ok data =>
    rw [show (63_000_000_001 * second : Instant) = sampleTime from rfl, encoded] at length
    exact ⟨data, rfl, Option.some.inj length⟩

variable {i : Nat} {d : Directory}

theorem sample_admits (files : d.entries = quarantinedFiles i) (few : i ≤ maxScanEntries) {data : Encoded} (length : data.length = 434) :
    d.admit Directory.roomyConfig data = .ok () := by
  have size : d.size ≤ maxScanEntries := by
    unfold Dict.size
    rw [files, quarantinedFiles, List.length_map, List.length_range]
    exact few
  have items : (d.entries.map Prod.fst).countP (·.pendingName?.isSome) = 0 := by
    rw [List.countP_eq_zero]
    intro name member
    obtain ⟨entry, listed, same⟩ := List.mem_map.mp member
    rw [files] at listed
    obtain ⟨j, -, shape⟩ := quarantined_of_mem listed
    rw [← same, shape]
    exact Bool.false_ne_true
  have bytes : (d.entries.map (·.2.size)).sum = 0 := by
    rw [List.sum_eq_zero_iff]
    intro size member
    obtain ⟨entry, listed, same⟩ := List.mem_map.mp member
    rw [files] at listed
    obtain ⟨j, -, shape⟩ := quarantined_of_mem listed
    rw [← same, shape]
  unfold Directory.admit Directory.stats Directory.scan
  simp only [require, decide_eq_true size, if_true, bind, Except.bind, pure, Except.pure, Except.mapError, items, bytes, length]
  rfl

theorem sample_enqueue (files : d.entries = quarantinedFiles i) (few : i ≤ maxScanEntries) :
    ∃ file, ((d.enqueue Directory.sampleFloatLength Directory.roomyConfig Directory.sampleBatch sampleTime (BitVec.ofNat 128 i)
      (BitVec.ofNat 128 i)).2 : Directory).entries = quarantinedFiles i ++ [(.entry (sampleCreated i), file)] := by
  obtain ⟨data, encoded, length⟩ := sample_encodes
  have admitted := sample_admits files few length
  have other : ∀ name : FileName, (∀ j, name ≠ .quarantined 0 j) → d.get? name = none := by
    intro name apart
    rw [Dict.get?_eq_none, files]
    intro entry member same
    obtain ⟨j, -, shape⟩ := quarantined_of_mem member
    rw [shape] at same
    exact apart _ same.symm
  have free := other (.temporary (BitVec.ofNat 128 i)) fun j => FileName.noConfusion
  have small : ¬ maxEntryBytes < data.file.size := by
    show ¬ maxEntryBytes < data.length + 1
    rw [length]
    decide
  have written := Dict.entries_set_fresh free data.file
  have absent : Dict.get? (d.set (.temporary (BitVec.ofNat 128 i)) data.file) (.entry (sampleCreated i)) = none := by
    rw [Directory.get?_set, if_neg FileName.noConfusion]
    exact other _ fun j => FileName.noConfusion
  refine ⟨data.file, ?_⟩
  have enqueued : (d.enqueue Directory.sampleFloatLength Directory.roomyConfig Directory.sampleBatch sampleTime (BitVec.ofNat 128 i)
      (BitVec.ofNat 128 i)).2 =
      ((d.set (.temporary (BitVec.ofNat 128 i)) data.file).rename (.temporary (BitVec.ofNat 128 i)) (.entry (sampleCreated i)) :
        Directory) := by
    unfold Directory.enqueue
    rw [encoded]
    simp only [bind, Except.bind, admitted, pure, Except.pure]
    unfold Directory.atomicWrite
    rw [if_neg small, free]
    dsimp only [Option.isSome_none]
    rw [if_neg Bool.false_ne_true]
    have absent : Dict.get? (d.set (.temporary (BitVec.ofNat 128 i)) data.file) (.entry ⟨sampleTime, BitVec.ofNat 128 i⟩) = none := absent
    rw [absent]
    rfl
  rw [enqueued]
  rw [← files]
  exact Dict.entries_rename_last written absent

theorem sample_next {file : File} (files : d.entries = quarantinedFiles i ++ [(.entry (sampleCreated i), file)]) (empty : file.size = 0)
    (few : i < maxScanEntries) (fresh : d.get? (.quarantined 0 (BitVec.ofNat 128 i)) = none) :
    ((d.next (fun _ => 0) sampleTime (fun _ => sampleTime) (BitVec.ofNat 128 i)).2 : Directory).entries =
      quarantinedFiles i ++ [(.quarantined 0 (BitVec.ofNat 128 i), file)] := by
  have size : d.size ≤ maxScanEntries := by
    unfold Dict.size
    rw [files, List.length_append, quarantinedFiles, List.length_map, List.length_range]
    exact few
  have pending : d.pendingNames = .ok [sampleCreated i] := by
    have none_quarantined : ((quarantinedFiles i).map Prod.fst).filterMap FileName.pendingName? = [] := by
      rw [List.filterMap_eq_nil_iff]
      intro name member
      obtain ⟨entry, listed, same⟩ := List.mem_map.mp member
      obtain ⟨j, -, shape⟩ := quarantined_of_mem listed
      rw [← same, shape]
      rfl
    unfold Directory.pendingNames Directory.scan
    simp only [require, decide_eq_true size, if_true, bind, Except.bind, pure, Except.pure, files, List.map_append, List.filterMap_append,
      none_quarantined]
    rfl
  have held : d.get? (.entry (sampleCreated i)) = some file := by
    rw [Dict.get?_eq_some, files]
    simp
  have unread : d.readEnvelope (.entry (sampleCreated i)) sampleTime = .error "spool entry has invalid size" := by
    unfold Directory.readEnvelope
    rw [held]
    simp only [empty, require, bind, Except.bind]
    rfl
  have moved : (d.next (fun _ => 0) sampleTime (fun _ => sampleTime) (BitVec.ofNat 128 i)).2 =
      (d.rename (.entry (sampleCreated i)) (.quarantined 0 (BitVec.ofNat 128 i)) : Directory) := by
    unfold Directory.next
    rw [pending]
    dsimp only
    unfold Directory.nextFrom
    rw [unread]
  rw [moved]
  exact Dict.entries_rename_last files fresh

/-- The machine of the sample, whose queue may hold ten items. -/
abbrev sampleMachine : Machine → Event → Machine := Machine.step Directory.sampleFloatLength (fun _ => 0) Directory.roomyConfig

theorem sampleMachine_loss {m : Machine} (opened : m.opened = true) (files : m.directory.entries = quarantinedFiles i)
    (few : i < maxScanEntries) :
    ((sampleLoss i).foldl sampleMachine m).opened = true ∧
      ((sampleLoss i).foldl sampleMachine m).directory.entries = quarantinedFiles (i + 1) := by
  obtain ⟨file, queued⟩ := sample_enqueue files few.le
  have held : (Dict.get? (m.directory.enqueue Directory.sampleFloatLength Directory.roomyConfig Directory.sampleBatch sampleTime
      (BitVec.ofNat 128 i) (BitVec.ofNat 128 i)).2 (.entry (sampleCreated i))).isSome = true := by
    rw [(Dict.get?_eq_some _ _ file).mpr (by rw [queued]; simp)]
    rfl
  have damaged := Dict.entries_set_last queued ⟨0, none⟩
  have fresh : Dict.get? (Dict.set (m.directory.enqueue Directory.sampleFloatLength Directory.roomyConfig Directory.sampleBatch sampleTime
      (BitVec.ofNat 128 i) (BitVec.ofNat 128 i)).2 (.entry (sampleCreated i)) ⟨0, none⟩) (.quarantined 0 (BitVec.ofNat 128 i)) =
      none := by
    rw [Dict.get?_eq_none, damaged]
    intro entry member same
    rcases List.mem_append.mp member with earlier | last
    · obtain ⟨j, less, shape⟩ := quarantined_of_mem earlier
      rw [shape] at same
      have equal := congrArg BitVec.toNat (FileName.quarantined.inj same).2
      rw [BitVec.toNat_ofNat, BitVec.toNat_ofNat, Nat.mod_eq_of_lt, Nat.mod_eq_of_lt] at equal
      · exact absurd equal less.ne
      · exact few.trans (by decide)
      · exact less.trans (few.trans (by decide))
    · rw [List.mem_singleton.mp last] at same
      cases same
  have quarantined := sample_next damaged rfl few fresh
  have walked : (sampleLoss i).foldl sampleMachine m = ⟨(Directory.next (fun _ => 0) (Dict.set
      (m.directory.enqueue Directory.sampleFloatLength Directory.roomyConfig Directory.sampleBatch sampleTime (BitVec.ofNat 128 i)
        (BitVec.ofNat 128 i)).2 (.entry (sampleCreated i)) ⟨0, none⟩) sampleTime (fun _ => sampleTime) (BitVec.ofNat 128 i)).2, true⟩ := by
    unfold sampleLoss
    simp only [List.foldl_cons, List.foldl_nil, step, opened, if_true, Directory.after, held]
  rw [walked]
  refine ⟨rfl, ?_⟩
  rw [quarantined, quarantinedFiles, quarantinedFiles, List.range_succ, List.map_append]
  rfl

theorem sampleMachine_losses (few : i ≤ maxScanEntries) :
    ((sampleLosses i).foldl sampleMachine ⟨Dict.empty, true⟩).opened = true ∧
      ((sampleLosses i).foldl sampleMachine ⟨Dict.empty, true⟩).directory.entries = quarantinedFiles i := by
  induction i with
  | zero => exact ⟨rfl, rfl⟩
  | succ i ih =>
    obtain ⟨opened, files⟩ := ih (Nat.le_of_succ_le few)
    rw [sampleLosses, List.foldl_append]
    exact sampleMachine_loss opened files few

theorem sampleMachine_exceeds (full : i = maxScanEntries) :
    ((sampleLosses i ++ [Event.perform (.enqueue Directory.sampleBatch sampleTime (BitVec.ofNat 128 i) (BitVec.ofNat 128 i))]).foldl
      sampleMachine ⟨Dict.empty, true⟩).directory.size = i + 1 := by
  obtain ⟨opened, files⟩ := sampleMachine_losses full.le
  obtain ⟨file, queued⟩ := sample_enqueue files full.le
  rw [List.foldl_append, List.foldl_cons, List.foldl_nil]
  simp only [step, opened, if_true, Directory.after]
  unfold Dict.size
  rw [queued, List.length_append, quarantinedFiles, List.length_map, List.length_range]
  rfl

end Sample

end Machine

end OpenAssetWatch.Sensor
