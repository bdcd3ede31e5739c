import OpenAssetWatch.Sensor.Wire
import OpenAssetWatch.Sensor.SpoolCapacity

namespace OpenAssetWatch.Sensor

open Library

/-- What an entry was enqueued with, and what its retries have made of it. -/
structure Held where
  batch : Batch
  attempts : Int := 0
  nextAttemptAt : Option Instant := none
  lastErrorClass : GoString := []

/-- The envelope that an entry's file should hold. -/
def Held.envelope (held : Held) (name : EntryName) : Envelope where
  schemaVersion := .ofText spoolVersion
  createdAt := ⟨name.createdAt, 0⟩
  attempts := held.attempts
  nextAttemptAt := held.nextAttemptAt.map fun next => ⟨next, 0⟩
  lastErrorClass := held.lastErrorClass
  batch := held.batch.wireFields

def Held.retried (held : Held) (nextAttempt : Instant) (errorClass : GoString) : Held :=
  { held with
    attempts := held.attempts + 1
    nextAttemptAt := some nextAttempt
    lastErrorClass := cleanErrorClass errorClass }

/-- No retry of the entry is still to wait for. -/
def Held.IsDue (held : Held) (now : Instant) : Prop := ∀ next ∈ held.nextAttemptAt, next ≤ now

/-- A queue, with the batches that it has accepted and not given up. -/
structure Spool where
  directory : Directory
  pending : Dict EntryName Held

namespace Spool

variable (floatLength : ℚ → Nat) (digest : EntryName → BitVec 64) (config : Config)

/-- The queue after a call: what it accepts is pending until it is removed. -/
def step (s : Spool) : Call → Spool
  | .enqueue batch now random temporary =>
    let result := s.directory.enqueue floatLength config batch now random temporary
    ⟨result.2, match result.1 with
      | .ok name => s.pending.set name { batch := batch }
      | .error _ => s.pending⟩
  | .next now wall random => ⟨(s.directory.next digest now wall random).2, s.pending⟩
  | .recordRetry name nextAttempt errorClass guarded wall temporary =>
    let result := s.directory.recordRetry floatLength name nextAttempt errorClass guarded wall temporary
    ⟨result.2, match result.1, name with
      | .ok _, .entry name =>
        match s.pending.get? name with
        | some held => s.pending.set name (held.retried nextAttempt errorClass)
        | none => s.pending
      | _, _ => s.pending⟩
  | .remove name =>
    let result := s.directory.remove name
    ⟨result.2, match result.1, name with
      | .ok _, .entry name => s.pending.erase name
      | _, _ => s.pending⟩

/-- `Next` reads its entries while no retry lies more than a day ahead of the machine's clock. -/
def ReadsInTime (s : Spool) (now : Instant) (wall : Nat → Instant) : Nat → List EntryName → Prop
  | _, [] => True
  | i, name :: rest =>
    ∀ held ∈ s.pending.get? name, (∀ next ∈ held.nextAttemptAt, next ≤ wall i + maxRetryDelay) ∧
      (¬ held.IsDue now → s.ReadsInTime now wall (i + 1) rest)

/-- An accepted batch is text throughout and observed in a zone of whole minutes, and retries are read in time. -/
def Reliable (s : Spool) : Call → Prop
  | .enqueue batch _ _ _ => batch.validate = .ok () → batch.isText = true ∧ batch.observedAt.offset % 60 = 0
  | .next now wall _ => ∀ names, s.directory.pendingNames = .ok names → s.ReadsInTime now wall 0 names
  | _ => True

/-- `Next` gives the oldest entry that is due as it was enqueued, and none when none is due. -/
def NextLaw (s : Spool) (now : Instant) : Except SpoolError Entry → Prop
  | .ok entry => ∃ held, s.pending.get? entry.name = some held ∧ held.IsDue now ∧
      entry.batch.wireFields = held.batch.wireFields ∧ entry.attempts = held.attempts ∧
      entry.nextAttemptAt = ⟨held.nextAttemptAt.getD 0, 0⟩ ∧ entry.lastErrorClass = held.lastErrorClass ∧
      ∀ other waiting, s.pending.get? other = some waiting → waiting.IsDue now → entry.name ≤ other
  | .error error => error = .empty ∧ ∀ name held, s.pending.get? name = some held → ¬ held.IsDue now

/-- The directory holds every pending entry as it was enqueued, and nothing else. -/
structure Keeps (s : Spool) : Prop where
  held : ∀ name held, s.pending.get? name = some held → ∀ wall, (∀ next ∈ held.nextAttemptAt, next ≤ wall + maxRetryDelay) →
    s.directory.readEnvelope (.entry name) wall = .ok (held.envelope name)
  only : ∀ name, (s.directory.get? name).isSome = true → ∃ entry, name = .entry entry ∧ (s.pending.get? entry).isSome = true

/-- What a faithful queue does at a call. -/
structure Faithful (s : Spool) (call : Call) : Prop where
  next : ∀ now wall random, call = .next now wall random → s.NextLaw now (s.directory.next digest now wall random).1
  keeps : (s.step floatLength digest config call).Keeps

/-- What is known of the file of a pending entry. -/
structure Holds (name : EntryName) (held : Held) (file : File) : Prop where
  size : 1 ≤ file.size ∧ file.size ≤ maxEntryBytes
  document : ∃ document, file.document = some document ∧ document.unmarshal = held.envelope name
  created : name.createdAt ≠ 0
  attempts : 0 ≤ held.attempts ∧ held.attempts ≤ maxAttempts
  fresh : held.attempts = 0 → held.nextAttemptAt = none ∧ held.lastErrorClass = []
  retried : 0 < held.attempts → held.nextAttemptAt.isSome = true ∧ validErrorClass held.lastErrorClass = true
  valid : held.batch.validate = .ok ()
  text : held.batch.isText = true
  whole : held.batch.observedAt.offset % 60 = 0

/-- The invariant of a reliable run. -/
structure Good (config : Config) (s : Spool) : Prop where
  held : ∀ name held, s.pending.get? name = some held → ∃ file, s.directory.get? (.entry name) = some file ∧ Holds name held file
  only : ∀ name, (s.directory.get? name).isSome = true → ∃ entry, name = .entry entry ∧ (s.pending.get? entry).isSome = true
  items : s.directory.itemCount ≤ config.maxItems

section

variable {floatLength digest config} {s : Spool} {name : EntryName} {held : Held} {file : File}

theorem isText_wireFields (b : Batch) : b.wireFields.isText = b.isText := by
  unfold Batch.isText Batch.wireFields
  dsimp only
  rw [Option.all_map]
  congr 1
  congr 1
  funext assets
  simp only [List.all_map]
  rfl

theorem wireFields_wireFields (b : Batch) : b.wireFields.wireFields = b.wireFields := by
  unfold Batch.wireFields
  cases b.assets with
  | none => rfl
  | some assets =>
    dsimp only [Option.map_some]
    rw [List.map_map]
    rfl

theorem utc_unmarshal {instant : Instant} {text : Rfc3339} (encoded : GoTime.marshal ⟨instant, 0⟩ = .ok text) :
    text.unmarshal = ⟨instant, 0⟩ :=
  GoTime.unmarshal_marshal encoded rfl

theorem envelope_unmarshal {document : WireEnvelope} {batch : Batch} {attempts : Int} {next : Option Instant} {class_ : GoString}
    (encoded : Envelope.marshal ⟨.ofText spoolVersion, ⟨name.createdAt, 0⟩, attempts, next.map fun next => ⟨next, 0⟩, class_,
      batch⟩ = .ok document)
    (text : batch.isText = true) (whole : batch.observedAt.offset % 60 = 0) (class_text : class_.isValid = true) :
    document.unmarshal = Held.envelope ⟨batch, attempts, next, class_⟩ name := by
  unfold Envelope.marshal at encoded
  obtain ⟨createdAt, created, encoded⟩ := bind_eq_ok.mp encoded
  obtain ⟨nextAttemptAt, nexts, encoded⟩ := bind_eq_ok.mp encoded
  obtain ⟨wire, body, encoded⟩ := bind_eq_ok.mp encoded
  cases encoded
  have version : GoString.ofChars (GoString.ofText spoolVersion).runes = .ofText spoolVersion :=
    GoString.ofChars_runes (GoString.isValid_ofChars _)
  unfold WireEnvelope.unmarshal Held.envelope
  dsimp only
  rw [version, utc_unmarshal created, Batch.unmarshal_marshal body text whole, GoString.ofChars_runes class_text]
  cases next with
  | none =>
    cases nexts
    rfl
  | some next =>
    obtain ⟨written, time, nexts⟩ := bind_eq_ok.mp nexts
    cases nexts
    dsimp only [Option.map_some]
    rw [utc_unmarshal time]

theorem read_eq {wall : Instant} (found : s.directory.get? (.entry name) = some file) (holds : Holds name held file)
    (inTime : ∀ next ∈ held.nextAttemptAt, next ≤ wall + maxRetryDelay) :
    s.directory.readEnvelope (.entry name) wall = .ok (held.envelope name) := by
  obtain ⟨document, stored, decoded⟩ := holds.document
  unfold Directory.readEnvelope
  rw [found]
  simp only [stored, decoded, require_bind_eq_ok]
  refine ⟨?_, ?_, ?_, ?_, ?_, bind_eq_ok.mpr ⟨(), Batch.validate_wireFields holds.valid, rfl⟩⟩
  · exact Bool.and_eq_true_iff.mpr ⟨decide_eq_true holds.size.1, decide_eq_true holds.size.2⟩
  · simp [Held.envelope, GoTime.isZero, holds.created, holds.attempts.1, holds.attempts.2]
  · by_cases zero : held.attempts = 0
    · simp [Held.envelope, holds.fresh zero]
    · simp [Held.envelope, zero]
  · rcases holds.attempts.1.lt_or_eq with positive | zero
    · simp [Held.envelope, holds.retried positive]
    · simp [Held.envelope, ← zero]
  · rw [Option.all_eq_true]
    intro next member
    obtain ⟨instant, waiting, rfl⟩ := Option.map_eq_some_iff.mp member
    exact decide_eq_true (inTime instant waiting)

theorem eq_of_read {wall : Instant} {item : Envelope} (found : s.directory.get? (.entry name) = some file)
    (holds : Holds name held file) (read : s.directory.readEnvelope (.entry name) wall = .ok item) :
    item = held.envelope name := by
  obtain ⟨document, stored, decoded⟩ := holds.document
  unfold Directory.readEnvelope at read
  rw [found] at read
  simp only [stored, decoded, require_bind_eq_ok] at read
  obtain ⟨-, -, -, -, -, read⟩ := read
  obtain ⟨_, -, same⟩ := bind_eq_ok.mp read
  exact (Except.ok.inj same).symm

theorem cleanErrorClass_valid (value : GoString) :
    validErrorClass (cleanErrorClass value) = true ∧ (cleanErrorClass value).isValid = true := by
  unfold cleanErrorClass
  dsimp only
  split
  · rename_i known
    refine ⟨?_, GoString.isValid_ofChars _⟩
    unfold validErrorClass
    rw [List.any_eq_true] at known ⊢
    obtain ⟨name, listed, same⟩ := known
    refine ⟨name, listed, decide_eq_true ?_⟩
    rw [of_decide_eq_true same]
    rfl
  · exact ⟨by decide, GoString.isValid_ofChars _⟩

theorem pendingNames_eq (good : Good config s) :
    ∃ names, s.directory.pendingNames = .ok names ∧ names.Pairwise (· ≤ ·) ∧
      ∀ name, name ∈ names ↔ (s.pending.get? name).isSome = true := by
  have size : s.directory.size = s.directory.itemCount := by
    unfold Dict.size Directory.itemCount Dict.total
    have ones : s.directory.entries.map (fun entry => if entry.1.pendingName?.isSome then 1 else 0) =
        s.directory.entries.map fun _ => 1 := by
      apply List.map_congr_left
      intro entry member
      have found := (s.directory.get?_eq_some entry.1 entry.2).mpr member
      obtain ⟨name, same, -⟩ := good.only entry.1 (by rw [found]; rfl)
      rw [same]
      rfl
    rw [ones, List.map_const', List.sum_replicate, smul_eq_mul, mul_one]
  have few : s.directory.size ≤ maxScanEntries := by
    rw [size]
    exact good.items.trans config.items_le
  let names := (s.directory.entries.map Prod.fst).filterMap FileName.pendingName?
  refine ⟨names.insertionSort (· ≤ ·), ?_, List.pairwise_insertionSort _ _, ?_⟩
  · unfold Directory.pendingNames Directory.scan
    exact bind_eq_ok.mpr ⟨_, require_bind_eq_ok.mpr ⟨decide_eq_true few, rfl⟩, rfl⟩
  · intro name
    rw [List.mem_insertionSort, List.mem_filterMap]
    constructor
    · rintro ⟨fileName, listed, own⟩
      obtain ⟨entry, member, rfl⟩ := List.mem_map.mp listed
      have found := (s.directory.get?_eq_some entry.1 entry.2).mpr member
      obtain ⟨other, same, pending⟩ := good.only entry.1 (by rw [found]; rfl)
      rw [same] at own
      cases own
      exact pending
    · intro pending
      obtain ⟨held, here⟩ := Option.isSome_iff_exists.mp pending
      obtain ⟨file, found, -⟩ := good.held name held here
      exact ⟨.entry name, List.mem_map.mpr ⟨_, (s.directory.get?_eq_some _ _).mp found, rfl⟩, rfl⟩

theorem nextFrom_law (good : Good config s) {now : Instant} {wall : Nat → Instant} {random : BitVec 128} {i : Nat}
    {names : List EntryName} (sorted : names.Pairwise (· ≤ ·)) (pending : ∀ name ∈ names, (s.pending.get? name).isSome = true)
    (inTime : s.ReadsInTime now wall i names) :
    (s.directory.nextFrom digest now wall random i names).2 = s.directory ∧
    match (s.directory.nextFrom digest now wall random i names).1 with
    | .ok entry => ∃ held, s.pending.get? entry.name = some held ∧ held.IsDue now ∧
        entry = ⟨entry.name, held.batch.wireFields, held.attempts, ⟨held.nextAttemptAt.getD 0, 0⟩, held.lastErrorClass⟩ ∧
        ∀ other ∈ names, ∀ waiting, s.pending.get? other = some waiting → waiting.IsDue now → entry.name ≤ other
    | .error error => error = .empty ∧ ∀ name ∈ names, ∀ held, s.pending.get? name = some held → ¬ held.IsDue now := by
  induction names generalizing i with
  | nil => exact ⟨rfl, rfl, fun name member => absurd member List.not_mem_nil⟩
  | cons name rest ih =>
    obtain ⟨held, here⟩ := Option.isSome_iff_exists.mp (pending name List.mem_cons_self)
    obtain ⟨file, found, holds⟩ := good.held name held here
    obtain ⟨near, later⟩ := inTime held here
    obtain ⟨first, sorted⟩ := List.pairwise_cons.mp sorted
    unfold Directory.nextFrom
    rw [read_eq found holds near]
    dsimp only
    have due : ((held.envelope name).nextAttemptAt.any fun next => now < next.instant) = true ↔ ¬ held.IsDue now := by
      unfold Held.envelope Held.IsDue
      cases held.nextAttemptAt <;> simp
    split
    · rename_i later_
      have waits := due.mp later_
      clear later_
      obtain ⟨same, law⟩ := ih sorted (fun other member => pending other (List.mem_cons_of_mem _ member)) (later waits)
      refine ⟨same, ?_⟩
      split at law
      · obtain ⟨own, present, ready, whole, oldest⟩ := law
        refine ⟨own, present, ready, whole, ?_⟩
        intro other member waiting queued dueThen
        rcases List.mem_cons.mp member with rfl | member
        · rw [here] at queued
          cases queued
          exact absurd dueThen waits
        · exact oldest other member waiting queued dueThen
      · refine ⟨law.1, ?_⟩
        intro other member waiting queued
        rcases List.mem_cons.mp member with rfl | member
        · rw [here] at queued
          cases queued
          exact waits
        · exact law.2 other member waiting queued
    · rename_i ready
      have ready : held.IsDue now := by
        by_contra waits
        exact ready (due.mpr waits)
      refine ⟨rfl, held, here, ready, ?_, ?_⟩
      · unfold Held.envelope timeValue
        cases held.nextAttemptAt <;> rfl
      · intro other member _ _ _
        rcases List.mem_cons.mp member with rfl | member
        · exact le_rfl
        · exact first other member

theorem keeps_of_good (good : Good config s) : s.Keeps := by
  constructor
  · intro name held here wall inTime
    obtain ⟨file, found, holds⟩ := good.held name held here
    exact read_eq found holds inTime
  · exact good.only

section

variable {d d' : Directory} {pending : Dict EntryName Held}

theorem Good.of_same (good : Good config ⟨d, pending⟩) (same : Directory.SameFiles d' d) : Good config ⟨d', pending⟩ := by
  constructor
  · intro name held here
    obtain ⟨file, found, holds⟩ := good.held name held here
    exact ⟨file, (same _).trans found, holds⟩
  · intro name present
    apply good.only name
    rwa [← same name]
  · have items := good.items
    unfold Directory.itemCount at items ⊢
    rwa [Dict.total_congr _ same]

theorem Good.set (good : Good config ⟨d, pending⟩) (holds : Holds name held file)
    (items : Directory.itemCount (d.set (.entry name) file) ≤ config.maxItems)
    (same : Directory.SameFiles d' (d.set (.entry name) file)) : Good config ⟨d', pending.set name held⟩ := by
  have files : Good config ⟨d.set (.entry name) file, pending.set name held⟩ := by
    constructor
    · intro other waiting here
      change (pending.set name held).get? other = some waiting at here
      show ∃ file', (d.set (.entry name) file).get? (.entry other) = some file' ∧ Holds other waiting file'
      rw [Dict.set, Dict.get?_update] at here
      rw [Directory.get?_set]
      by_cases own : other = name
      · subst own
        rw [if_pos rfl] at here ⊢
        cases here
        exact ⟨file, rfl, holds⟩
      · rw [if_neg own] at here
        rw [if_neg fun equal => own (FileName.entry.inj equal)]
        exact good.held other waiting here
    · intro other present
      change ((d.set (.entry name) file).get? other).isSome = true at present
      show ∃ entry, other = .entry entry ∧ ((pending.set name held).get? entry).isSome = true
      by_cases own : other = .entry name
      · refine ⟨name, own, ?_⟩
        rw [Dict.set, Dict.get?_update, if_pos rfl]
        rfl
      · rw [Directory.get?_set, if_neg own] at present
        obtain ⟨entry, rfl, queued⟩ := good.only other present
        refine ⟨entry, rfl, ?_⟩
        rw [Dict.set, Dict.get?_update, if_neg fun equal => own (congrArg _ equal)]
        exact queued
    · exact items
  exact files.of_same same

theorem Good.erase (good : Good config ⟨d, pending⟩) (name : EntryName) :
    Good config ⟨d.erase (.entry name), pending.erase name⟩ := by
  constructor
  · intro other waiting here
    change (pending.erase name).get? other = some waiting at here
    rw [Dict.get?_erase] at here
    split at here
    · cases here
    · rename_i apart
      obtain ⟨file, found, holds⟩ := good.held other waiting here
      refine ⟨file, ?_, holds⟩
      show (d.erase (.entry name)).get? (.entry other) = some file
      rw [Dict.get?_erase, if_neg fun equal => apart (FileName.entry.inj equal)]
      exact found
  · intro other present
    change ((d.erase (.entry name)).get? other).isSome = true at present
    rw [Dict.get?_erase] at present
    split at present
    · cases present
    · rename_i apart
      obtain ⟨entry, rfl, queued⟩ := good.only other present
      refine ⟨entry, rfl, ?_⟩
      show ((pending.erase name).get? entry).isSome = true
      rw [Dict.get?_erase, if_neg fun equal => apart (congrArg _ equal)]
      exact queued
  · have total := Dict.total_erase (fun name (_ : File) => if name.pendingName?.isSome then 1 else 0) d (.entry name)
    have items := good.items
    unfold Directory.itemCount at items ⊢
    exact (Nat.le.intro total.symm.symm).trans items

end

theorem holds_of_encodeFirst {batch : Batch} {now : Instant} {random : BitVec 128} {data : Encoded}
    (reliable : batch.validate = .ok () → batch.isText = true ∧ batch.observedAt.offset % 60 = 0)
    (encoded : encodeFirst floatLength batch now = .ok data) (fits : data.file.size ≤ maxEntryBytes) :
    Holds ⟨now, random⟩ { batch := batch } data.file := by
  simp only [encodeFirst, require_bind_eq_ok] at encoded
  obtain ⟨dated, encoded⟩ := encoded
  obtain ⟨_, valid, encoded⟩ := bind_eq_ok.mp encoded
  have valid := mapError_eq_ok.mp valid
  obtain ⟨document, written, encoded⟩ := bind_eq_ok.mp encoded
  obtain ⟨-, encoded⟩ := require_bind_eq_ok.mp encoded
  have data_eq := Except.ok.inj encoded
  obtain ⟨text, whole⟩ := reliable valid
  constructor
  · exact ⟨Nat.succ_le_succ (Nat.zero_le _), fits⟩
  · refine ⟨document, ?_, ?_⟩
    · rw [← data_eq]
      rfl
    · show document.unmarshal = Held.envelope ⟨batch, 0, none, []⟩ ⟨now, random⟩
      exact envelope_unmarshal (mapError_eq_ok.mp written) text whole rfl
  · exact of_decide_eq_true dated
  · exact ⟨le_rfl, show (0 : Int) ≤ maxAttempts by decide⟩
  · exact fun _ => ⟨rfl, rfl⟩
  · exact fun positive => absurd positive (lt_irrefl _)
  · exact valid
  · exact text
  · exact whole

theorem holds_of_encodeRetry {nextAttempt : Instant} {errorClass : GoString} {guarded wall : Instant} {data : Encoded}
    (found : s.directory.get? (.entry name) = some file) (holds : Holds name held file)
    (encoded : s.directory.encodeRetry floatLength (.entry name) nextAttempt errorClass guarded wall = .ok data)
    (fits : data.file.size ≤ maxEntryBytes) : Holds name (held.retried nextAttempt errorClass) data.file := by
  simp only [Directory.encodeRetry, require_bind_eq_ok] at encoded
  obtain ⟨-, encoded⟩ := encoded
  obtain ⟨current, read, encoded⟩ := bind_eq_ok.mp encoded
  have current_eq := eq_of_read found holds (mapError_eq_ok.mp read)
  subst current_eq
  obtain ⟨more, encoded⟩ := require_bind_eq_ok.mp encoded
  have more : held.attempts < maxAttempts := of_decide_eq_true more
  obtain ⟨document, written, encoded⟩ := bind_eq_ok.mp encoded
  have data_eq := Except.ok.inj encoded
  obtain ⟨class_valid, class_text⟩ := cleanErrorClass_valid errorClass
  have text : held.batch.wireFields.isText = true := by
    rw [isText_wireFields]
    exact holds.text
  have attempts := holds.attempts.1
  constructor
  · exact ⟨Nat.succ_le_succ (Nat.zero_le _), fits⟩
  · refine ⟨document, ?_, ?_⟩
    · rw [← data_eq]
      rfl
    · have decoded : document.unmarshal = Held.envelope
          ⟨held.batch.wireFields, held.attempts + 1, some nextAttempt, cleanErrorClass errorClass⟩ name :=
        envelope_unmarshal (mapError_eq_ok.mp written) text holds.whole class_text
      rw [decoded]
      unfold Held.envelope Held.retried
      dsimp only
      rw [wireFields_wireFields]
  · exact holds.created
  · exact ⟨by show 0 ≤ held.attempts + 1; omega, Int.add_one_le_of_lt more⟩
  · intro zero
    change held.attempts + 1 = 0 at zero
    omega
  · exact fun _ => ⟨rfl, class_valid⟩
  · exact holds.valid
  · exact holds.text
  · exact holds.whole

theorem good_enqueue (good : Good config s) {batch : Batch} {now : Instant} {random temporary : BitVec 128}
    (reliable : batch.validate = .ok () → batch.isText = true ∧ batch.observedAt.offset % 60 = 0) :
    Good config (s.step floatLength digest config (.enqueue batch now random temporary)) := by
  unfold step
  dsimp only
  rcases Directory.enqueue_eq floatLength config s.directory batch now random temporary with
    ⟨error, refused⟩ | ⟨data, encoded, admitted, written⟩
  · rw [refused]
    exact good
  · have apart : s.directory.get? (.temporary temporary) = none → FileName.entry ⟨now, random⟩ ≠ .temporary temporary :=
      fun _ => FileName.noConfusion
    rw [written]
    rcases Directory.atomicWrite_cases apart with ⟨message, failed, same⟩ | ⟨done, fits, -, same⟩
    · rw [failed]
      exact good.of_same same
    · rw [done]
      apply good.set (holds_of_encodeFirst reliable encoded fits) _ same
      have items := (Directory.admit_eq admitted).1
      have more := Directory.itemCount_set s.directory ⟨now, random⟩ data.file
      omega

theorem good_recordRetry (good : Good config s) {name : FileName} {nextAttempt : Instant} {errorClass : GoString}
    {guarded wall : Instant} {temporary : BitVec 128} :
    Good config (s.step floatLength digest config (.recordRetry name nextAttempt errorClass guarded wall temporary)) := by
  unfold step
  dsimp only
  rcases Directory.recordRetry_eq floatLength s.directory name nextAttempt errorClass guarded wall temporary with
    ⟨error, refused⟩ | ⟨data, encoded, written⟩
  · rw [refused]
    exact good
  · obtain ⟨old, present⟩ := Directory.get?_of_encodeRetry floatLength encoded
    obtain ⟨entry, rfl, queued⟩ := good.only name (by rw [present]; rfl)
    obtain ⟨held, here⟩ := Option.isSome_iff_exists.mp queued
    obtain ⟨file, found, holds⟩ := good.held entry held here
    have apart : s.directory.get? (.temporary temporary) = none → FileName.entry entry ≠ .temporary temporary :=
      fun _ => FileName.noConfusion
    rw [written]
    rcases Directory.atomicWrite_cases apart with ⟨message, failed, same⟩ | ⟨done, fits, -, same⟩
    · rw [failed]
      exact good.of_same same
    · rw [done]
      dsimp only
      rw [here]
      apply good.set (holds_of_encodeRetry found holds encoded fits) _ same
      rw [Directory.itemCount_set_present s.directory present]
      exact good.items

theorem good_remove (good : Good config s) (name : FileName) :
    Good config (s.step floatLength digest config (.remove name)) := by
  unfold step Directory.remove
  dsimp only
  cases present : s.directory.get? name with
  | none => exact good
  | some file =>
    obtain ⟨entry, rfl, -⟩ := good.only name (by rw [present]; rfl)
    exact good.erase entry

theorem next_law (good : Good config s) {now : Instant} {wall : Nat → Instant} {random : BitVec 128}
    (reliable : s.Reliable (.next now wall random)) :
    (s.directory.next digest now wall random).2 = s.directory ∧
      s.NextLaw now (s.directory.next digest now wall random).1 := by
  obtain ⟨names, listed, sorted, pending⟩ := pendingNames_eq good
  obtain ⟨same, law⟩ := @nextFrom_law digest _ _ good now wall random _ names sorted (fun name => (pending name).mp)
    (reliable names listed)
  have listed_of {name : EntryName} {held : Held} (here : s.pending.get? name = some held) : name ∈ names := by
    rw [pending name, here]
    rfl
  unfold Directory.next NextLaw
  rw [listed]
  refine ⟨same, ?_⟩
  dsimp only
  split at law
  · rename_i entry given
    obtain ⟨held, present, due, whole, oldest⟩ := law
    refine ⟨held, present, due, ?_, ?_, ?_, ?_, ?_⟩
    · rw [whole]
      exact wireFields_wireFields _
    · rw [whole]
    · rw [whole]
    · rw [whole]
    · exact fun other waiting here => oldest other (listed_of here) waiting here
  · rename_i error given
    exact ⟨law.1, fun name held here => law.2 name (listed_of here) held here⟩

theorem faithful_of_reliable (good : Good config s) {call : Call} (reliable : s.Reliable call) :
    s.Faithful floatLength digest config call ∧ Good config (s.step floatLength digest config call) := by
  have kept : Good config (s.step floatLength digest config call) := by
    cases call with
    | enqueue batch now random temporary => exact good_enqueue good reliable
    | next now wall random =>
      unfold step
      dsimp only
      rw [(next_law good reliable).1]
      exact good
    | recordRetry name nextAttempt errorClass guarded wall temporary => exact good_recordRetry good
    | remove name => exact good_remove good name
  refine ⟨⟨?_, keeps_of_good kept⟩, kept⟩
  rintro now wall random rfl
  exact (next_law good reliable).2

theorem empty_good (config : Config) : Good config ⟨Dict.empty, Dict.empty⟩ := by
  constructor
  · intro name held here
    cases here
  · intro name present
    cases present
  · exact Nat.zero_le _

end

section Sample

open Directory

def sampleName : EntryName := ⟨63_000_000_001 * second, 1⟩

/-- The empty queue after the sample's first call. -/
def sampleSpool : Spool := step sampleFloatLength sampleDigest roomyConfig ⟨Dict.empty, Dict.empty⟩ sampleEnqueue

def sampleNext : Call := .next (63_000_000_002 * second) (fun _ => 63_000_000_002 * second) 3

/-- A retry at the end of the day that the queue admits. -/
def sampleRetry : Call :=
  .recordRetry (.entry sampleName) (63_000_000_002 * second + maxRetryDelay) (.ofText "network") (63_000_000_002 * second)
    (63_000_000_002 * second) 4

/-- A call of `Next` after the clock has been set back by an hour. -/
def sampleJump : Call := .next (62_999_996_402 * second) (fun _ => 62_999_996_402 * second) 5

end Sample

end Spool

end OpenAssetWatch.Sensor
