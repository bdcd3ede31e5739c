import OpenAssetWatch.Kev.CatalogClosed
import OpenAssetWatch.Library.Run

namespace OpenAssetWatch.Kev

open Library Library.JsonText

section Publisher

inductive PublicationStatus where
  | reserved
  | published
deriving DecidableEq, Repr

structure KevPublisherState where
  runSequence : Nat
  catalogVersion : String
  catalogDateReleased : UtcDateTime
  sourceDigest : List Char
  payloadDigest : List Char
  lastSuccessfulRunAt : Time
  publicationStatus : PublicationStatus
deriving DecidableEq, Repr

/-- A fetched body that `parse_cisa_kev_bytes` accepts; a run whose body it refuses stops. -/
structure FetchedSource where
  sourceDigest : List Char
  catalog : CisaKevCatalog
deriving DecidableEq

/-- What a run holds once the source is normalized. -/
structure Prepared where
  sourceDigest : List Char
  catalogVersion : String
  catalogDateReleased : UtcDateTime
  payload : ByteArray

/-- An output directory; its name starts with the sequence. -/
structure Output where
  sequence : Nat
  prepared : Prepared

variable (sha256 : ByteArray → List Char)

def Prepared.payloadDigest (prepared : Prepared) : List Char := sha256 prepared.payload

def FetchedSource.prepare (source : FetchedSource) : Option Prepared :=
  (normalizeCisaKevCatalog sha256 source.catalog).map fun catalog =>
    ⟨source.sourceDigest, String.ofList source.catalog.catalogVersion.text, source.catalog.dateReleased,
      canonicalKevBytes catalog⟩

/-- The checks against the state; no error for a source that has not changed, which is not published again. -/
def unchanged (state : Option KevPublisherState) (prepared : Prepared) : Except String Bool :=
  match state with
  | none => .ok false
  | some state =>
    if prepared.catalogDateReleased.toTime < state.catalogDateReleased.toTime then .error "catalog-downgrade"
    else if prepared.catalogVersion = state.catalogVersion ∧ prepared.sourceDigest ≠ state.sourceDigest then
      .error "catalog-version-replay"
    else if prepared.sourceDigest = state.sourceDigest ∧ prepared.payloadDigest sha256 ≠ state.payloadDigest then
      .error "publisher-state-digest-invalid"
    else .ok (state.publicationStatus = .published && prepared.catalogVersion = state.catalogVersion &&
      prepared.catalogDateReleased.toTime = state.catalogDateReleased.toTime && prepared.sourceDigest = state.sourceDigest &&
      prepared.payloadDigest sha256 = state.payloadDigest)

def nextSequence (state : Option KevPublisherState) (floor : Int) : Nat :=
  max (state.elim 0 (·.runSequence)) floor.toNat + 1

/-- What a run does with its source: it publishes it with a sequence, or leaves it, or fails. -/
def assess (state : Option KevPublisherState) (source : FetchedSource) (floor : Int) (current : Time) :
    Except String (Option (Prepared × Nat)) :=
  if current + 5 * 60 * 1000000 < source.catalog.dateReleased.toTime then .error "source-future-dated"
  else match source.prepare sha256 with
    | none => .error "catalog-invalid"
    | some prepared =>
      match unchanged sha256 state prepared with
      | .error code => .error code
      | .ok true => .ok none
      | .ok false => .ok (some (prepared, nextSequence state floor))

def Prepared.record (prepared : Prepared) (sequence : Nat) (current : Time) (status : PublicationStatus) : KevPublisherState where
  runSequence := sequence
  catalogVersion := prepared.catalogVersion
  catalogDateReleased := prepared.catalogDateReleased
  sourceDigest := prepared.sourceDigest
  payloadDigest := prepared.payloadDigest sha256
  lastSuccessfulRunAt := current
  publicationStatus := status

/-- How far the run that holds the lock is. -/
inductive Phase where
  | locked
  | assessed (prepared : Prepared) (sequence : Nat) (current : Time)
  | reserved (prepared : Prepared) (sequence : Nat) (current : Time)
  | placed (prepared : Prepared) (sequence : Nat) (current : Time)

/-- The state file, the outputs in the order of their publication, the run that holds the lock, and what the last run
that was completed has recorded. -/
structure Publisher where
  file : Option KevPublisherState
  outputs : List Output := []
  holder : Option Phase := none
  completed : Option KevPublisherState

/-- What a run does to the files: a write of the state and the renaming of the output happen at once, and a run fails or
crashes between them, which frees the lock. Runs without the lock and dry runs write nothing. -/
inductive PublisherEvent where
  | lock
  | load (source : FetchedSource) (floor : Int) (current : Time)
  | reserve
  | place
  | mark
  | stop

def publisherStep (publisher : Publisher) : PublisherEvent → Publisher
  | .lock => if publisher.holder.isNone = true then { publisher with holder := some .locked } else publisher
  | .load source floor current =>
    match publisher.holder with
    | some .locked =>
      match assess sha256 publisher.file source floor current with
      | .ok (some (prepared, sequence)) => { publisher with holder := some (.assessed prepared sequence current) }
      | _ => { publisher with holder := none }
    | _ => publisher
  | .reserve =>
    match publisher.holder with
    | some (.assessed prepared sequence current) =>
      { publisher with
        file := some (prepared.record sha256 sequence current .reserved)
        holder := some (.reserved prepared sequence current) }
    | _ => publisher
  | .place =>
    match publisher.holder with
    | some (.reserved prepared sequence current) =>
      { publisher with
        outputs := publisher.outputs ++ [⟨sequence, prepared⟩]
        holder := some (.placed prepared sequence current) }
    | _ => publisher
  | .mark =>
    match publisher.holder with
    | some (.placed prepared sequence current) =>
      { publisher with
        file := some (prepared.record sha256 sequence current .published)
        holder := none
        completed := some (prepared.record sha256 sequence current .published) }
    | _ => publisher
  | .stop => { publisher with holder := none }

/-- Before the first run; a record that says so is of a completed one. -/
def Publisher.start (file : Option KevPublisherState) : Publisher where
  file := file
  completed := file.filter fun state => state.publicationStatus = .published

def publisherRun (file : Option KevPublisherState) (events : List PublisherEvent) : Publisher :=
  events.foldl (publisherStep sha256) (Publisher.start file)

end Publisher

section Issuance

variable {sha256 : ByteArray → List Char} {publisher : Publisher} {file : Option KevPublisherState}
  {events : List PublisherEvent} {prepared : Prepared} {sequence : Nat} {current : Time}

/-- The record is of this source. -/
structure KevPublisherState.Records (sha256 : ByteArray → List Char) (state : KevPublisherState)
    (prepared : Prepared) : Prop where
  version : prepared.catalogVersion = state.catalogVersion
  released : prepared.catalogDateReleased.toTime = state.catalogDateReleased.toTime
  source : prepared.sourceDigest = state.sourceDigest
  payload : prepared.payloadDigest sha256 = state.payloadDigest

/-- A run of these events loads a source that gives this. -/
def Loaded (sha256 : ByteArray → List Char) (events : List PublisherEvent) (prepared : Prepared) : Prop :=
  ∃ source floor current, .load source floor current ∈ events ∧ source.prepare sha256 = some prepared

/-- Different payloads of the loaded sources have different digests. -/
def DistinctPayloads (sha256 : ByteArray → List Char) (events : List PublisherEvent) : Prop :=
  ∀ first second, Loaded sha256 events first → Loaded sha256 events second →
    first.payloadDigest sha256 = second.payloadDigest sha256 → first.payload = second.payload

/-- A version that was published with another payload is the recorded one, and what the last completed run published is
recorded, or is older than what is recorded. -/
def Undisturbed (sha256 : ByteArray → List Char) (publisher : Publisher) (event : PublisherEvent) : Prop :=
  ∀ source floor current prepared, event = .load source floor current → source.prepare sha256 = some prepared →
    (∀ output ∈ publisher.outputs, output.prepared.catalogVersion = prepared.catalogVersion →
      output.prepared.payload ≠ prepared.payload →
        ∃ state, publisher.file = some state ∧ state.catalogVersion = prepared.catalogVersion) ∧
    ∀ state, publisher.completed = some state → state.Records sha256 prepared →
      publisher.file = some state ∨
        ∃ later, publisher.file = some later ∧ prepared.catalogDateReleased.toTime < later.catalogDateReleased.toTime

/-- What the outputs of a run have in common. -/
structure Issuance (sha256 : ByteArray → List Char) (file : Option KevPublisherState) (events : List PublisherEvent) : Prop where
  sequences : (publisherRun sha256 file events).outputs.Pairwise (·.sequence < ·.sequence)
  releases : (publisherRun sha256 file events).outputs.Pairwise fun first second =>
    first.prepared.catalogDateReleased.toTime ≤ second.prepared.catalogDateReleased.toTime
  versions : ∀ first ∈ (publisherRun sha256 file events).outputs, ∀ second ∈ (publisherRun sha256 file events).outputs,
    first.prepared.catalogVersion = second.prepared.catalogVersion → first.prepared.payload = second.prepared.payload
  /-- Before an output is published, the state file holds a reservation of its sequence. -/
  reserved : ∀ output ∈ (publisherRun sha256 file events).outputs, ∃ done rest, events = done ++ rest ∧
    output ∉ (publisherRun sha256 file done).outputs ∧ ∃ state, (publisherRun sha256 file done).file = some state ∧
      state.publicationStatus = .reserved ∧ state.runSequence = output.sequence
  /-- A run that loads what the last completed one published ends there. -/
  unchanged : ∀ done source floor current rest, events = done ++ .load source floor current :: rest →
    (publisherRun sha256 file done).holder = some .locked → ∀ prepared state, source.prepare sha256 = some prepared →
      (publisherRun sha256 file done).completed = some state → state.Records sha256 prepared →
        (publisherRun sha256 file (done ++ [.load source floor current])).holder = none

/-- What a run may go on with. -/
structure Fits (sha256 : ByteArray → List Char) (events : List PublisherEvent) (outputs : List Output) (prepared : Prepared) :
    Prop where
  loaded : Loaded sha256 events prepared
  versions : ∀ output ∈ outputs, output.prepared.catalogVersion = prepared.catalogVersion →
    output.prepared.payload = prepared.payload

/-- What the run that holds the lock relies on. -/
def Publisher.Holds (sha256 : ByteArray → List Char) (events : List PublisherEvent) (publisher : Publisher) : Option Phase → Prop
  | none | some .locked => True
  | some (.assessed prepared sequence _) => Fits sha256 events publisher.outputs prepared ∧
    ∀ state, publisher.file = some state →
      state.runSequence < sequence ∧ state.catalogDateReleased.toTime ≤ prepared.catalogDateReleased.toTime
  | some (.reserved prepared sequence current) => Fits sha256 events publisher.outputs prepared ∧
    publisher.file = some (prepared.record sha256 sequence current .reserved) ∧
    ∀ output ∈ publisher.outputs, output.sequence < sequence ∧
      output.prepared.catalogDateReleased.toTime ≤ prepared.catalogDateReleased.toTime
  | some (.placed prepared sequence current) =>
    publisher.file = some (prepared.record sha256 sequence current .reserved)

structure Publisher.Sound (sha256 : ByteArray → List Char) (events : List PublisherEvent) (publisher : Publisher) : Prop where
  sequences : publisher.outputs.Pairwise (·.sequence < ·.sequence)
  releases : publisher.outputs.Pairwise fun first second =>
    first.prepared.catalogDateReleased.toTime ≤ second.prepared.catalogDateReleased.toTime
  versions : ∀ first ∈ publisher.outputs, ∀ second ∈ publisher.outputs,
    first.prepared.catalogVersion = second.prepared.catalogVersion → first.prepared.payload = second.prepared.payload
  loaded : ∀ output ∈ publisher.outputs, Loaded sha256 events output.prepared
  recorded : ∀ output ∈ publisher.outputs, ∃ state, publisher.file = some state ∧ output.sequence ≤ state.runSequence ∧
    output.prepared.catalogDateReleased.toTime ≤ state.catalogDateReleased.toTime ∧
    (output.prepared.catalogVersion = state.catalogVersion → output.prepared.payloadDigest sha256 = state.payloadDigest)
  completed : ∀ state, publisher.completed = some state → state.publicationStatus = .published
  holds : publisher.Holds sha256 events publisher.holder

/-- What a source has that is published: its sequence is new, its release is no older than the recorded one, and the
recorded version has its bytes. -/
theorem assess_publishes {state : Option KevPublisherState} {source : FetchedSource} {floor : Int}
    (assessed : assess sha256 state source floor current = .ok (some (prepared, sequence))) :
    source.prepare sha256 = some prepared ∧ ∀ record, state = some record → record.runSequence < sequence ∧
      record.catalogDateReleased.toTime ≤ prepared.catalogDateReleased.toTime ∧
      (prepared.catalogVersion = record.catalogVersion → prepared.payloadDigest sha256 = record.payloadDigest) := by
  unfold assess at assessed
  split at assessed
  · cases assessed
  · cases found : source.prepare sha256 with
    | none =>
      rw [found] at assessed
      cases assessed
    | some other =>
      rw [found] at assessed
      dsimp only at assessed
      split at assessed
      · cases assessed
      · cases assessed
      · rename_i changed
        cases assessed
        refine ⟨rfl, ?_⟩
        intro record same
        subst same
        unfold unchanged at changed
        dsimp only at changed
        split at changed
        · cases changed
        · rename_i newer
          split at changed
          · cases changed
          · rename_i replay
            split at changed
            · cases changed
            · rename_i conflict
              refine ⟨?_, not_lt.mp newer, ?_⟩
              · show record.runSequence < max record.runSequence floor.toNat + 1
                omega
              · intro version
                by_contra other
                have source : prepared.sourceDigest = record.sourceDigest := by
                  by_contra digests
                  exact replay ⟨version, digests⟩
                exact conflict ⟨source, other⟩

theorem assess_unchanged {record : KevPublisherState} {source : FetchedSource} {floor : Int}
    (found : source.prepare sha256 = some prepared) (same : record.Records sha256 prepared)
    (published : record.publicationStatus = .published) (taken : Prepared × Nat) :
    assess sha256 (some record) source floor current ≠ .ok (some taken) := by
  unfold assess
  split
  · exact fun impossible => by cases impossible
  · rw [found]
    have unchanged : unchanged sha256 (some record) prepared = .ok true := by
      unfold Kev.unchanged
      dsimp only
      rw [if_neg (not_lt.mpr same.released.ge), if_neg (fun both => both.2 same.source), if_neg (fun both => both.2 same.payload)]
      simp [published, same.version, same.released, same.source, same.payload]
    dsimp only
    rw [unchanged]
    exact fun impossible => by cases impossible

theorem assess_downgrade {record : KevPublisherState} {source : FetchedSource} {floor : Int}
    (found : source.prepare sha256 = some prepared)
    (older : prepared.catalogDateReleased.toTime < record.catalogDateReleased.toTime) (taken : Prepared × Nat) :
    assess sha256 (some record) source floor current ≠ .ok (some taken) := by
  intro assessed
  obtain ⟨_, _⟩ := taken
  obtain ⟨same, bounds⟩ := assess_publishes assessed
  rw [found] at same
  cases same
  exact absurd (bounds record rfl).2.1 (not_le.mpr older)

theorem Publisher.Sound.free (sound : publisher.Sound sha256 events) : Sound sha256 events { publisher with holder := none } :=
  ⟨sound.sequences, sound.releases, sound.versions, sound.loaded, sound.recorded, sound.completed, trivial⟩

theorem Publisher.Sound.load (distinct : DistinctPayloads sha256 events) (sound : publisher.Sound sha256 events)
    {source : FetchedSource} {floor : Int} (listed : .load source floor current ∈ events)
    (undisturbed : Undisturbed sha256 publisher (.load source floor current)) :
    (publisherStep sha256 publisher (.load source floor current)).Sound sha256 events := by
  unfold publisherStep
  dsimp only
  split
  · split
    · rename_i prepared sequence assessed
      obtain ⟨found, bounds⟩ := assess_publishes assessed
      have loaded : Loaded sha256 events prepared := ⟨source, floor, current, listed, found⟩
      refine ⟨sound.sequences, sound.releases, sound.versions, sound.loaded, sound.recorded, sound.completed,
        ⟨loaded, ?_⟩, ?_⟩
      · intro output member same
        by_contra different
        obtain ⟨state, file, version⟩ := (undisturbed _ _ _ _ rfl found).1 output member same different
        obtain ⟨record, file', -, -, digest⟩ := sound.recorded output member
        cases Option.some.inj (file.symm.trans file')
        apply different
        apply distinct _ _ (sound.loaded output member) loaded
        rw [digest (same.trans version.symm), (bounds state file).2.2 version.symm]
      · exact fun state file => ⟨(bounds state file).1, (bounds state file).2.1⟩
    · exact sound.free
  · exact sound

theorem Publisher.Sound.reserve (sound : publisher.Sound sha256 events) :
    (publisherStep sha256 publisher .reserve).Sound sha256 events := by
  have holds := sound.holds
  unfold publisherStep
  dsimp only
  split
  · rename_i prepared sequence current held
    rw [held] at holds
    obtain ⟨fits, bounds⟩ := holds
    have before : ∀ output ∈ publisher.outputs, output.sequence < sequence ∧
        output.prepared.catalogDateReleased.toTime ≤ prepared.catalogDateReleased.toTime := by
      intro output member
      obtain ⟨record, file, below, older, -⟩ := sound.recorded output member
      obtain ⟨less, newer⟩ := bounds record file
      exact ⟨lt_of_le_of_lt below less, older.trans newer⟩
    refine ⟨sound.sequences, sound.releases, sound.versions, sound.loaded, ?_, sound.completed, fits, rfl, before⟩
    intro output member
    refine ⟨_, rfl, (before output member).1.le, (before output member).2, fun version => ?_⟩
    exact congrArg sha256 (fits.versions output member version)
  · exact sound

theorem Publisher.Sound.place (sound : publisher.Sound sha256 events) :
    (publisherStep sha256 publisher .place).Sound sha256 events := by
  have holds := sound.holds
  unfold publisherStep
  dsimp only
  split
  · rename_i prepared sequence current held
    rw [held] at holds
    obtain ⟨fits, file, before⟩ := holds
    refine ⟨?_, ?_, ?_, ?_, ?_, sound.completed, file⟩
    · apply List.pairwise_append.mpr
      refine ⟨sound.sequences, List.pairwise_singleton _ _, fun output member last placed => ?_⟩
      rw [List.mem_singleton.mp placed]
      exact (before output member).1
    · apply List.pairwise_append.mpr
      refine ⟨sound.releases, List.pairwise_singleton _ _, fun output member last placed => ?_⟩
      rw [List.mem_singleton.mp placed]
      exact (before output member).2
    · intro first inFirst second inSecond same
      rcases List.mem_append.mp inFirst with earlier | placed
      · rcases List.mem_append.mp inSecond with earlier' | placed'
        · exact sound.versions first earlier second earlier' same
        · rw [List.mem_singleton.mp placed'] at same ⊢
          exact fits.versions first earlier same
      · rw [List.mem_singleton.mp placed] at same ⊢
        rcases List.mem_append.mp inSecond with earlier' | placed'
        · exact (fits.versions second earlier' same.symm).symm
        · rw [List.mem_singleton.mp placed']
    · intro output member
      rcases List.mem_append.mp member with earlier | placed
      · exact sound.loaded output earlier
      · rw [List.mem_singleton.mp placed]
        exact fits.loaded
    · intro output member
      rcases List.mem_append.mp member with earlier | placed
      · exact sound.recorded output earlier
      · rw [List.mem_singleton.mp placed]
        exact ⟨_, file, le_rfl, le_rfl, fun _ => rfl⟩
  · exact sound

theorem Publisher.Sound.mark (sound : publisher.Sound sha256 events) :
    (publisherStep sha256 publisher .mark).Sound sha256 events := by
  have holds := sound.holds
  unfold publisherStep
  dsimp only
  split
  · rename_i prepared sequence current held
    rw [held] at holds
    refine ⟨sound.sequences, sound.releases, sound.versions, sound.loaded, ?_, ?_, trivial⟩
    · intro output member
      obtain ⟨record, file, bounds⟩ := sound.recorded output member
      cases Option.some.inj (holds.symm.trans file)
      exact ⟨_, rfl, bounds⟩
    · intro state same
      cases same
      rfl
  · exact sound

theorem Publisher.Sound.step (distinct : DistinctPayloads sha256 events) (sound : publisher.Sound sha256 events)
    {event : PublisherEvent} (listed : event ∈ events) (undisturbed : Undisturbed sha256 publisher event) :
    (publisherStep sha256 publisher event).Sound sha256 events := by
  cases event with
  | lock =>
    unfold publisherStep
    dsimp only
    split
    · exact ⟨sound.sequences, sound.releases, sound.versions, sound.loaded, sound.recorded, sound.completed, trivial⟩
    · exact sound
  | load source floor current => exact sound.load distinct listed undisturbed
  | reserve => exact sound.reserve
  | place => exact sound.place
  | mark => exact sound.mark
  | stop => exact sound.free

theorem sound_start (file : Option KevPublisherState) : (Publisher.start file).Sound sha256 events := by
  refine ⟨List.Pairwise.nil, List.Pairwise.nil, ?_, ?_, ?_, ?_, trivial⟩
  · exact fun _ impossible => absurd impossible List.not_mem_nil
  · exact fun _ impossible => absurd impossible List.not_mem_nil
  · exact fun _ impossible => absurd impossible List.not_mem_nil
  · exact fun state kept => of_decide_eq_true (Option.filter_eq_some_iff.mp kept).2

theorem publisherRun_sound (distinct : DistinctPayloads sha256 events)
    (undisturbed : Run.Along (publisherStep sha256) (Undisturbed sha256) (Publisher.start file) events)
    {done rest : List PublisherEvent} (split : events = done ++ rest) : (publisherRun sha256 file done).Sound sha256 events := by
  have along : Run.Along (publisherStep sha256) (fun publisher event => Undisturbed sha256 publisher event ∧ event ∈ events)
      (Publisher.start file) done := by
    rw [split] at undisturbed
    refine Run.along_iff.mpr fun before event after parts =>
      ⟨Run.along_iff.mp ((Run.along_append _ _ _).mp undisturbed).1 before event after parts, ?_⟩
    rw [split, parts]
    simp
  exact Run.invariant_end (Publisher.Sound sha256 events) (fun _ _ sound step => sound.step distinct step.2 step.1)
    (sound_start file) along

theorem exists_place {output : Output} (events : List PublisherEvent)
    (member : output ∈ (publisherRun sha256 file events).outputs) : ∃ done rest current, events = done ++ rest ∧
      output ∉ (publisherRun sha256 file done).outputs ∧
      (publisherRun sha256 file done).holder = some (.reserved output.prepared output.sequence current) := by
  induction events using List.reverseRecOn with
  | nil => cases member
  | append_singleton before event hypothesis =>
    by_cases earlier : output ∈ (publisherRun sha256 file before).outputs
    · obtain ⟨done, rest, current, split, parts⟩ := hypothesis earlier
      exact ⟨done, rest ++ [event], current, by rw [split, List.append_assoc], parts⟩
    · have now : output ∈ (publisherStep sha256 (publisherRun sha256 file before) event).outputs := by
        rw [publisherRun, List.foldl_append] at member
        exact member
      cases event with
      | place =>
        unfold publisherStep at now
        dsimp only at now
        split at now
        · rename_i prepared sequence current held
          rcases List.mem_append.mp now with same | placed
          · exact absurd same earlier
          · rw [List.mem_singleton.mp placed] at earlier ⊢
            exact ⟨before, [.place], current, rfl, earlier, held⟩
        · exact absurd now earlier
      | stop => exact absurd now earlier
      | _ =>
        unfold publisherStep at now
        dsimp only at now
        repeat' split at now
        all_goals exact absurd now earlier

end Issuance

section Samples

/-- A catalog without records, released some microseconds into 2024. -/
def emptyCatalog (version : Char) (trimmed : isWhiteSpace version = false) (microsecond : Fin 1000000) : CisaKevCatalog where
  catalogVersion := ⟨[version], by simp [trim, Text.stripChars, trimmed], by simp, by simp⟩
  dateReleased := ⟨catalogDate, 0, 0, 0, microsecond, startOfDay_range microsecond⟩
  vulnerabilities := []
  bounded := by simp
  distinct := by simp

theorem canonicalSize_empty (version : Char) (trimmed : isWhiteSpace version = false) (microsecond : Fin 1000000) :
    (emptyCatalog version trimmed microsecond).canonicalSize =
      616 + (if (microsecond : Nat) = 0 then 20 else 27) + escapedLength [version] := rfl

/-- The catalog is fetched from a body of this digest. -/
def fetched (digest version : Char) (trimmed : isWhiteSpace version = false) (microsecond : Fin 1000000) : FetchedSource :=
  ⟨[digest], emptyCatalog version trimmed microsecond⟩

variable {source : FetchedSource} {publisher : Publisher} {prepared : Prepared} {floor : Int} {current : Time}

theorem prepare_exists (source : FetchedSource) : ∃ catalog, Normalized sampleDigest source.catalog catalog ∧
    source.prepare sampleDigest = some ⟨source.sourceDigest, String.ofList source.catalog.catalogVersion.text,
      source.catalog.dateReleased, canonicalKevBytes catalog⟩ := by
  obtain ⟨catalog, made, normalized⟩ := normalize_eq sampleDigest_hex sampleDigest_distinct source.catalog
  refine ⟨catalog, normalized, ?_⟩
  rw [FetchedSource.prepare, made]
  rfl

theorem canonicalSize_of_bytes {first second : CisaKevCatalog} {one two : KevCatalog}
    (normalized : Normalized sampleDigest first one) (normalized' : Normalized sampleDigest second two)
    (same : canonicalKevBytes one = canonicalKevBytes two) : first.canonicalSize = second.canonicalSize := by
  have texts := congrArg String.fromUTF8? same
  rw [canonicalKevBytes, canonicalKevBytes, dumpBytes, dumpBytes, fromUTF8?_encode, fromUTF8?_encode] at texts
  have prints := String.ofList_injective (Option.some.inj texts)
  rw [← width_dump sampleDigest_hex normalized, ← width_dump sampleDigest_hex normalized', ← length_print_compact 0,
    ← length_print_compact 0, prints]

/-- What a run is that is not stopped. -/
def publication (source : FetchedSource) (floor : Int) (current : Time) : List PublisherEvent :=
  [.lock, .load source floor current, .reserve, .place, .mark]

theorem publication_foldl {sequence : Nat} (free : publisher.holder = none)
    (assessed : assess sampleDigest publisher.file source floor current = .ok (some (prepared, sequence))) :
    (publication source floor current).foldl (publisherStep sampleDigest) publisher =
      ⟨some (prepared.record sampleDigest sequence current .published), publisher.outputs ++ [⟨sequence, prepared⟩], none,
        some (prepared.record sampleDigest sequence current .published)⟩ := by
  simp only [publication, List.foldl_cons, List.foldl_nil, publisherStep, free, Option.isNone_none, if_true, assessed]

theorem assess_new {state : Option KevPublisherState} (past : source.catalog.dateReleased.toTime ≤ current + 5 * 60 * 1000000)
    (found : source.prepare sampleDigest = some prepared)
    (new : ∀ record, state = some record → record.catalogDateReleased.toTime ≤ prepared.catalogDateReleased.toTime ∧
      prepared.catalogVersion ≠ record.catalogVersion ∧ prepared.sourceDigest ≠ record.sourceDigest) :
    assess sampleDigest state source floor current = .ok (some (prepared, nextSequence state floor)) := by
  unfold assess
  rw [if_neg (not_lt.mpr past), found]
  have changed : unchanged sampleDigest state prepared = .ok false := by
    unfold unchanged
    cases state with
    | none => rfl
    | some record =>
      obtain ⟨newer, version, digest⟩ := new record rfl
      dsimp only
      rw [if_neg (not_lt.mpr newer), if_neg (fun both => version both.1), if_neg (fun both => digest both.1)]
      simp [version]
  dsimp only
  rw [changed]

/-- The first of January 2024. -/
def sampleRunTime : Time := 1704067200000000

theorem toTime_empty (version : Char) (trimmed : isWhiteSpace version = false) (microsecond : Fin 1000000) :
    (emptyCatalog version trimmed microsecond).dateReleased.toTime = sampleRunTime + ((microsecond : Nat) : Int) := by
  have date : catalogDate.ordinal = 738886 := by decide
  have time : (emptyCatalog version trimmed microsecond).dateReleased.toTime =
      (((catalogDate.ordinal : Int) - 719163) * 86400 + (0 : Nat) * 3600 + (0 : Nat) * 60 + (0 : Nat)) * 1000000 +
        ((microsecond : Nat) : Int) := rfl
  rw [time, date]
  show (_ : Int) = 1704067200000000 + _
  omega

theorem fetched_past (digest version : Char) (trimmed : isWhiteSpace version = false) (microsecond : Fin 1000000) :
    (fetched digest version trimmed microsecond).catalog.dateReleased.toTime ≤ sampleRunTime + 5 * 60 * 1000000 := by
  have time := toTime_empty version trimmed microsecond
  show (emptyCatalog version trimmed microsecond).dateReleased.toTime ≤ _
  rw [time]
  show (_ : Int) ≤ _
  omega

theorem one_trimmed : isWhiteSpace '1' = false := by decide

theorem two_trimmed : isWhiteSpace '2' = false := by decide

theorem zero_micros : 0 < 1000000 := by decide

theorem one_micros : 1 < 1000000 := by decide

/-- The version 1 is published, then the version 2, then the version 1 with another payload. -/
def replayed : List PublisherEvent :=
  publication (fetched 'a' '1' one_trimmed ⟨0, zero_micros⟩) 0 sampleRunTime ++
    (publication (fetched 'b' '2' two_trimmed ⟨0, zero_micros⟩) 0 sampleRunTime ++
      publication (fetched 'c' '1' one_trimmed ⟨1, one_micros⟩) 0 sampleRunTime)

theorem publication_new (publisher : Publisher) (digest version : Char) (trimmed : isWhiteSpace version = false)
    (microsecond : Fin 1000000) (free : publisher.holder = none) (new : ∀ record, publisher.file = some record →
      record.catalogDateReleased.toTime ≤ (fetched digest version trimmed microsecond).catalog.dateReleased.toTime ∧
        String.ofList [version] ≠ record.catalogVersion ∧ [digest] ≠ record.sourceDigest) :
    ∃ catalog prepared sequence, Normalized sampleDigest (emptyCatalog version trimmed microsecond) catalog ∧
      prepared = ⟨[digest], String.ofList [version], (emptyCatalog version trimmed microsecond).dateReleased,
        canonicalKevBytes catalog⟩ ∧
      (publication (fetched digest version trimmed microsecond) 0 sampleRunTime).foldl (publisherStep sampleDigest) publisher =
        ⟨some (prepared.record sampleDigest sequence sampleRunTime .published), publisher.outputs ++ [⟨sequence, prepared⟩], none,
          some (prepared.record sampleDigest sequence sampleRunTime .published)⟩ := by
  obtain ⟨catalog, normalized, found⟩ := prepare_exists (fetched digest version trimmed microsecond)
  exact ⟨catalog, _, _, normalized, rfl, publication_foldl free (assess_new (fetched_past ..) found new)⟩

end Samples

end OpenAssetWatch.Kev
