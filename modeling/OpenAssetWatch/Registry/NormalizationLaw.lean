import OpenAssetWatch.Registry.SubmissionLaw

namespace OpenAssetWatch.Registry

open Library Text

section Detections

variable {printed : Json → String} {bindBoolean : Json → Option (Option Bool)} {submission : Submission}
  {table after : SerialTable SoftwareRow.Apart} {assetId counted : Nat} {software : List (String × Json)}

/-- The driver takes what a named detection gives for its boolean column. -/
def binds (printed : Json → String) (bindBoolean : Json → Option (Option Bool)) (software : List (String × Json)) : Prop :=
  softwareName printed software ≠ none → (bindBoolean ((Json.object software).get "detected")).isSome = true

/-- A named detection has a category. -/
def categorised (printed : Json → String) (software : List (String × Json)) : Prop :=
  softwareName printed software ≠ none → softwareCategory printed software ≠ none

theorem softwareRow_key (submission : Submission) (name : String) (detected : Option Bool) :
    (softwareRow submission printed assetId name software detected).key =
      (assetId, name, softwareCategory printed software) := rfl

theorem upsertSoftwareDetection_cases
    (done : upsertSoftwareDetection submission printed bindBoolean table assetId software = some (after, counted)) :
    (softwareName printed software = none ∧ after = table) ∨
      ∃ name detected id, softwareName printed software = some name ∧
        table.upsert (SoftwareRow.conflicts assetId name (softwareCategory printed software))
          (softwareRow submission printed assetId name software detected).overwrite
          (softwareRow submission printed assetId name software detected) = some (after, id) := by
  cases named : softwareName printed software with
  | none =>
    rw [upsertSoftwareDetection_unnamed named] at done
    cases done
    exact .inl ⟨rfl, rfl⟩
  | some name =>
    rw [upsertSoftwareDetection_named named] at done
    obtain ⟨detected, _, upserted⟩ := Option.bind_eq_some_iff.mp done
    obtain ⟨⟨updated, id⟩, upsert, same⟩ := Option.map_eq_some_iff.mp upserted
    cases same
    exact .inr ⟨name, detected, id, rfl, upsert⟩

theorem upsertSoftwareDetection_total_iff :
    (∃ result, upsertSoftwareDetection submission printed bindBoolean table assetId software = some result) ↔
      binds printed bindBoolean software := by
  cases named : softwareName printed software with
  | none =>
    rw [upsertSoftwareDetection_unnamed named]
    exact iff_of_true ⟨_, rfl⟩ fun impossible => absurd named impossible
  | some name =>
    have shown : softwareName printed software ≠ none := by
      rw [named]
      exact Option.some_ne_none name
    rw [upsertSoftwareDetection_named named]
    constructor
    · rintro ⟨result, done⟩ _
      obtain ⟨detected, bound, _⟩ := Option.bind_eq_some_iff.mp done
      exact Option.isSome_iff_exists.mpr ⟨detected, bound⟩
    · intro bound
      obtain ⟨detected, given⟩ := Option.isSome_iff_exists.mp (bound shown)
      have total : ∃ result, table.upsert (SoftwareRow.conflicts assetId name (softwareCategory printed software))
          (softwareRow submission printed assetId name software detected).overwrite
          (softwareRow submission printed assetId name software detected) = some result := by
        apply SerialTable.upsert_total software_apart_symm
        · exact fun row other apart => apart
        · intro row free
          apply software_apart_symm
          exact free
      obtain ⟨result, upserted⟩ := total
      exact ⟨_, Option.bind_eq_some_iff.mpr ⟨detected, given, Option.map_eq_some_iff.mpr ⟨result, upserted, rfl⟩⟩⟩

theorem detection_keeps
    (done : upsertSoftwareDetection submission printed bindBoolean table assetId software = some (after, counted)) :
    SerialTable.Keeps SoftwareRow.key table after := by
  rcases upsertSoftwareDetection_cases done with ⟨_, rfl⟩ | ⟨name, detected, id, _, upserted⟩
  · exact SerialTable.Keeps.refl _
  · exact SerialTable.keeps_upsert (overwrite_softwareKey _) upserted

theorem detection_stored
    (done : upsertSoftwareDetection submission printed bindBoolean table assetId software = some (after, counted))
    {name : String} (named : softwareName printed software = some name) :
    ∃ row ∈ after.rows, row.2.key = (assetId, name, softwareCategory printed software) := by
  rcases upsertSoftwareDetection_cases done with ⟨unnamed, _⟩ | ⟨other, detected, id, same, upserted⟩
  · rw [unnamed] at named
    cases named
  · rw [named] at same
    cases same
    have stored : ∃ row, (id, row) ∈ after.rows ∧ row.key = (assetId, name, softwareCategory printed software) :=
      SerialTable.mem_upsert (overwrite_softwareKey _) (fun row holds => (software_conflicts_iff.mp holds).2)
        (softwareRow_key submission name detected) upserted
    obtain ⟨row, member, keyed⟩ := stored
    exact ⟨(id, row), member, keyed⟩

theorem detection_again
    (stored : ∀ name, softwareName printed software = some name → softwareCategory printed software ≠ none →
      ∃ row ∈ table.rows, row.2.key = (assetId, name, softwareCategory printed software))
    (given : categorised printed software)
    (done : upsertSoftwareDetection submission printed bindBoolean table assetId software = some (after, counted)) :
    after.idList = table.idList := by
  rcases upsertSoftwareDetection_cases done with ⟨_, rfl⟩ | ⟨name, detected, id, named, upserted⟩
  · rfl
  · have shown : softwareName printed software ≠ none := by
      rw [named]
      exact Option.some_ne_none name
    obtain ⟨row, member, keyed⟩ := stored name named (given shown)
    have found := software_conflicts_iff.mpr ⟨Option.isSome_iff_ne_none.mpr (given shown), keyed⟩
    exact (SerialTable.idList_upsert_of_mem ⟨row, member, found⟩ upserted).1

theorem detection_adds (named : softwareName printed software ≠ none) (bare : softwareCategory printed software = none)
    (done : upsertSoftwareDetection submission printed bindBoolean table assetId software = some (after, counted)) :
    after.idList.length = table.idList.length + 1 := by
  rcases upsertSoftwareDetection_cases done with ⟨unnamed, _⟩ | ⟨name, detected, id, _, upserted⟩
  · exact absurd unnamed named
  · have missing : table.find? (SoftwareRow.conflicts assetId name (softwareCategory printed software)) = none := by
      apply List.find?_eq_none.mpr
      intro row _ holds
      have given := (software_conflicts_iff.mp holds).1
      rw [bare] at given
      cases given
    rw [SerialTable.idList_upsert_of_missing missing upserted, List.length_append]
    rfl

theorem detection_length_le
    (done : upsertSoftwareDetection submission printed bindBoolean table assetId software = some (after, counted)) :
    table.idList.length ≤ after.idList.length := by
  rcases upsertSoftwareDetection_cases done with ⟨_, rfl⟩ | ⟨name, detected, id, _, upserted⟩
  · exact le_rfl
  · cases found : table.find? (SoftwareRow.conflicts assetId name (softwareCategory printed software)) with
    | some row =>
      have stored := SerialTable.find?_eq_some found
      rw [(SerialTable.idList_upsert_of_mem ⟨row, stored⟩ upserted).1]
    | none =>
      rw [SerialTable.idList_upsert_of_missing found upserted, List.length_append]
      exact Nat.le_add_right _ _

theorem detection_distinct (given : categorised printed software)
    (distinct : (table.rows.map fun row => row.2.key).Nodup)
    (done : upsertSoftwareDetection submission printed bindBoolean table assetId software = some (after, counted)) :
    (after.rows.map fun row => row.2.key).Nodup := by
  rcases upsertSoftwareDetection_cases done with ⟨_, rfl⟩ | ⟨name, detected, id, named, upserted⟩
  · exact distinct
  · have shown : softwareName printed software ≠ none := by
      rw [named]
      exact Option.some_ne_none name
    have present := Option.isSome_iff_ne_none.mpr (given shown)
    exact SerialTable.nodup_upsert (overwrite_softwareKey _) (fun row keyed => software_conflicts_iff.mpr ⟨present, keyed⟩)
      (softwareRow_key submission name detected) distinct upserted

variable {database last : Database} {entries : List (List (String × Json))}

theorem detectAll_cons {rest : List (List (String × Json))}
    (done : detectAll printed bindBoolean submission assetId database (software :: rest) = some (last, counted)) :
    ∃ between first others, upsertSoftwareDetection submission printed bindBoolean database.software assetId software =
        some (between, first) ∧
      detectAll printed bindBoolean submission assetId { database with software := between } rest = some (last, others) := by
  rw [detectAll] at done
  obtain ⟨⟨between, first⟩, head, tail⟩ := Option.bind_eq_some_iff.mp done
  obtain ⟨⟨final, others⟩, second, same⟩ := Option.bind_eq_some_iff.mp tail
  cases same
  exact ⟨between, first, others, head, second⟩

theorem detectAll_total_iff :
    (∃ result, detectAll printed bindBoolean submission assetId database entries = some result) ↔
      ∀ software ∈ entries, binds printed bindBoolean software := by
  induction entries generalizing database with
  | nil => exact iff_of_true ⟨_, rfl⟩ fun software impossible => by cases impossible
  | cons software rest ih =>
    rw [List.forall_mem_cons]
    constructor
    · rintro ⟨⟨last, counted⟩, done⟩
      obtain ⟨between, first, others, head, tail⟩ := detectAll_cons done
      exact ⟨upsertSoftwareDetection_total_iff.mp ⟨_, head⟩, ih.mp ⟨_, tail⟩⟩
    · rintro ⟨here, later⟩
      obtain ⟨⟨between, first⟩, head⟩ := upsertSoftwareDetection_total_iff.mpr here
      obtain ⟨⟨last, others⟩, tail⟩ := ih.mpr later
      exact ⟨_, Option.bind_eq_some_iff.mpr ⟨_, head, Option.bind_eq_some_iff.mpr ⟨_, tail, rfl⟩⟩⟩

theorem detectAll_frame (done : detectAll printed bindBoolean submission assetId database entries = some (last, counted)) :
    last.collectors = database.collectors ∧ last.assets = database.assets ∧ last.addresses = database.addresses := by
  induction entries generalizing database counted with
  | nil =>
    cases done
    exact ⟨rfl, rfl, rfl⟩
  | cons software rest ih =>
    obtain ⟨between, first, others, head, tail⟩ := detectAll_cons done
    have later := ih tail
    exact later

theorem detectAll_covers (done : detectAll printed bindBoolean submission assetId database entries = some (last, counted)) :
    Extends database last ∧ ∀ software ∈ entries, Detected printed last assetId software := by
  induction entries generalizing database counted with
  | nil =>
    cases done
    exact ⟨Extends.refl _, fun software impossible => by cases impossible⟩
  | cons software rest ih =>
    obtain ⟨between, first, others, head, tail⟩ := detectAll_cons done
    obtain ⟨more, stored⟩ := ih tail
    have here : Extends database { database with software := between } :=
      ⟨SerialTable.Keeps.refl _, SerialTable.Keeps.refl _, detection_keeps head⟩
    have detected : Detected printed { database with software := between } assetId software :=
      fun name named _ => detection_stored head named
    apply And.intro (here.trans more)
    rw [List.forall_mem_cons]
    exact ⟨detected.extends more, stored⟩

theorem detectAll_again (stored : ∀ software ∈ entries, Detected printed database assetId software)
    (given : ∀ software ∈ entries, categorised printed software)
    (done : detectAll printed bindBoolean submission assetId database entries = some (last, counted)) :
    AddsNoRow database last := by
  induction entries generalizing database counted with
  | nil =>
    cases done
    exact AddsNoRow.refl _
  | cons software rest ih =>
    obtain ⟨between, first, others, head, tail⟩ := detectAll_cons done
    obtain ⟨here, later⟩ := List.forall_mem_cons.mp stored
    obtain ⟨hereGiven, laterGiven⟩ := List.forall_mem_cons.mp given
    have more : Extends database { database with software := between } :=
      ⟨SerialTable.Keeps.refl _, SerialTable.Keeps.refl _, detection_keeps head⟩
    have same : AddsNoRow database { database with software := between } := ⟨rfl, rfl, detection_again here hereGiven head⟩
    exact same.trans (ih (fun other member => (later other member).extends more) laterGiven tail)

theorem detectAll_length (done : detectAll printed bindBoolean submission assetId database entries = some (last, counted)) :
    database.software.idList.length ≤ last.software.idList.length ∧
      ((∃ software ∈ entries, ¬ categorised printed software) →
        database.software.idList.length < last.software.idList.length) := by
  induction entries generalizing database counted with
  | nil =>
    cases done
    exact ⟨le_rfl, fun ⟨_, impossible, _⟩ => by cases impossible⟩
  | cons software rest ih =>
    obtain ⟨between, first, others, head, tail⟩ := detectAll_cons done
    have here := detection_length_le head
    obtain ⟨later, strict⟩ := ih tail
    apply And.intro (here.trans later)
    rintro ⟨bare, member, uncategorised⟩
    rcases List.mem_cons.mp member with rfl | inRest
    · obtain ⟨named, missing⟩ := Classical.not_imp.mp uncategorised
      have added := detection_adds named (not_not.mp missing) head
      exact lt_of_lt_of_le (by rw [added]; exact Nat.lt_succ_self _) later
    · exact lt_of_le_of_lt here (strict ⟨bare, inRest, uncategorised⟩)

theorem detectAll_distinct (given : ∀ software ∈ entries, categorised printed software)
    (distinct : (database.software.rows.map fun row => row.2.key).Nodup)
    (done : detectAll printed bindBoolean submission assetId database entries = some (last, counted)) :
    (last.software.rows.map fun row => row.2.key).Nodup := by
  induction entries generalizing database counted with
  | nil =>
    cases done
    exact distinct
  | cons software rest ih =>
    obtain ⟨between, first, others, head, tail⟩ := detectAll_cons done
    obtain ⟨here, later⟩ := List.forall_mem_cons.mp given
    have between := detection_distinct here distinct head
    exact ih later between tail

end Detections

section Collectors

variable {printed : Json → String} {table after : CollectorTable} {call : CollectorCall} {collectorId : String}
  {row other : Nat × CollectorRow} {id : Option Nat}

/-- The row carries all names that the call gives. -/
def CollectorRow.namedBy (row : CollectorRow) (call : CollectorCall) (collectorId : String) : Prop :=
  row.collectorId = collectorId ∧ ∀ guid ∈ call.collectorGuid, row.collectorGuid = some guid

theorem eq_of_namedBy (member : row ∈ table.rows) (named : row.2.namedBy call collectorId) (otherMember : other ∈ table.rows)
    (held : other.2.heldBy call collectorId) : other = row := by
  rcases held with byId | ⟨guid, given, byGuid⟩
  · by_contra different
    have symmetric : Std.Symm fun a b : Nat × CollectorRow => a.2.Apart b.2 := ⟨fun a b => apart_symm a.2 b.2⟩
    exact (table.apart.forall otherMember member different).1 (byId.trans named.1.symm)
  · exact eq_of_guid otherMember member byGuid (named.2 guid given)

theorem existing_of_namedBy (member : row ∈ table.rows) (named : row.2.namedBy call collectorId) :
    existing table call collectorId = some row := by
  cases found : existing table call collectorId with
  | none => exact absurd named.1 (existing_none found row member).1
  | some stored =>
    obtain ⟨storedMember, held⟩ := existing_mem found
    rw [eq_of_namedBy member named storedMember held]

theorem namedBy_of_upsert (named : call.id? = some collectorId) (done : upsertCollector printed table call = some (after, id)) :
    ∃ row ∈ after.rows, row.2.namedBy call collectorId := by
  cases found : existing table call collectorId with
  | some stored =>
    rw [upsertCollector_found named found] at done
    obtain ⟨updated, update, same⟩ := Option.map_eq_some_iff.mp done
    cases same
    have member := (SerialTable.mem_update (existing_mem found).1 update).mpr (.inl rfl)
    have guids : ∀ guid ∈ call.collectorGuid, (call.overwrite printed collectorId stored.2).collectorGuid = some guid := by
      intro guid given
      rw [overwrite_guid, Option.mem_def.mp given]
      rfl
    exact ⟨_, member, rfl, guids⟩
  | none =>
    rw [upsertCollector_missing named found] at done
    obtain ⟨inserted, insert, same⟩ := Option.map_eq_some_iff.mp done
    cases same
    have member := (SerialTable.mem_insert insert).mpr (.inr rfl)
    exact ⟨_, member, rfl, fun guid given => given⟩

theorem upsertCollector_again (done : upsertCollector printed table call = some (after, id)) :
    ∃ result, upsertCollector printed after call = some result := by
  cases named : call.id? with
  | none => exact ⟨_, upsertCollector_unnamed named⟩
  | some collectorId =>
    obtain ⟨row, member, carries⟩ := namedBy_of_upsert named done
    apply (upsertCollector_eq_some_iff named).mpr
    intro other otherMember held
    rw [eq_of_namedBy member carries otherMember held]
    exact existing_of_namedBy member carries

end Collectors

section Normalization

variable {printed : Json → String} {bindBoolean : Json → Option (Option Bool)} {submission : Submission}
  {database after : Database} {counts : NormalizedCounts} {localAsset neighbors : List Nat}

/-- What the submission tells is stored. -/
structure Stored (printed : Json → String) (database : Database) (submission : Submission) (localAsset neighbors : List Nat) :
    Prop where
  device : List.Forall₂ (Covered database) (localDevice printed submission).toList localAsset
  neighbors : List.Forall₂ (Covered database) (neighborSightings printed submission) neighbors
  software : ∀ assetId ∈ localAsset, ∀ software ∈ softwareEntries submission, Detected printed database assetId software

theorem normalize_cases (done : normalizeInventorySubmission printed bindBoolean submission database = some (after, counts)) :
    ∃ collectors id between localAsset middle neighbors softwareCount,
      upsertCollector printed database.collectors (submission.collectorCall printed) = some (collectors, id) ∧
      sightAll submission { database with collectors } (localDevice printed submission).toList = some (between, localAsset) ∧
      sightAll submission between (neighborSightings printed submission) = some (middle, neighbors) ∧
      detectSoftware printed bindBoolean submission localAsset middle = some (after, softwareCount) := by
  obtain ⟨⟨collectors, id⟩, first, rest⟩ := Option.bind_eq_some_iff.mp done
  obtain ⟨⟨between, localAsset⟩, second, rest⟩ := Option.bind_eq_some_iff.mp rest
  obtain ⟨⟨middle, neighbors⟩, third, rest⟩ := Option.bind_eq_some_iff.mp rest
  obtain ⟨⟨final, softwareCount⟩, fourth, same⟩ := Option.bind_eq_some_iff.mp rest
  cases same
  exact ⟨collectors, id, between, localAsset, middle, neighbors, softwareCount, first, second, third, fourth⟩

theorem detectSoftware_extends {middle : Database} {softwareCount : Nat}
    (done : detectSoftware printed bindBoolean submission localAsset middle = some (after, softwareCount)) :
    Extends middle after := by
  cases localAsset with
  | nil =>
    cases done
    exact Extends.refl _
  | cons assetId rest => exact (detectAll_covers done).1

theorem normalize_stores (done : normalizeInventorySubmission printed bindBoolean submission database = some (after, counts)) :
    ∃ localAsset neighbors, Stored printed after submission localAsset neighbors := by
  obtain ⟨collectors, id, between, localAsset, middle, neighbors, softwareCount, _, second, third, fourth⟩ := normalize_cases done
  have last := detectSoftware_extends fourth
  obtain ⟨more, covered⟩ := sightAll_covers third
  have device := (sightAll_covers second).2
  apply Exists.intro localAsset
  apply Exists.intro neighbors
  apply Stored.mk
  · exact device.imp fun _ _ held => held.extends (more.trans last)
  · exact covered.imp fun _ _ held => held.extends last
  · intro assetId member
    have single : localAsset.length ≤ 1 := by
      rw [length_sightAll second]
      exact Option.length_toList_le
    cases localAsset with
    | nil => cases member
    | cons other rest =>
      have alone : rest = [] := List.length_eq_zero_iff.mp (Nat.le_zero.mp (Nat.le_of_succ_le_succ single))
      rw [alone] at member
      rw [List.mem_singleton.mp member]
      exact (detectAll_covers fourth).2

theorem normalize_again (stored : Stored printed database submission localAsset neighbors)
    (given : (localDevice printed submission).isSome = true → ∀ software ∈ softwareEntries submission,
      categorised printed software)
    (done : normalizeInventorySubmission printed bindBoolean submission database = some (after, counts)) :
    AddsNoRow database after := by
  obtain ⟨collectors, id, between, assets, middle, others, softwareCount, _, second, third, fourth⟩ := normalize_cases done
  have unchanged : Extends database { database with collectors } :=
    ⟨SerialTable.Keeps.refl _, SerialTable.Keeps.refl _, SerialTable.Keeps.refl _⟩
  have start : AddsNoRow database { database with collectors } := ⟨rfl, rfl, rfl⟩
  have deviceMore := (sightAll_covers second).1
  have neighborMore := (sightAll_covers third).1
  obtain ⟨sameDevice, deviceSame⟩ := sightAll_again (stored.device.imp fun _ _ held => held.extends unchanged) second
  have toNeighbors := unchanged.trans deviceMore
  obtain ⟨_, neighborsSame⟩ := sightAll_again (stored.neighbors.imp fun _ _ held => held.extends toNeighbors) third
  have before := start.trans (deviceSame.trans neighborsSame)
  apply before.trans
  subst sameDevice
  cases assets with
  | nil =>
    cases fourth
    exact AddsNoRow.refl _
  | cons assetId rest =>
    have present : (localDevice printed submission).isSome = true := by
      cases device : localDevice printed submission with
      | some _ => rfl
      | none =>
        have none := length_sightAll second
        rw [device] at none
        cases none
    have kept := toNeighbors.trans neighborMore
    apply detectAll_again _ (given present) fourth
    exact fun software member => (stored.software assetId List.mem_cons_self software member).extends kept

/-- What the transaction needs to be committed. -/
structure Stores (printed : Json → String) (bindBoolean : Json → Option (Option Bool)) (database : Database)
    (submission : Submission) : Prop where
  collector : ∀ collectorId, (submission.collectorCall printed).id? = some collectorId →
    ∀ row ∈ database.collectors.rows, row.2.heldBy (submission.collectorCall printed) collectorId →
      existing database.collectors (submission.collectorCall printed) collectorId = some row
  binds : (localDevice printed submission).isSome = true →
    ∀ software ∈ softwareEntries submission, binds printed bindBoolean software

theorem upsertCollector_total_iff {table : CollectorTable} {call : CollectorCall} :
    (∃ result, upsertCollector printed table call = some result) ↔ ∀ collectorId, call.id? = some collectorId →
      ∀ row ∈ table.rows, row.2.heldBy call collectorId → existing table call collectorId = some row := by
  constructor
  · intro done collectorId named
    exact (upsertCollector_eq_some_iff named).mp done
  · intro alone
    cases named : call.id? with
    | none => exact ⟨_, upsertCollector_unnamed named⟩
    | some collectorId => exact (upsertCollector_eq_some_iff named).mpr (alone collectorId named)

theorem normalize_total_iff :
    (∃ result, normalizeInventorySubmission printed bindBoolean submission database = some result) ↔
      Stores printed bindBoolean database submission := by
  constructor
  · rintro ⟨⟨after, counts⟩, done⟩
    obtain ⟨collectors, id, between, assets, middle, others, softwareCount, first, second, third, fourth⟩ := normalize_cases done
    apply Stores.mk
    · exact upsertCollector_total_iff.mp ⟨_, first⟩
    · intro present
      cases assets with
      | nil =>
        have none := length_sightAll second
        obtain ⟨device, some⟩ := Option.isSome_iff_exists.mp present
        rw [some] at none
        cases none
      | cons assetId rest => exact detectAll_total_iff.mp ⟨_, fourth⟩
  · intro stores
    obtain ⟨⟨collectors, id⟩, first⟩ := upsertCollector_total_iff.mpr stores.collector
    obtain ⟨⟨between, assets⟩, second⟩ :=
      sightAll_total submission { database with collectors } (localDevice printed submission).toList
    obtain ⟨⟨middle, others⟩, third⟩ := sightAll_total submission between (neighborSightings printed submission)
    have fourth : ∃ result, detectSoftware printed bindBoolean submission assets middle = some result := by
      cases assets with
      | nil => exact ⟨_, rfl⟩
      | cons assetId rest =>
        apply detectAll_total_iff.mpr
        apply stores.binds
        cases device : localDevice printed submission with
        | some _ => rfl
        | none =>
          have none := length_sightAll second
          rw [device] at none
          cases none
    obtain ⟨⟨after, softwareCount⟩, fourth⟩ := fourth
    exact ⟨_, Option.bind_eq_some_iff.mpr ⟨_, first, Option.bind_eq_some_iff.mpr ⟨_, second,
      Option.bind_eq_some_iff.mpr ⟨_, third, Option.bind_eq_some_iff.mpr ⟨_, fourth, rfl⟩⟩⟩⟩⟩

end Normalization

section Law

variable (printed : Json → String) (bindBoolean : Json → Option (Option Bool))

/-- Normalizing the same submission again adds no row. -/
def Idempotent (database : Database) (submission : Submission) : Prop :=
  AddsNoRow (database.normalize printed bindBoolean submission)
    ((database.normalize printed bindBoolean submission).normalize printed bindBoolean submission)

/-- One software row for an asset, a name and a category, and one address row for an asset and its addresses. -/
structure UniqueRows (database : Database) : Prop where
  software : database.software.rows.Pairwise fun a b =>
    ¬ (a.2.assetId = b.2.assetId ∧ a.2.name = b.2.name ∧ a.2.category = b.2.category)
  addresses : database.addresses.rows.Pairwise fun a b =>
    ¬ (a.2.assetId = b.2.assetId ∧ a.2.ipAddress.getD "" = b.2.ipAddress.getD "" ∧
      a.2.macAddress.getD "" = b.2.macAddress.getD "")

/-- Every named detection of a submission that is committed has a category. -/
def Categorised (database : Database) (submission : Submission) : Prop :=
  Stores printed bindBoolean database submission → (localDevice printed submission).isSome = true →
    ∀ software ∈ softwareEntries submission, categorised printed software

variable {printed bindBoolean} {database after : Database} {submission : Submission} {counts : NormalizedCounts}

theorem normalize_some (done : normalizeInventorySubmission printed bindBoolean submission database = some (after, counts)) :
    database.normalize printed bindBoolean submission = after := by
  rw [Database.normalize, done]
  rfl

theorem normalize_none (failed : normalizeInventorySubmission printed bindBoolean submission database = none) :
    database.normalize printed bindBoolean submission = database := by
  rw [Database.normalize, failed]
  rfl

theorem stores_again (done : normalizeInventorySubmission printed bindBoolean submission database = some (after, counts)) :
    Stores printed bindBoolean after submission := by
  have stores := normalize_total_iff.mp ⟨_, done⟩
  obtain ⟨collectors, id, between, assets, middle, others, softwareCount, first, second, third, fourth⟩ := normalize_cases done
  have same : after.collectors = collectors := by
    have last : after.collectors = middle.collectors := by
      cases assets with
      | nil =>
        cases fourth
        rfl
      | cons assetId rest => exact (detectAll_frame fourth).1
    rw [last, (sightAll_frame third).1, (sightAll_frame second).1]
  apply Stores.mk _ stores.binds
  rw [same]
  exact upsertCollector_total_iff.mp (upsertCollector_again first)

theorem normalize_length_lt (done : normalizeInventorySubmission printed bindBoolean submission database = some (after, counts))
    (present : (localDevice printed submission).isSome = true)
    (bare : ∃ software ∈ softwareEntries submission, ¬ categorised printed software) :
    database.software.idList.length < after.software.idList.length := by
  obtain ⟨collectors, id, between, assets, middle, others, softwareCount, _, second, third, fourth⟩ := normalize_cases done
  have frame : middle.software = database.software := by rw [(sightAll_frame third).2, (sightAll_frame second).2]
  cases assets with
  | nil =>
    have none := length_sightAll second
    obtain ⟨device, some⟩ := Option.isSome_iff_exists.mp present
    rw [some] at none
    cases none
  | cons assetId rest =>
    rw [← frame]
    exact (detectAll_length fourth).2 bare

theorem idempotent_iff : Idempotent printed bindBoolean database submission ↔
    Categorised printed bindBoolean database submission := by
  cases first : normalizeInventorySubmission printed bindBoolean submission database with
  | none =>
    have fails : ¬ Stores printed bindBoolean database submission := by
      intro stores
      obtain ⟨result, done⟩ := normalize_total_iff.mpr stores
      rw [first] at done
      cases done
    apply iff_of_true
    · rw [Idempotent, normalize_none first, normalize_none first]
      exact AddsNoRow.refl _
    · exact fun stores => absurd stores fails
  | some result =>
    obtain ⟨once, counts⟩ := result
    have stores := normalize_total_iff.mp ⟨_, first⟩
    obtain ⟨⟨twice, counts'⟩, second⟩ := normalize_total_iff.mpr (stores_again first)
    rw [Idempotent, normalize_some first, normalize_some second]
    constructor
    · intro same _ present software member
      by_contra bare
      have longer := normalize_length_lt second present ⟨software, member, bare⟩
      rw [same.software] at longer
      exact lt_irrefl _ longer
    · intro given
      obtain ⟨localAsset, neighbors, stored⟩ := normalize_stores first
      exact normalize_again stored (given stores) second

/-- The keys of the two tables stay distinct. -/
structure DistinctKeys (database : Database) : Prop where
  software : (database.software.rows.map fun row => row.2.key).Nodup
  addresses : (database.addresses.rows.map fun row => row.2.key).Nodup

theorem DistinctKeys.unique (distinct : DistinctKeys database) : UniqueRows database := by
  apply UniqueRows.mk
  · apply (List.pairwise_map.mp distinct.software).imp
    rintro a b different ⟨asset, name, category⟩
    exact different (Prod.ext asset (Prod.ext name category))
  · apply (List.pairwise_map.mp distinct.addresses).imp
    rintro a b different ⟨asset, ip, mac⟩
    exact different (Prod.ext asset (Prod.ext ip mac))

theorem DistinctKeys.normalize (distinct : DistinctKeys database) (given : Categorised printed bindBoolean database submission) :
    DistinctKeys (database.normalize printed bindBoolean submission) := by
  cases result : normalizeInventorySubmission printed bindBoolean submission database with
  | none =>
    rw [normalize_none result]
    exact distinct
  | some value =>
    obtain ⟨after, counts⟩ := value
    have stores := normalize_total_iff.mp ⟨_, result⟩
    rw [normalize_some result]
    obtain ⟨collectors, id, between, assets, middle, others, softwareCount, _, second, third, fourth⟩ := normalize_cases result
    have frame : middle.software = database.software := by rw [(sightAll_frame third).2, (sightAll_frame second).2]
    have middleSoftware : (middle.software.rows.map fun row => row.2.key).Nodup := by
      rw [frame]
      exact distinct.software
    have start : (({ database with collectors } : Database).addresses.rows.map fun row => row.2.key).Nodup := distinct.addresses
    have middleAddresses := sightAll_addresses (sightAll_addresses start second) third
    cases assets with
    | nil =>
      cases fourth
      exact ⟨middleSoftware, middleAddresses⟩
    | cons assetId rest =>
      have present : (localDevice printed submission).isSome = true := by
        cases device : localDevice printed submission with
        | some _ => rfl
        | none =>
          have none := length_sightAll second
          rw [device] at none
          cases none
      apply DistinctKeys.mk
      · exact detectAll_distinct (given stores present) middleSoftware fourth
      · rw [(detectAll_frame fourth).2.2]
        exact middleAddresses

/-- Normalization is idempotent exactly for categorised submissions, and a run of them leaves no row twice. -/
theorem normalization_idempotent_iff (printed : Json → String) (bindBoolean : Json → Option (Option Bool)) :
    (∀ database submission, Idempotent printed bindBoolean database submission ↔
      Categorised printed bindBoolean database submission) ∧
      ∀ submissions, Run.Along (Database.normalize printed bindBoolean) (Categorised printed bindBoolean)
        Database.empty submissions →
        ∀ done rest, submissions = done ++ rest → UniqueRows
          (done.foldl (Database.normalize printed bindBoolean) Database.empty) := by
  apply And.intro fun database submission => idempotent_iff
  intro submissions run done rest split
  rw [split, Run.along_append] at run
  have start : DistinctKeys Database.empty := ⟨List.nodup_nil, List.nodup_nil⟩
  have distinct := Run.invariant_end DistinctKeys (fun database submission before given => before.normalize given) start run.1
  exact distinct.unique

end Law

section Samples

/-- What the driver makes of null, a truth value, and anything else. -/
def bindBool : Json → Option (Option Bool)
  | .null => some none
  | .bool value => some (some value)
  | _ => none

/-- A device with one program that has no category. -/
def bareSubmission : Submission where
  submissionId := 1
  payload := [("device", .object [("hostname", .string "host")]), ("software", .array [.object [("name", .string "nginx")]])]
  collectorGuid := some "guid-a"
  collectorId := some "office"

/-- The constraint does not see that two absent categories are the same. -/
theorem bare_detection_twice :
    ¬ Idempotent (fun _ => "") bindBool Database.empty bareSubmission ∧
      ¬ UniqueRows ([bareSubmission, bareSubmission].foldl (Database.normalize (fun _ => "") bindBool) Database.empty) := by
  constructor
  · intro same
    have lengths := congrArg List.length same.software
    revert lengths
    decide +kernel
  · intro unique
    have software := unique.software
    revert software
    decide +kernel

end Samples

end OpenAssetWatch.Registry
