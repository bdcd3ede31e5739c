import OpenAssetWatch.Registry.CollectorLaw
import OpenAssetWatch.Registry.Submissions

namespace OpenAssetWatch.Registry

open Library Text

section Keys

/-- What `_record_ip_observation` looks a row up by. -/
def AddressRow.key (row : AddressRow) : Nat × String × String := (row.assetId, row.ipAddress.getD "", row.macAddress.getD "")

/-- What the unique constraint of `asset_software_detections` is about. -/
def SoftwareRow.key (row : SoftwareRow) : Nat × String × Option String := (row.assetId, row.name, row.category)

theorem address_holds_iff {assetId : Nat} {ipAddress macAddress : Option String} {row : AddressRow} :
    row.holds assetId ipAddress macAddress = true ↔ row.key = (assetId, ipAddress.getD "", macAddress.getD "") := by
  simp only [AddressRow.holds, AddressRow.key, Bool.and_eq_true, decide_eq_true_eq, Prod.mk.injEq, and_assoc]

theorem software_conflicts_iff {assetId : Nat} {name : String} {category : Option String} {row : SoftwareRow} :
    row.conflicts assetId name category = true ↔ category.isSome = true ∧ row.key = (assetId, name, category) := by
  simp only [SoftwareRow.conflicts, SoftwareRow.key, Bool.and_eq_true, decide_eq_true_eq, Prod.mk.injEq]
  tauto

theorem software_apart_iff {a b : SoftwareRow} : a.Apart b ↔ a.category = none ∨ a.key ≠ b.key := by
  rw [SoftwareRow.Apart, ← Bool.not_eq_true, software_conflicts_iff, not_and_or, Bool.not_eq_true, Option.isSome_eq_false_iff,
    Option.isNone_iff_eq_none]
  exact or_congr_right (not_congr eq_comm)

theorem software_apart_symm (a b : SoftwareRow) (apart : a.Apart b) : b.Apart a := by
  rw [software_apart_iff] at apart ⊢
  by_cases same : a.key = b.key
  · have category : a.category = b.category := congrArg (fun key => key.2.2) same
    rw [← category]
    exact apart.imp_right fun different => absurd same different
  · exact .inr fun equal => same equal.symm

theorem asset_apart_symm (a b : AssetRow) (apart : a.Apart b) : b.Apart a := fun same => apart same.symm

theorem overwrite_assetKey (excluded row : AssetRow) : (excluded.overwrite row).assetKey = row.assetKey := rfl

theorem seenAgain_key (seen row : AddressRow) : (seen.seenAgain row).key = row.key := rfl

theorem overwrite_softwareKey (excluded row : SoftwareRow) : (excluded.overwrite row).key = row.key := rfl

theorem addressRow_key (submission : Submission) (sighting : Sighting) (assetId : Nat) :
    (sighting.addressRow submission assetId).key = (assetId, sighting.primaryIp.getD "", sighting.macAddress.getD "") := rfl

end Keys

section Statements

variable {submission : Submission} {printed : Json → String} {bindBoolean : Json → Option (Option Bool)}

theorem upsertAsset_total (assets : SerialTable AssetRow.Apart) (sighting : Sighting) :
    ∃ result, upsertAsset submission assets sighting = some result := by
  apply SerialTable.upsert_total asset_apart_symm
  · exact fun row other apart => apart
  · exact fun row other => of_decide_eq_false other

theorem recordIpObservation_total (addresses : SerialTable AddressRow.Apart) (assetId : Nat) (sighting : Sighting) :
    ∃ after, recordIpObservation submission addresses assetId sighting = some after := by
  rw [recordIpObservation]
  split
  · exact ⟨addresses, rfl⟩
  · have total := @SerialTable.upsert_total _ _ _ addresses
    obtain ⟨result, done⟩ := total (fun _ _ _ => trivial) (fun _ _ _ => trivial) fun _ _ => trivial
    exact ⟨result.1, Option.map_eq_some_iff.mpr ⟨result, done, rfl⟩⟩

/-- The address of a sighting is recorded. -/
def Sighting.observed (sighting : Sighting) : Bool := truthy sighting.primaryIp || truthy sighting.macAddress

theorem recordIpObservation_unobserved {addresses : SerialTable AddressRow.Apart} {assetId : Nat} {sighting : Sighting}
    (unobserved : sighting.observed = false) :
    recordIpObservation submission addresses assetId sighting = some addresses := by
  obtain ⟨ip, mac⟩ := Bool.or_eq_false_iff.mp unobserved
  simp only [recordIpObservation, ip, mac, Bool.not_false, Bool.and_self, if_true]

theorem recordIpObservation_observed {addresses : SerialTable AddressRow.Apart} {assetId : Nat} {sighting : Sighting}
    (observed : sighting.observed = true) :
    recordIpObservation submission addresses assetId sighting =
      (addresses.upsert (AddressRow.holds assetId sighting.primaryIp sighting.macAddress)
        (sighting.addressRow submission assetId).seenAgain (sighting.addressRow submission assetId)).map Prod.fst := by
  have shown : ¬ (!truthy sighting.primaryIp && !truthy sighting.macAddress) = true := by
    rw [← Bool.not_or]
    change (truthy sighting.primaryIp || truthy sighting.macAddress) = true at observed
    rw [observed]
    exact Bool.false_ne_true
  exact if_neg shown

theorem upsertSoftwareDetection_unnamed {table : SerialTable SoftwareRow.Apart} {assetId : Nat}
    {software : List (String × Json)} (unnamed : softwareName printed software = none) :
    upsertSoftwareDetection submission printed bindBoolean table assetId software = some (table, 0) := by
  rw [upsertSoftwareDetection, unnamed]

theorem upsertSoftwareDetection_named {table : SerialTable SoftwareRow.Apart} {assetId : Nat} {name : String}
    {software : List (String × Json)} (named : softwareName printed software = some name) :
    upsertSoftwareDetection submission printed bindBoolean table assetId software =
      (bindBoolean ((Json.object software).get "detected")).bind fun detected =>
        (table.upsert (SoftwareRow.conflicts assetId name (softwareCategory printed software))
          (softwareRow submission printed assetId name software detected).overwrite
          (softwareRow submission printed assetId name software detected)).map fun result => (result.1, 1) := by
  rw [upsertSoftwareDetection, named]
  rfl

end Statements

section Databases

/-- No row is added to the three tables. -/
structure AddsNoRow (before after : Database) : Prop where
  assets : after.assets.idList = before.assets.idList
  addresses : after.addresses.idList = before.addresses.idList
  software : after.software.idList = before.software.idList

theorem AddsNoRow.refl (database : Database) : AddsNoRow database database := ⟨rfl, rfl, rfl⟩

theorem AddsNoRow.trans {first second third : Database} (before : AddsNoRow first second) (after : AddsNoRow second third) :
    AddsNoRow first third :=
  ⟨after.assets.trans before.assets, after.addresses.trans before.addresses, after.software.trans before.software⟩

/-- Every row of the three tables is still there, with what it is looked up by. -/
structure Extends (before after : Database) : Prop where
  assets : SerialTable.Keeps AssetRow.assetKey before.assets after.assets
  addresses : SerialTable.Keeps AddressRow.key before.addresses after.addresses
  software : SerialTable.Keeps SoftwareRow.key before.software after.software

theorem Extends.refl (database : Database) : Extends database database :=
  ⟨SerialTable.Keeps.refl _, SerialTable.Keeps.refl _, SerialTable.Keeps.refl _⟩

theorem Extends.trans {first second third : Database} (before : Extends first second) (after : Extends second third) :
    Extends first third :=
  ⟨before.assets.trans after.assets, before.addresses.trans after.addresses, before.software.trans after.software⟩

/-- The sighting is stored under the id of an asset. -/
structure Covered (database : Database) (sighting : Sighting) (assetId : Nat) : Prop where
  asset : ∃ row, (assetId, row) ∈ database.assets.rows ∧ row.assetKey = sighting.assetKey
  address : sighting.observed = true →
    ∃ row ∈ database.addresses.rows, row.2.key = (assetId, sighting.primaryIp.getD "", sighting.macAddress.getD "")

theorem Covered.extends {before after : Database} {sighting : Sighting} {assetId : Nat}
    (covered : Covered before sighting assetId) (more : Extends before after) : Covered after sighting assetId := by
  apply Covered.mk
  · obtain ⟨row, member, keyed⟩ := covered.asset
    obtain ⟨⟨id, later⟩, laterMember, sameId, sameKey⟩ := more.assets _ member
    cases sameId
    exact ⟨later, laterMember, sameKey.trans keyed⟩
  · intro observed
    obtain ⟨row, member, keyed⟩ := covered.address observed
    obtain ⟨later, laterMember, _, sameKey⟩ := more.addresses _ member
    exact ⟨later, laterMember, sameKey.trans keyed⟩

/-- The detection is stored, unless nothing could find it. -/
def Detected (printed : Json → String) (database : Database) (assetId : Nat) (software : List (String × Json)) : Prop :=
  ∀ name, softwareName printed software = some name → softwareCategory printed software ≠ none →
    ∃ row ∈ database.software.rows, row.2.key = (assetId, name, softwareCategory printed software)

theorem Detected.extends {printed : Json → String} {before after : Database} {assetId : Nat} {software : List (String × Json)}
    (detected : Detected printed before assetId software) (more : Extends before after) :
    Detected printed after assetId software := by
  intro name named categorised
  obtain ⟨row, member, keyed⟩ := detected name named categorised
  obtain ⟨later, laterMember, _, sameKey⟩ := more.software _ member
  exact ⟨later, laterMember, sameKey.trans keyed⟩

end Databases

section Sightings

variable {submission : Submission} {database after : Database} {sighting : Sighting} {assetId known : Nat}

theorem sight_eq_some (done : sight submission database sighting = some (after, assetId)) :
    ∃ assets addresses, upsertAsset submission database.assets sighting = some (assets, assetId) ∧
      recordIpObservation submission database.addresses assetId sighting = some addresses ∧
      after = { database with assets, addresses } := by
  obtain ⟨⟨assets, id⟩, first, rest⟩ := Option.bind_eq_some_iff.mp done
  obtain ⟨addresses, second, last⟩ := Option.bind_eq_some_iff.mp rest
  cases last
  exact ⟨assets, addresses, first, second, rfl⟩

theorem sight_total (submission : Submission) (database : Database) (sighting : Sighting) :
    ∃ result, sight submission database sighting = some result := by
  obtain ⟨⟨assets, id⟩, first⟩ := @upsertAsset_total submission database.assets sighting
  obtain ⟨addresses, second⟩ := @recordIpObservation_total submission database.addresses id sighting
  exact ⟨_, Option.bind_eq_some_iff.mpr ⟨_, first, Option.bind_eq_some_iff.mpr ⟨_, second, rfl⟩⟩⟩

theorem sight_covers (done : sight submission database sighting = some (after, assetId)) :
    Extends database after ∧ Covered after sighting assetId := by
  obtain ⟨assets, addresses, first, second, rfl⟩ := sight_eq_some done
  have assetsKept : SerialTable.Keeps AssetRow.assetKey database.assets assets :=
    SerialTable.keeps_upsert (overwrite_assetKey _) first
  have asset : ∃ row, (assetId, row) ∈ assets.rows ∧ row.assetKey = sighting.assetKey :=
    SerialTable.mem_upsert (overwrite_assetKey _) (fun row same => of_decide_eq_true same) rfl first
  cases observed : sighting.observed with
  | false =>
    rw [recordIpObservation_unobserved observed] at second
    cases second
    apply And.intro ⟨assetsKept, SerialTable.Keeps.refl _, SerialTable.Keeps.refl _⟩
    apply Covered.mk asset
    intro impossible
    rw [observed] at impossible
    cases impossible
  | true =>
    rw [recordIpObservation_observed observed] at second
    obtain ⟨⟨updated, id⟩, upserted, rfl⟩ := Option.map_eq_some_iff.mp second
    apply And.intro ⟨assetsKept, SerialTable.keeps_upsert (seenAgain_key _) upserted, SerialTable.Keeps.refl _⟩
    apply Covered.mk asset
    intro _
    have stored : ∃ row, (id, row) ∈ updated.rows ∧
        row.key = (assetId, sighting.primaryIp.getD "", sighting.macAddress.getD "") :=
      SerialTable.mem_upsert (seenAgain_key _) (fun row => address_holds_iff.mp) (addressRow_key _ _ _) upserted
    obtain ⟨row, member, keyed⟩ := stored
    exact ⟨(id, row), member, keyed⟩

theorem sight_again (covered : Covered database sighting known)
    (done : sight submission database sighting = some (after, assetId)) :
    assetId = known ∧ AddsNoRow database after := by
  obtain ⟨assets, addresses, first, second, rfl⟩ := sight_eq_some done
  obtain ⟨row, member, keyed⟩ := covered.asset
  obtain ⟨sameAssets, found, foundMember, foundKey⟩ :=
    SerialTable.idList_upsert_of_mem ⟨(known, row), member, decide_eq_true keyed⟩ first
  have equal : assetId = known := by
    by_contra different
    have both : Std.Symm fun a b : Nat × AssetRow => a.2.Apart b.2 := ⟨fun a b => asset_apart_symm a.2 b.2⟩
    apply database.assets.apart.forall foundMember member fun same => different (congrArg Prod.fst same)
    exact (of_decide_eq_true foundKey).trans keyed.symm
  apply And.intro equal
  subst equal
  cases observed : sighting.observed with
  | false =>
    rw [recordIpObservation_unobserved observed] at second
    cases second
    exact ⟨sameAssets, rfl, rfl⟩
  | true =>
    rw [recordIpObservation_observed observed] at second
    obtain ⟨⟨updated, id⟩, upserted, rfl⟩ := Option.map_eq_some_iff.mp second
    obtain ⟨stored, storedMember, storedKey⟩ := covered.address observed
    have same := SerialTable.idList_upsert_of_mem ⟨stored, storedMember, address_holds_iff.mpr storedKey⟩ upserted
    exact ⟨sameAssets, same.1, rfl⟩

theorem sight_frame (done : sight submission database sighting = some (after, assetId)) :
    after.collectors = database.collectors ∧ after.software = database.software := by
  obtain ⟨assets, addresses, _, _, rfl⟩ := sight_eq_some done
  exact ⟨rfl, rfl⟩

theorem sight_addresses (distinct : (database.addresses.rows.map fun row => row.2.key).Nodup)
    (done : sight submission database sighting = some (after, assetId)) :
    (after.addresses.rows.map fun row => row.2.key).Nodup := by
  obtain ⟨assets, addresses, _, second, rfl⟩ := sight_eq_some done
  cases observed : sighting.observed with
  | false =>
    rw [recordIpObservation_unobserved observed] at second
    cases second
    exact distinct
  | true =>
    rw [recordIpObservation_observed observed] at second
    obtain ⟨⟨updated, id⟩, upserted, rfl⟩ := Option.map_eq_some_iff.mp second
    exact SerialTable.nodup_upsert (seenAgain_key _) (fun row => address_holds_iff.mpr) (addressRow_key _ _ _) distinct upserted

variable {sightings : List Sighting} {assetIds knownIds : List Nat}

theorem sightAll_cons {rest : List Sighting} (done : sightAll submission database (sighting :: rest) = some (after, assetIds)) :
    ∃ between assetId others, sight submission database sighting = some (between, assetId) ∧
      sightAll submission between rest = some (after, others) ∧ assetIds = assetId :: others := by
  rw [sightAll] at done
  obtain ⟨⟨between, assetId⟩, first, rest⟩ := Option.bind_eq_some_iff.mp done
  obtain ⟨⟨last, others⟩, second, same⟩ := Option.bind_eq_some_iff.mp rest
  cases same
  exact ⟨between, assetId, others, first, second, rfl⟩

theorem sightAll_total (submission : Submission) (database : Database) (sightings : List Sighting) :
    ∃ result, sightAll submission database sightings = some result := by
  induction sightings generalizing database with
  | nil => exact ⟨_, rfl⟩
  | cons sighting rest ih =>
    obtain ⟨⟨between, assetId⟩, first⟩ := sight_total submission database sighting
    obtain ⟨⟨last, others⟩, second⟩ := ih between
    exact ⟨_, Option.bind_eq_some_iff.mpr ⟨_, first, Option.bind_eq_some_iff.mpr ⟨_, second, rfl⟩⟩⟩

theorem sightAll_covers (done : sightAll submission database sightings = some (after, assetIds)) :
    Extends database after ∧ List.Forall₂ (Covered after) sightings assetIds := by
  induction sightings generalizing database assetIds with
  | nil =>
    cases done
    exact ⟨Extends.refl _, .nil⟩
  | cons sighting rest ih =>
    obtain ⟨between, assetId, others, first, second, rfl⟩ := sightAll_cons done
    obtain ⟨firstMore, firstCovered⟩ := sight_covers first
    obtain ⟨restMore, restCovered⟩ := ih second
    exact ⟨firstMore.trans restMore, .cons (firstCovered.extends restMore) restCovered⟩

theorem sightAll_again (covered : List.Forall₂ (Covered database) sightings knownIds)
    (done : sightAll submission database sightings = some (after, assetIds)) :
    assetIds = knownIds ∧ AddsNoRow database after := by
  induction sightings generalizing database assetIds knownIds with
  | nil =>
    cases covered
    cases done
    exact ⟨rfl, AddsNoRow.refl _⟩
  | cons sighting rest ih =>
    obtain ⟨between, assetId, others, first, second, rfl⟩ := sightAll_cons done
    cases covered with
    | cons here later =>
      obtain ⟨sameId, firstSame⟩ := sight_again here first
      have more := (sight_covers first).1
      obtain ⟨sameIds, restSame⟩ := ih (later.imp fun _ _ held => held.extends more) second
      exact ⟨by rw [sameId, sameIds], firstSame.trans restSame⟩

theorem sightAll_frame (done : sightAll submission database sightings = some (after, assetIds)) :
    after.collectors = database.collectors ∧ after.software = database.software := by
  induction sightings generalizing database assetIds with
  | nil =>
    cases done
    exact ⟨rfl, rfl⟩
  | cons sighting rest ih =>
    obtain ⟨between, assetId, others, first, second, rfl⟩ := sightAll_cons done
    have here := sight_frame first
    have later := ih second
    exact ⟨later.1.trans here.1, later.2.trans here.2⟩

theorem sightAll_addresses (distinct : (database.addresses.rows.map fun row => row.2.key).Nodup)
    (done : sightAll submission database sightings = some (after, assetIds)) :
    (after.addresses.rows.map fun row => row.2.key).Nodup := by
  induction sightings generalizing database assetIds with
  | nil =>
    cases done
    exact distinct
  | cons sighting rest ih =>
    obtain ⟨between, assetId, others, first, second, rfl⟩ := sightAll_cons done
    exact ih (sight_addresses distinct first) second

theorem length_sightAll (done : sightAll submission database sightings = some (after, assetIds)) :
    assetIds.length = sightings.length := (sightAll_covers done).2.length_eq.symm

end Sightings

end OpenAssetWatch.Registry
