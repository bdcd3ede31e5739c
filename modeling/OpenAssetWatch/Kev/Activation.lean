import OpenAssetWatch.Kev.Store
import OpenAssetWatch.Library.Dict

namespace OpenAssetWatch.Kev

open Library Vulnerability

/-- What the unique keys and the foreign keys of the tables say, and that a correlation names the record of its CVE. -/
structure KevTables.Consistent (tables : KevTables) : Prop where
  uniqueImport : ∀ first second row row', tables.imports.get? first = some row → tables.imports.get? second = some row' →
    row.sourceId = row'.sourceId → row.catalogVersion = row'.catalogVersion → row.payloadSha256 = row'.payloadSha256 →
      first = second
  recordIds : ∀ importId cve cve' row row', tables.records.get? (importId, cve) = some row →
    tables.records.get? (importId, cve') = some row' → row.record.kevRecordId = row'.record.kevRecordId → cve = cve'
  recorded : ∀ importId cve row, tables.records.get? (importId, cve) = some row → (tables.imports.get? importId).isSome = true
  correlated : ∀ importId advisoryId cve row, tables.correlations.get? (importId, advisoryId, cve) = some row →
    ∃ stored, tables.records.get? (importId, cve) = some stored ∧ stored.record.kevRecordId = row.kevRecordId

section

variable {digest : KevRecord → String} {upper : String → String} {tables installed correlated derived : KevTables}
  {catalog : KevCatalog} {checksum importId freshId : String} {freshness : CatalogFreshness} {count : Nat}

/-- The record that a catalog brings for a CVE, or that the import holds which it is activated again. -/
def KevTables.installedRecord (tables : KevTables) (catalog : KevCatalog) (checksum cve : String) : Option KevRecord :=
  match tables.existingImport catalog.catalogVersion checksum with
  | some importId => (tables.records.get? (importId, cve)).map (·.record)
  | none => catalog.record? cve

/-- What the tables are once the catalog is the active import. -/
structure Installed (tables : KevTables) (catalog : KevCatalog) (checksum importId : String) (installed : KevTables) : Prop where
  records : ∀ cve, (installed.records.get? (importId, cve)).map (fun row => (row.record, row.active)) =
    (tables.installedRecord catalog checksum cve).map fun record => (record, true)
  unmatched : installed.vulnerabilityMatches = tables.vulnerabilityMatches
  aliases : installed.advisoryAliases = tables.advisoryAliases
  advisories : installed.advisoryCurrent = tables.advisoryCurrent
  correlations : installed.correlations = tables.correlations.map fun row => { row with current := false }
  factors : installed.factors = tables.factors.map fun row => { row with current := false }
  consistent : installed.Consistent

theorem existingImport_get? (found : tables.existingImport catalog.catalogVersion checksum = some importId) :
    ∃ row, tables.imports.get? importId = some row ∧ row.sourceId = cisaKevSourceId ∧
      row.catalogVersion = catalog.catalogVersion ∧ row.payloadSha256 = checksum := by
  obtain ⟨entry, chosen, rfl⟩ := Option.map_eq_some_iff.mp found
  have holds := List.find?_some chosen
  simp only [Bool.and_eq_true, decide_eq_true_eq] at holds
  exact ⟨entry.2, (Dict.get?_eq_some _ _ _).mpr (List.mem_of_find?_eq_some chosen), holds.1.1, holds.1.2, holds.2⟩

theorem existingImport_none (absent : tables.existingImport catalog.catalogVersion checksum = none) (row : ImportRow)
    (held : tables.imports.get? importId = some row) (source : row.sourceId = cisaKevSourceId)
    (version : row.catalogVersion = catalog.catalogVersion) : row.payloadSha256 ≠ checksum := by
  intro payload
  have none := List.find?_eq_none.mp (Option.map_eq_none_iff.mp absent) _ ((Dict.get?_eq_some _ _ _).mp held)
  simp [source, version, payload] at none

/-- What the records of the new import are. -/
theorem get?_insertedRecords (stored : Dict (String × String) RecordRow) (importId key cve : String) :
    (catalog.records.foldl (fun stored record =>
      stored.update (importId, record.cveId) fun _ => ⟨record, digest record, true⟩) stored).get? (key, cve) =
        ((if key = importId then catalog.record? cve else none).map fun record => ⟨record, digest record, true⟩).or
          (stored.get? (key, cve)) := by
  have nodup : (catalog.records.map fun record => (importId, record.cveId)).Nodup := by
    have := catalog.nodup_cves.map (Prod.mk_right_injective importId)
    rwa [List.map_map] at this
  rw [Dict.get?_foldl_update (fun record : KevRecord => (importId, record.cveId))
    (fun record _ => (⟨record, digest record, true⟩ : RecordRow)), filter_key_eq_find? _ nodup]
  by_cases here : key = importId
  · subst here
    have same : (catalog.records.find? fun record => decide ((key, record.cveId) = (key, cve))) = catalog.record? cve := by
      apply congrArg (List.find? · catalog.records)
      funext record
      simp
    rw [if_pos rfl, same]
    cases catalog.record? cve <;> rfl
  · have none : (catalog.records.find? fun record => decide ((importId, record.cveId) = (key, cve))) = none := by
      rw [List.find?_eq_none]
      intro record _ same
      exact here (Prod.mk.inj (of_decide_eq_true same)).1.symm
    rw [if_neg here, none]
    rfl

theorem KevTables.Consistent.deactivated (consistent : tables.Consistent) : tables.deactivated.Consistent where
  uniqueImport := by
    intro first second row row' one two source version payload
    simp only [KevTables.deactivated, Dict.get?_map, Option.map_eq_some_iff] at one two
    obtain ⟨row, one, rfl⟩ := one
    obtain ⟨row', two, rfl⟩ := two
    have kept (row : ImportRow) : (if row.sourceId = cisaKevSourceId then { row with active := false } else row).sourceId =
        row.sourceId ∧ (if row.sourceId = cisaKevSourceId then { row with active := false } else row).catalogVersion =
        row.catalogVersion ∧ (if row.sourceId = cisaKevSourceId then { row with active := false } else row).payloadSha256 =
        row.payloadSha256 := by
      split <;> exact ⟨rfl, rfl, rfl⟩
    rw [(kept row).1, (kept row').1] at source
    rw [(kept row).2.1, (kept row').2.1] at version
    rw [(kept row).2.2, (kept row').2.2] at payload
    exact consistent.uniqueImport first second row row' one two source version payload
  recordIds := by
    intro importId cve cve' row row' one two same
    simp only [KevTables.deactivated, Dict.get?_map, Option.map_eq_some_iff] at one two
    obtain ⟨row, one, rfl⟩ := one
    obtain ⟨row', two, rfl⟩ := two
    exact consistent.recordIds importId cve cve' row row' one two same
  recorded := by
    intro importId cve row held
    simp only [KevTables.deactivated, Dict.get?_map, Option.map_eq_some_iff, Option.isSome_map] at held ⊢
    obtain ⟨row, held, rfl⟩ := held
    exact consistent.recorded importId cve row held
  correlated := by
    intro importId advisoryId cve row held
    simp only [KevTables.deactivated, Dict.get?_map, Option.map_eq_some_iff] at held ⊢
    obtain ⟨row, held, rfl⟩ := held
    obtain ⟨stored, there, same⟩ := consistent.correlated importId advisoryId cve row held
    exact ⟨_, ⟨stored, there, rfl⟩, same⟩

theorem KevTables.Consistent.reactivated (consistent : tables.Consistent) (importId : String) :
    (tables.reactivated importId).Consistent where
  uniqueImport := by
    intro first second row row' one two source version payload
    simp only [KevTables.reactivated, Dict.get?_mapValues, Option.map_eq_some_iff] at one two
    obtain ⟨row, one, rfl⟩ := one
    obtain ⟨row', two, rfl⟩ := two
    have kept (key : String) (row : ImportRow) :
        (if key = importId then { row with active := true } else row).sourceId = row.sourceId ∧
        (if key = importId then { row with active := true } else row).catalogVersion = row.catalogVersion ∧
        (if key = importId then { row with active := true } else row).payloadSha256 = row.payloadSha256 := by
      split <;> exact ⟨rfl, rfl, rfl⟩
    rw [(kept first row).1, (kept second row').1] at source
    rw [(kept first row).2.1, (kept second row').2.1] at version
    rw [(kept first row).2.2, (kept second row').2.2] at payload
    exact consistent.uniqueImport first second row row' one two source version payload
  recordIds := by
    intro key cve cve' row row' one two same
    simp only [KevTables.reactivated, Dict.get?_mapValues, Option.map_eq_some_iff] at one two
    obtain ⟨row, one, rfl⟩ := one
    obtain ⟨row', two, rfl⟩ := two
    apply consistent.recordIds key cve cve' row row' one two
    split at same <;> exact same
  recorded := by
    intro key cve row held
    simp only [KevTables.reactivated, Dict.get?_mapValues, Option.map_eq_some_iff, Option.isSome_map] at held ⊢
    obtain ⟨row, held, rfl⟩ := held
    exact consistent.recorded key cve row held
  correlated := by
    intro key advisoryId cve row held
    obtain ⟨stored, there, same⟩ := consistent.correlated key advisoryId cve row held
    simp only [KevTables.reactivated, Dict.get?_mapValues, Option.map_eq_some_iff]
    refine ⟨_, ⟨stored, there, rfl⟩, ?_⟩
    split <;> exact same

theorem KevTables.Consistent.inserted (consistent : tables.Consistent) (row : ImportRow) (fresh : tables.imports.get? importId = none)
    (apart : ∀ key stored, tables.imports.get? key = some stored → stored.sourceId = row.sourceId →
      stored.catalogVersion = row.catalogVersion → stored.payloadSha256 ≠ row.payloadSha256) :
    (tables.inserted digest importId row catalog.records).Consistent := by
  have unrecorded (cve : String) : tables.records.get? (importId, cve) = none := by
    cases held : tables.records.get? (importId, cve) with
    | none => rfl
    | some stored =>
      have known := consistent.recorded importId cve stored held
      rw [fresh] at known
      cases known
  constructor
  · intro first second one two held held' source version payload
    simp only [KevTables.inserted, Dict.get?_set] at held held'
    split at held <;> split at held'
    · rename_i here there
      exact here.trans there.symm
    · cases held
      exact absurd payload.symm (apart _ _ held' source.symm version.symm)
    · cases held'
      exact absurd payload (apart _ _ held source version)
    · exact consistent.uniqueImport first second one two held held' source version payload
  · intro key cve cve' one two held held' same
    simp only [KevTables.inserted, get?_insertedRecords] at held held'
    split at held
    · rename_i here
      subst here
      rw [unrecorded, Option.or_none, Option.map_eq_some_iff] at held held'
      obtain ⟨record, found, rfl⟩ := held
      obtain ⟨record', found', rfl⟩ := held'
      rw [if_pos rfl] at found'
      obtain ⟨member, rfl⟩ := catalog.record?_eq_some.mp found
      obtain ⟨member', rfl⟩ := catalog.record?_eq_some.mp found'
      rw [List.inj_on_of_nodup_map catalog.distinct member member' same]
    · rename_i there
      rw [if_neg there] at held'
      exact consistent.recordIds key cve cve' one two held held' same
  · intro key cve stored held
    simp only [KevTables.inserted, get?_insertedRecords, Dict.get?_set] at held ⊢
    split
    · rfl
    · rename_i there
      rw [if_neg there] at held
      exact consistent.recorded key cve stored held
  · intro key advisoryId cve correlation held
    obtain ⟨stored, there, same⟩ := consistent.correlated key advisoryId cve correlation held
    refine ⟨stored, ?_, same⟩
    simp only [KevTables.inserted, get?_insertedRecords]
    split
    · rename_i here
      subst here
      rw [unrecorded] at there
      cases there
    · exact there

theorem install_spec (consistent : tables.Consistent)
    (done : tables.install digest catalog checksum freshId = .ok (importId, installed)) :
    Installed tables catalog checksum importId installed := by
  rw [KevTables.install] at done
  split at done
  · rename_i found existing
    cases done
    refine ⟨fun cve => ?_, rfl, rfl, rfl, rfl, rfl, consistent.deactivated.reactivated _⟩
    simp only [KevTables.reactivated, KevTables.deactivated, KevTables.installedRecord, existing, Dict.get?_mapValues,
      Dict.get?_map, Option.map_map]
    cases tables.records.get? (importId, cve) <;> simp
  · rename_i absent
    split at done
    · cases done
    · rename_i fresh
      cases done
      have fresh : tables.imports.get? importId = none := Option.not_isSome_iff_eq_none.mp fresh
      have fresh' : tables.deactivated.imports.get? importId = none := by
        simp only [KevTables.deactivated, Dict.get?_map, fresh, Option.map_none]
      refine ⟨fun cve => ?_, rfl, rfl, rfl, rfl, rfl, consistent.deactivated.inserted _ fresh' ?_⟩
      · have unrecorded : tables.deactivated.records.get? (importId, cve) = none := by
          cases held : tables.deactivated.records.get? (importId, cve) with
          | none => rfl
          | some stored =>
            have known := consistent.deactivated.recorded importId cve stored held
            rw [fresh'] at known
            cases known
        simp only [KevTables.inserted, get?_insertedRecords, KevTables.installedRecord, absent, if_true, unrecorded,
          Option.or_none, Option.map_map]
        rfl
      · intro key stored held source version
        simp only [KevTables.deactivated, Dict.get?_map, Option.map_eq_some_iff] at held
        obtain ⟨row, held, rfl⟩ := held
        split at source <;> split <;> rename_i h h'
        · exact existingImport_none absent row held source (by simpa [h] using version)
        · exact absurd h h'
        · exact absurd h' h
        · exact absurd source h

end

end OpenAssetWatch.Kev
