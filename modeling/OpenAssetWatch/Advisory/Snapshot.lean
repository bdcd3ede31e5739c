import OpenAssetWatch.Advisory.Import

namespace OpenAssetWatch.Advisory

open Library Text Version

/-- The keys of the tables: a range belongs to a stored component, and an advisory has the id of its source and record. -/
structure AdvisoryTables.Keyed (tables : AdvisoryTables) : Prop where
  owned : ∀ range ∈ tables.versionRanges, ∃ row ∈ tables.affectedComponents, row.affectedId = range.affectedId
  named : ∀ advisoryId row, tables.advisories.get? advisoryId = some row → advisoryId = advisoryIdFor row.source row.sourceRecordId

/-- What is stored of an advisory: its fields, aliases, references, and components with their ranges. -/
structure AdvisoryContent where
  fields : AdvisoryFields
  aliases : List String
  references : List ReferenceRow
  affected : List (AffectedRow × List RangeRow)
deriving DecidableEq

def contentOf (tables : AdvisoryTables) (advisoryId : AdvisoryId) (fields : AdvisoryFields) : AdvisoryContent where
  fields
  aliases := (tables.aliases.filter fun row => row.advisoryId = advisoryId).map (·.alias_)
  references := tables.references.filter fun row => row.advisoryId = advisoryId
  affected := (tables.affectedComponents.filter fun row => row.advisoryId = advisoryId).map fun row =>
    (row, tables.versionRanges.filter fun range => range.affectedId = row.affectedId)

section

variable (lower : String → String) (recordChecksum : AdvisoryRecord → String)

/-- The current advisories of a source. -/
def currentContent (tables : AdvisoryTables) (source : String) (advisoryId : AdvisoryId) : Option AdvisoryContent :=
  ((tables.advisories.get? advisoryId).filter fun row => row.current && lower row.source = lower source).map fun row =>
    contentOf tables advisoryId row.toAdvisoryFields

/-- What a catalog says of a record. -/
def recordContent (source : CatalogSource) (record : AdvisoryRecord) : AdvisoryContent where
  fields := fieldsOf recordChecksum source.version record
  aliases := record.aliases
  references := referenceRows (advisoryIdFor source.name record.id) record
  affected := record.affected.zipIdx.map fun affected =>
    (affectedRow (advisoryIdFor source.name record.id) affected.1 affected.2,
      rangeRows (affectedIdFor (advisoryIdFor source.name record.id) affected.1 affected.2) affected.1.ranges)

def catalogContent (catalog : AdvisoryCatalog) (advisoryId : AdvisoryId) : Option AdvisoryContent :=
  (catalog.advisories.find? fun record => advisoryIdFor catalog.source.name record.id = advisoryId).map
    (recordContent recordChecksum catalog.source)

end

section Record

variable {recordChecksum : AdvisoryRecord → String} {source : CatalogSource} {importId : String} {tables : AdvisoryTables}
  {record : AdvisoryRecord} {advisoryId : AdvisoryId}

theorem rangeRows_affectedId {affectedId : AffectedId} {ranges : List VersionRange} {row : RangeRow}
    (member : row ∈ rangeRows affectedId ranges) : row.affectedId = affectedId := by
  obtain ⟨pair, -, rfl⟩ := List.mem_map.mp member
  rfl

theorem allRangeRows_owned {row : RangeRow} (member : row ∈ allRangeRows advisoryId record) :
    row.affectedId.advisoryId = advisoryId ∧ ∃ affected ∈ affectedRows advisoryId record, affected.affectedId = row.affectedId := by
  obtain ⟨affected, listed, ranged⟩ := List.mem_flatMap.mp member
  have same := rangeRows_affectedId ranged
  rw [same]
  exact ⟨rfl, affectedRow advisoryId affected.1 affected.2, List.mem_map.mpr ⟨affected, listed, rfl⟩, rfl⟩

theorem affectedRows_advisoryId {row : AffectedRow} (member : row ∈ affectedRows advisoryId record) : row.advisoryId = advisoryId := by
  obtain ⟨pair, -, rfl⟩ := List.mem_map.mp member
  rfl

theorem aliasRows_advisoryId {row : AdvisoryAlias} (member : row ∈ aliasRows advisoryId record) : row.advisoryId = advisoryId := by
  obtain ⟨text, -, rfl⟩ := List.mem_map.mp member
  rfl

theorem referenceRows_advisoryId {row : ReferenceRow} (member : row ∈ referenceRows advisoryId record) : row.advisoryId = advisoryId := by
  obtain ⟨pair, -, rfl⟩ := List.mem_map.mp member
  rfl

theorem affectedIds_nodup : (record.affected.zipIdx.map fun pair => affectedIdFor advisoryId pair.1 pair.2).Nodup := by
  have ordinals : (record.affected.zipIdx.map Prod.snd).Nodup := by
    rw [List.zipIdx_map_snd]
    exact List.nodup_range'
  apply List.Nodup.of_map AffectedId.ordinal
  rw [List.map_map]
  exact ordinals

theorem importRecord_versionRanges (keyed : tables.Keyed) :
    (importRecord recordChecksum source importId tables record).versionRanges =
      replaceRows (·.affectedId.advisoryId) (advisoryIdFor source.name record.id) tables.versionRanges
        (allRangeRows (advisoryIdFor source.name record.id) record) := by
  simp only [importRecord, replaceRows]
  congr 1
  apply List.filter_congr
  intro range member
  obtain ⟨row, stored, same⟩ := keyed.owned range member
  by_cases own : range.affectedId.advisoryId = advisoryIdFor source.name record.id
  · have deleted : range.affectedId ∈ (tables.affectedComponents.filter fun row =>
        row.advisoryId = advisoryIdFor source.name record.id).map (·.affectedId) := by
      refine List.mem_map.mpr ⟨row, List.mem_filter.mpr ⟨stored, decide_eq_true ?_⟩, same⟩
      rw [AffectedRow.advisoryId, same]
      exact own
    rw [List.contains_iff_mem.mpr deleted, decide_eq_false (not_not.mpr own)]
    rfl
  · have kept : range.affectedId ∉ (tables.affectedComponents.filter fun row =>
        row.advisoryId = advisoryIdFor source.name record.id).map (·.affectedId) := by
      intro deleted
      obtain ⟨other, selected, equal⟩ := List.mem_map.mp deleted
      apply own
      rw [← equal]
      exact of_decide_eq_true (List.mem_filter.mp selected).2
    rw [decide_eq_true own, Bool.not_eq_true', ← Bool.not_eq_true, List.contains_iff_mem]
    exact kept

theorem importRecord_keyed (keyed : tables.Keyed) : (importRecord recordChecksum source importId tables record).Keyed where
  owned range member := by
    rw [importRecord_versionRanges keyed] at member
    rcases List.mem_append.mp member with old | new
    · obtain ⟨stored, other⟩ := List.mem_filter.mp old
      obtain ⟨row, listed, same⟩ := keyed.owned range stored
      have kept : decide (row.affectedId.advisoryId ≠ advisoryIdFor source.name record.id) = true := by
        rw [same]
        exact other
      exact ⟨row, List.mem_append_left _ (List.mem_filter.mpr ⟨listed, kept⟩), same⟩
    · obtain ⟨-, row, listed, same⟩ := allRangeRows_owned new
      exact ⟨row, List.mem_append_right _ listed, same⟩
  named advisoryId row stored := by
    have stored : (tables.advisories.update (advisoryIdFor source.name record.id)
      (upsertAdvisory recordChecksum source importId record)).get? advisoryId = some row := stored
    rw [Dict.get?_update] at stored
    split at stored
    · rename_i own
      cases stored
      cases before : tables.advisories.get? (advisoryIdFor source.name record.id) with
      | none => exact own
      | some row => exact own.trans (keyed.named _ row before)
    · exact keyed.named advisoryId row stored

theorem importRecord_get?_self : (importRecord recordChecksum source importId tables record).advisories.get?
    (advisoryIdFor source.name record.id) = some (upsertAdvisory recordChecksum source importId record
      (tables.advisories.get? (advisoryIdFor source.name record.id))) :=
  Dict.get?_update_self _ _ _

theorem importRecord_contentOf_self (keyed : tables.Keyed) (fields : AdvisoryFields) :
    contentOf (importRecord recordChecksum source importId tables record) (advisoryIdFor source.name record.id) fields =
      { recordContent recordChecksum source record with fields } := by
  have aliases : ((importRecord recordChecksum source importId tables record).aliases.filter fun row =>
      row.advisoryId = advisoryIdFor source.name record.id) = aliasRows (advisoryIdFor source.name record.id) record :=
    filter_replaceRows_self fun _ => aliasRows_advisoryId
  have references : ((importRecord recordChecksum source importId tables record).references.filter fun row =>
      row.advisoryId = advisoryIdFor source.name record.id) = referenceRows (advisoryIdFor source.name record.id) record :=
    filter_replaceRows_self fun _ => referenceRows_advisoryId
  have affected : ((importRecord recordChecksum source importId tables record).affectedComponents.filter fun row =>
      row.advisoryId = advisoryIdFor source.name record.id) = affectedRows (advisoryIdFor source.name record.id) record :=
    filter_replaceRows_self fun _ => affectedRows_advisoryId
  have named : (aliasRows (advisoryIdFor source.name record.id) record).map (·.alias_) = record.aliases := by
    rw [aliasRows, List.map_map]
    exact List.map_id _
  have ranges (component : AffectedComponent × Nat) (member : component ∈ record.affected.zipIdx) :
      ((importRecord recordChecksum source importId tables record).versionRanges.filter fun range =>
        range.affectedId = affectedIdFor (advisoryIdFor source.name record.id) component.1 component.2) =
        rangeRows (affectedIdFor (advisoryIdFor source.name record.id) component.1 component.2) component.1.ranges := by
    have inside (range : RangeRow) (found : decide (range.affectedId =
        affectedIdFor (advisoryIdFor source.name record.id) component.1 component.2) = true) :
        range.affectedId.advisoryId = advisoryIdFor source.name record.id := by
      rw [of_decide_eq_true found]
      rfl
    rw [importRecord_versionRanges keyed, filter_replaceRows_inside inside]
    exact filter_flatMap_key (fun _ _ _ => rangeRows_affectedId) affectedIds_nodup member
  have components : ((affectedRows (advisoryIdFor source.name record.id) record).map fun row =>
      (row, (importRecord recordChecksum source importId tables record).versionRanges.filter fun range =>
        range.affectedId = row.affectedId)) = (recordContent recordChecksum source record).affected := by
    rw [affectedRows, List.map_map]
    apply List.map_congr_left
    intro component member
    exact congrArg (Prod.mk _) (ranges component member)
  rw [contentOf, aliases, references, affected, named, components]
  rfl

theorem importRecord_contentOf_ne (apart : advisoryId ≠ advisoryIdFor source.name record.id) (fields : AdvisoryFields) :
    contentOf (importRecord recordChecksum source importId tables record) advisoryId fields = contentOf tables advisoryId fields := by
  have aliases : ((importRecord recordChecksum source importId tables record).aliases.filter fun row =>
      row.advisoryId = advisoryId) = tables.aliases.filter fun row => row.advisoryId = advisoryId :=
    filter_replaceRows_ne apart fun _ => aliasRows_advisoryId
  have references : ((importRecord recordChecksum source importId tables record).references.filter fun row =>
      row.advisoryId = advisoryId) = tables.references.filter fun row => row.advisoryId = advisoryId :=
    filter_replaceRows_ne apart fun _ => referenceRows_advisoryId
  have affected : ((importRecord recordChecksum source importId tables record).affectedComponents.filter fun row =>
      row.advisoryId = advisoryId) = tables.affectedComponents.filter fun row => row.advisoryId = advisoryId :=
    filter_replaceRows_ne apart fun _ => affectedRows_advisoryId
  have ranges (row : AffectedRow) (own : row.advisoryId = advisoryId) :
      ((importRecord recordChecksum source importId tables record).versionRanges.filter fun range =>
        range.affectedId = row.affectedId) = tables.versionRanges.filter fun range => range.affectedId = row.affectedId := by
    simp only [importRecord, List.filter_append]
    have none : (allRangeRows (advisoryIdFor source.name record.id) record).filter (fun range =>
        range.affectedId = row.affectedId) = [] := by
      apply List.filter_eq_nil_iff.mpr
      intro range member found
      have other := (allRangeRows_owned member).1
      rw [of_decide_eq_true found] at other
      exact apart (own.symm.trans other)
    rw [none, List.append_nil, List.filter_filter]
    apply List.filter_congr
    intro range _
    by_cases found : range.affectedId = row.affectedId
    · have kept : row.affectedId ∉ (tables.affectedComponents.filter fun row =>
          row.advisoryId = advisoryIdFor source.name record.id).map (·.affectedId) := by
        intro deleted
        obtain ⟨other, selected, equal⟩ := List.mem_map.mp deleted
        apply apart
        rw [← own, AffectedRow.advisoryId, ← equal]
        exact of_decide_eq_true (List.mem_filter.mp selected).2
      rw [found, decide_eq_true rfl, Bool.true_and, Bool.not_eq_true', ← Bool.not_eq_true, List.contains_iff_mem]
      exact kept
    · rw [decide_eq_false found, Bool.false_and]
  rw [contentOf, contentOf, aliases, references, affected]
  congr 1
  apply List.map_congr_left
  intro row member
  rw [ranges row (of_decide_eq_true (List.mem_filter.mp member).2)]

theorem importRecord_get?_ne (apart : advisoryId ≠ advisoryIdFor source.name record.id) :
    (importRecord recordChecksum source importId tables record).advisories.get? advisoryId = tables.advisories.get? advisoryId :=
  Dict.get?_update_ne _ apart _

end Record

section Records

variable {recordChecksum : AdvisoryRecord → String} {source : CatalogSource} {importId : String} {tables : AdvisoryTables}
  {records : List AdvisoryRecord} {advisoryId : AdvisoryId}

theorem importRecords_keyed (keyed : tables.Keyed) : (records.foldl (importRecord recordChecksum source importId) tables).Keyed := by
  induction records generalizing tables with
  | nil => exact keyed
  | cons record rest ih => exact ih (importRecord_keyed keyed)

theorem importRecords_absent (recordChecksum : AdvisoryRecord → String) (importId : String) (tables : AdvisoryTables)
    (absent : ∀ record ∈ records, advisoryId ≠ advisoryIdFor source.name record.id) :
    (records.foldl (importRecord recordChecksum source importId) tables).advisories.get? advisoryId =
        tables.advisories.get? advisoryId ∧
      ∀ fields, contentOf (records.foldl (importRecord recordChecksum source importId) tables) advisoryId fields =
        contentOf tables advisoryId fields := by
  induction records generalizing tables with
  | nil => exact ⟨rfl, fun _ => rfl⟩
  | cons record rest ih =>
    have first := absent record List.mem_cons_self
    obtain ⟨row, content⟩ := ih (importRecord recordChecksum source importId tables record)
      fun other member => absent other (List.mem_cons_of_mem _ member)
    exact ⟨row.trans (importRecord_get?_ne first), fun fields => (content fields).trans (importRecord_contentOf_ne first fields)⟩

theorem importRecords_present (recordChecksum : AdvisoryRecord → String) (importId : String) (keyed : tables.Keyed)
    (distinct : (records.map fun record => advisoryIdFor source.name record.id).Nodup) {record : AdvisoryRecord}
    (member : record ∈ records) :
    (records.foldl (importRecord recordChecksum source importId) tables).advisories.get? (advisoryIdFor source.name record.id) =
        some (upsertAdvisory recordChecksum source importId record
          (tables.advisories.get? (advisoryIdFor source.name record.id))) ∧
      ∀ fields, contentOf (records.foldl (importRecord recordChecksum source importId) tables)
        (advisoryIdFor source.name record.id) fields = { recordContent recordChecksum source record with fields } := by
  induction records generalizing tables with
  | nil => cases member
  | cons first rest ih =>
    obtain ⟨fresh, others⟩ := List.nodup_cons.mp distinct
    rcases List.mem_cons.mp member with rfl | later
    · have absent (other : AdvisoryRecord) (listed : other ∈ rest) :
          advisoryIdFor source.name record.id ≠ advisoryIdFor source.name other.id :=
        fun same => fresh (List.mem_map.mpr ⟨other, listed, same.symm⟩)
      obtain ⟨row, content⟩ := importRecords_absent recordChecksum importId
        (importRecord recordChecksum source importId tables record) absent
      exact ⟨row.trans importRecord_get?_self, fun fields => (content fields).trans (importRecord_contentOf_self keyed fields)⟩
    · have apart : advisoryIdFor source.name record.id ≠ advisoryIdFor source.name first.id :=
        fun same => fresh (List.mem_map.mpr ⟨record, later, same⟩)
      obtain ⟨row, content⟩ := ih (importRecord_keyed keyed) others later
      rw [importRecord_get?_ne apart] at row
      exact ⟨row, content⟩

end Records

section Replace

variable {lower : String → String} {recordChecksum : AdvisoryRecord → String} {catalog : AdvisoryCatalog} {importId : String}
  {tables : AdvisoryTables} {advisoryId : AdvisoryId} {row : AdvisoryRow}

theorem advisoryIds_nodup (catalog : AdvisoryCatalog) :
    (catalog.advisories.map fun record => advisoryIdFor catalog.source.name record.id).Nodup := by
  apply List.Nodup.of_map AdvisoryId.sourceRecordId
  rw [List.map_map]
  exact catalog.distinct

theorem catalogContent_record {record : AdvisoryRecord} (member : record ∈ catalog.advisories) :
    catalogContent recordChecksum catalog (advisoryIdFor catalog.source.name record.id) =
      some (recordContent recordChecksum catalog.source record) := by
  rw [catalogContent]
  cases found : catalog.advisories.find? fun other =>
      advisoryIdFor catalog.source.name other.id = advisoryIdFor catalog.source.name record.id with
  | none => exact absurd (decide_eq_true rfl) (List.find?_eq_none.mp found record member)
  | some other =>
    have equal := List.find?_some found
    simp only [decide_eq_true_eq] at equal
    rw [List.inj_on_of_nodup_map (advisoryIds_nodup catalog) (List.mem_of_find?_eq_some found) member equal]
    rfl

theorem catalogContent_absent (absent : ∀ record ∈ catalog.advisories, advisoryId ≠ advisoryIdFor catalog.source.name record.id) :
    catalogContent recordChecksum catalog advisoryId = none := by
  rw [catalogContent, List.find?_eq_none.mpr]
  · rfl
  · intro record member same
    exact absent record member (of_decide_eq_true same).symm

theorem replaceSnapshot_keyed (keyed : tables.Keyed) : (replaceSnapshot recordChecksum lower catalog importId tables).Keyed := by
  have imported : (catalog.advisories.foldl (importRecord recordChecksum catalog.source importId) tables).Keyed :=
    importRecords_keyed keyed
  refine ⟨imported.owned, fun advisoryId row stored => ?_⟩
  simp only [replaceSnapshot, retireStale, Dict.get?_mapValues, Option.map_eq_some_iff] at stored
  obtain ⟨before, found, rfl⟩ := stored
  have named := imported.named advisoryId before found
  split
  · exact named
  · exact named

theorem replaceSnapshot_get? : (replaceSnapshot recordChecksum lower catalog importId tables).advisories.get? advisoryId =
    ((catalog.advisories.foldl (importRecord recordChecksum catalog.source importId) tables).advisories.get? advisoryId).map fun row =>
      if lower row.source = lower catalog.source.name && row.current && !(importedIdsOf catalog).contains advisoryId then
        { row with current := false }
      else row :=
  Dict.get?_mapValues _ _ _

theorem replaceSnapshot_contentOf (fields : AdvisoryFields) :
    contentOf (replaceSnapshot recordChecksum lower catalog importId tables) advisoryId fields =
      contentOf (catalog.advisories.foldl (importRecord recordChecksum catalog.source importId) tables) advisoryId fields :=
  rfl

theorem mem_importedIds (record : AdvisoryRecord) (member : record ∈ catalog.advisories) :
    (importedIdsOf catalog).contains (advisoryIdFor catalog.source.name record.id) = true :=
  List.contains_iff_mem.mpr (List.mem_map.mpr ⟨record, member, rfl⟩)

theorem not_mem_importedIds (absent : ∀ record ∈ catalog.advisories, advisoryId ≠ advisoryIdFor catalog.source.name record.id) :
    (importedIdsOf catalog).contains advisoryId = false := by
  rw [← Bool.not_eq_true, List.contains_iff_mem]
  intro member
  obtain ⟨record, listed, same⟩ := List.mem_map.mp member
  exact absent record listed same.symm

/-- The stored names that fold like the catalog's are those that the database takes for it. -/
def NamesAgree (lower : String → String) (tables : AdvisoryTables) (source : String) : Prop :=
  ∀ advisoryId row, tables.advisories.get? advisoryId = some row →
    (casefoldText row.source = casefoldText source ↔ lower row.source = lower source)

theorem replaceSnapshot_current (keyed : tables.Keyed) (agree : NamesAgree lower tables catalog.source.name) (advisoryId : AdvisoryId) :
    currentContent lower (replaceSnapshot recordChecksum lower catalog importId tables) catalog.source.name advisoryId =
      catalogContent recordChecksum catalog advisoryId := by
  by_cases named : ∃ record ∈ catalog.advisories, advisoryId = advisoryIdFor catalog.source.name record.id
  · obtain ⟨record, member, rfl⟩ := named
    obtain ⟨stored, content⟩ := importRecords_present recordChecksum importId keyed
      (advisoryIds_nodup catalog) member
    have source : lower (upsertAdvisory recordChecksum catalog.source importId record
        (tables.advisories.get? (advisoryIdFor catalog.source.name record.id))).source = lower catalog.source.name := by
      cases before : tables.advisories.get? (advisoryIdFor catalog.source.name record.id) with
      | none => rfl
      | some row =>
        have id := keyed.named _ row before
        exact (agree _ row before).mp (congrArg AdvisoryId.source id).symm
    rw [currentContent, replaceSnapshot_get?, stored, catalogContent_record member]
    simp only [Option.map_some, mem_importedIds record member, Bool.not_true, Bool.and_false, Bool.false_eq_true, if_false]
    rw [Option.filter_some, source, decide_eq_true rfl, Bool.and_true]
    show Option.map _ (if true = true then some _ else none) = _
    rw [if_pos rfl, Option.map_some, replaceSnapshot_contentOf, content]
    rfl
  · have absent (record : AdvisoryRecord) (member : record ∈ catalog.advisories) :
        advisoryId ≠ advisoryIdFor catalog.source.name record.id := fun same => named ⟨record, member, same⟩
    rw [catalogContent_absent absent, currentContent, replaceSnapshot_get?, not_mem_importedIds absent]
    rw [(importRecords_absent recordChecksum importId tables absent).1]
    cases tables.advisories.get? advisoryId with
    | none => rfl
    | some row =>
      simp only [Option.map_some, Bool.not_false, Bool.and_true]
      by_cases current : (decide (lower row.source = lower catalog.source.name) && row.current) = true
      · rw [if_pos current]
        rfl
      · rw [if_neg current, Option.filter_some, Bool.and_comm, if_neg current]
        rfl

theorem replaceSnapshot_other (keyed : tables.Keyed) (agree : NamesAgree lower tables catalog.source.name)
    (stored : tables.advisories.get? advisoryId = some row) (other : lower row.source ≠ lower catalog.source.name) :
    (replaceSnapshot recordChecksum lower catalog importId tables).advisories.get? advisoryId = some row ∧
      contentOf (replaceSnapshot recordChecksum lower catalog importId tables) advisoryId row.toAdvisoryFields =
        contentOf tables advisoryId row.toAdvisoryFields := by
  have absent (record : AdvisoryRecord) (_ : record ∈ catalog.advisories) :
      advisoryId ≠ advisoryIdFor catalog.source.name record.id := by
    intro same
    have id := (keyed.named advisoryId row stored).symm.trans same
    exact other ((agree advisoryId row stored).mp (congrArg AdvisoryId.source id))
  obtain ⟨unchanged, content⟩ := importRecords_absent recordChecksum importId tables absent
  rw [replaceSnapshot_get?, unchanged, stored, replaceSnapshot_contentOf]
  refine ⟨?_, content _⟩
  rw [Option.map_some, decide_eq_false other, Bool.false_and, Bool.false_and, if_neg Bool.false_ne_true]

end Replace

end OpenAssetWatch.Advisory
