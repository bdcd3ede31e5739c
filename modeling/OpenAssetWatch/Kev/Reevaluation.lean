import OpenAssetWatch.Kev.Activation

namespace OpenAssetWatch.Kev

open Library Vulnerability

variable {digest : KevRecord → String} {upper : String → String} {tables installed correlated derived after : KevTables}
  {catalog : KevCatalog} {checksum importId freshId : String} {freshness : CatalogFreshness} {count : Nat} {now : Time}

section Correlation

theorem mem_correlationCandidates {row : CorrelationCandidate} :
    row ∈ tables.correlationCandidates upper importId ↔
      (∃ stored, tables.records.get? (importId, row.cveId) = some stored ∧ stored.active = true ∧
        stored.record.kevRecordId = row.kevRecordId) ∧
      (row.advisoryId, row.exactAlias) ∈ tables.advisoryAliases ∧ upper row.exactAlias = row.cveId ∧
      tables.advisoryCurrent.get? row.advisoryId = some true := by
  rw [KevTables.correlationCandidates, List.mem_dedup, List.mem_flatMap]
  constructor
  · rintro ⟨⟨⟨key, cve⟩, stored⟩, held, listed⟩
    dsimp only at listed
    split at listed
    · rename_i chosen
      simp only [Bool.and_eq_true, decide_eq_true_eq] at chosen
      obtain ⟨rfl, active⟩ := chosen
      obtain ⟨⟨advisoryId, exactAlias⟩, named, rfl⟩ := List.mem_map.mp listed
      simp only [List.mem_filter, Bool.and_eq_true, decide_eq_true_eq] at named
      exact ⟨⟨stored, (Dict.get?_eq_some _ _ _).mpr held, active, rfl⟩, named.1, named.2.1, named.2.2⟩
    · cases listed
  · rintro ⟨⟨stored, held, active, same⟩, named, exact_, current⟩
    refine ⟨((importId, row.cveId), stored), (Dict.get?_eq_some _ _ _).mp held, ?_⟩
    dsimp only
    rw [if_pos (by simp [active])]
    refine List.mem_map.mpr ⟨(row.advisoryId, row.exactAlias), ?_, ?_⟩
    · simp [List.mem_filter, named, exact_, current]
    · rw [same]

/-- What the tables are once the aliases of the import's records are correlated. -/
structure Correlated (upper : String → String) (tables : KevTables) (importId : String) (correlated : KevTables) : Prop where
  current : ∀ advisoryId cve, (∃ row, correlated.correlations.get? (importId, advisoryId, cve) = some row ∧ row.current = true) ↔
    (∃ stored, tables.records.get? (importId, cve) = some stored ∧ stored.active = true) ∧
      (∃ named ∈ tables.advisoryAliases, named.1 = advisoryId ∧ upper named.2 = cve) ∧
      tables.advisoryCurrent.get? advisoryId = some true
  unmatched : correlated.vulnerabilityMatches = tables.vulnerabilityMatches
  records : correlated.records = tables.records
  factors : correlated.factors = tables.factors
  consistent : correlated.Consistent

theorem correlate_spec (consistent : tables.Consistent)
    (stale : ∀ key row, tables.correlations.get? key = some row → row.current = false)
    (done : tables.correlate upper importId = .ok (correlated, count)) : Correlated upper tables importId correlated := by
  rw [KevTables.correlate] at done
  dsimp only at done
  split at done
  · cases done
  cases done
  refine ⟨fun advisoryId cve => ⟨?_, ?_⟩, rfl, rfl, rfl, ?_⟩
  · rintro ⟨row, held, current⟩
    by_cases some : ∃ item ∈ tables.correlationCandidates upper importId,
        (importId, item.advisoryId, item.cveId) = (importId, advisoryId, cve)
    · obtain ⟨item, listed, same⟩ := some
      cases same
      obtain ⟨⟨stored, there, active, -⟩, named, exact_, standing⟩ := mem_correlationCandidates.mp listed
      exact ⟨⟨stored, there, active⟩, ⟨_, named, rfl, exact_⟩, standing⟩
    · rw [Dict.get?_foldl_update_of_absent _ _ fun item listed same => some ⟨item, listed, same⟩] at held
      exact absurd (stale _ row held ▸ current) Bool.false_ne_true
  · rintro ⟨⟨stored, there, active⟩, ⟨⟨advisoryId, exactAlias⟩, named, rfl, exact_⟩, standing⟩
    have listed : (⟨advisoryId, exactAlias, stored.record.kevRecordId, cve⟩ : CorrelationCandidate) ∈
        tables.correlationCandidates upper importId :=
      mem_correlationCandidates.mpr ⟨⟨stored, there, active, rfl⟩, named, exact_, standing⟩
    obtain ⟨last, -, -, old, held⟩ := Dict.get?_foldl_update_of_present
      (fun row : CorrelationCandidate => (importId, row.advisoryId, row.cveId))
      (fun row old => { (old.getD ⟨row.kevRecordId, true⟩) with current := true }) tables.correlations listed
    exact ⟨_, held, rfl⟩
  · refine ⟨consistent.uniqueImport, consistent.recordIds, consistent.recorded, fun key advisoryId cve row held => ?_⟩
    exact Dict.foldl_update_invariant (fun (key : String × String × String) (row : CorrelationRow) =>
      ∃ stored, tables.records.get? (key.1, key.2.2) = some stored ∧ stored.record.kevRecordId = row.kevRecordId)
      (fun key row before => consistent.correlated key.1 key.2.1 key.2.2 row before)
      (fun item listed => by
        obtain ⟨⟨stored, there, -, same⟩, -⟩ := mem_correlationCandidates.mp listed
        exact ⟨stored, there, same⟩)
      (fun item _ row before => before) held

end Correlation

section Factors

/-- A current advisory carries the CVE of an installed record as an alias, and the match says that it affects its asset. -/
structure Derives (upper : String → String) (tables : KevTables) (record : String → Option KevRecord) (matchId cve : String)
    (campaign : RansomwareCampaignStatus) : Prop where
  correlates : ∃ item, tables.vulnerabilityMatches.get? matchId = some item ∧ item.matchStatus = .affected ∧
    tables.advisoryCurrent.get? item.advisoryId = some true ∧
    ∃ named ∈ tables.advisoryAliases, named.1 = item.advisoryId ∧ upper named.2 = cve
  recorded : ∃ found, record cve = some found ∧ found.ransomwareCampaignStatus = campaign

theorem mem_factorCandidates (consistent : tables.Consistent) {row : FactorCandidate} :
    row ∈ tables.factorCandidates importId ↔
      ∃ item correlation stored, tables.vulnerabilityMatches.get? row.matchId = some item ∧ item.matchStatus = .affected ∧
        tables.correlations.get? (importId, item.advisoryId, row.cveId) = some correlation ∧ correlation.current = true ∧
        tables.records.get? (importId, row.cveId) = some stored ∧
        row = ⟨row.matchId, item.advisoryId, item.siteId, correlation.kevRecordId, row.cveId,
          stored.record.ransomwareCampaignStatus⟩ := by
  rw [KevTables.factorCandidates, List.mem_dedup, List.mem_flatMap]
  constructor
  · rintro ⟨⟨⟨key, advisoryId, cve⟩, correlation⟩, held, listed⟩
    dsimp only at listed
    split at listed
    · rename_i chosen
      simp only [Bool.and_eq_true, decide_eq_true_eq] at chosen
      obtain ⟨rfl, current⟩ := chosen
      obtain ⟨⟨⟨key', cve'⟩, stored⟩, there, listed⟩ := List.mem_flatMap.mp listed
      simp only [List.mem_filter, Bool.and_eq_true, decide_eq_true_eq] at there
      obtain ⟨there, rfl, same⟩ := there
      obtain ⟨⟨matchId, item⟩, affected, rfl⟩ := List.mem_map.mp listed
      simp only [List.mem_filter, Bool.and_eq_true, decide_eq_true_eq] at affected
      obtain ⟨affected, rfl, status⟩ := affected
      have held := (Dict.get?_eq_some _ _ _).mpr held
      have there := (Dict.get?_eq_some _ _ _).mpr there
      obtain ⟨own, named, own_id⟩ := consistent.correlated _ _ _ _ held
      have one := consistent.recordIds _ _ _ _ _ there named (same.trans own_id.symm)
      subst one
      exact ⟨item, correlation, stored, (Dict.get?_eq_some _ _ _).mpr affected, status, held, current, there, rfl⟩
    · cases listed
  · rintro ⟨item, correlation, stored, affected, status, held, current, there, same⟩
    refine ⟨((importId, item.advisoryId, row.cveId), correlation), (Dict.get?_eq_some _ _ _).mp held, ?_⟩
    dsimp only
    rw [if_pos (by simp [current])]
    obtain ⟨own, named, own_id⟩ := consistent.correlated _ _ _ _ held
    rw [there] at named
    cases named
    refine List.mem_flatMap.mpr ⟨((importId, row.cveId), stored), ?_, List.mem_map.mpr ⟨(row.matchId, item), ?_, same.symm⟩⟩
    · simp [List.mem_filter, (Dict.get?_eq_some _ _ _).mp there, own_id]
    · simp [List.mem_filter, (Dict.get?_eq_some _ _ _).mp affected, status]

theorem candidate_iff (here : Installed tables catalog checksum importId installed)
    (there : Correlated upper installed importId correlated) {matchId cve : String} {campaign : RansomwareCampaignStatus} :
    (∃ row ∈ correlated.factorCandidates importId, row.matchId = matchId ∧ row.cveId = cve ∧ row.campaign = campaign) ↔
      Derives upper tables (tables.installedRecord catalog checksum) matchId cve campaign := by
  have brought := here.records cve
  constructor
  · rintro ⟨row, listed, rfl, rfl, rfl⟩
    obtain ⟨item, correlation, stored, affected, status, held, current, recorded, same⟩ :=
      (mem_factorCandidates there.consistent).mp listed
    obtain ⟨-, ⟨named, alias_, own, exact_⟩, standing⟩ := (there.current _ _).mp ⟨correlation, held, current⟩
    rw [there.unmatched, here.unmatched] at affected
    rw [here.aliases] at alias_
    rw [here.advisories] at standing
    rw [there.records] at recorded
    rw [recorded, Option.map_some] at brought
    obtain ⟨found, installs, pair⟩ := Option.map_eq_some_iff.mp brought.symm
    refine ⟨⟨item, affected, status, standing, named, alias_, own, exact_⟩, found, installs, ?_⟩
    rw [(Prod.mk.inj pair).1, same]
  · rintro ⟨⟨item, affected, status, standing, named, alias_, own, exact_⟩, found, installs, rfl⟩
    rw [installs, Option.map_some] at brought
    obtain ⟨stored, recorded, pair⟩ := Option.map_eq_some_iff.mp brought
    obtain ⟨own_record, active⟩ := Prod.mk.inj pair
    obtain ⟨correlation, held, current⟩ := (there.current item.advisoryId cve).mpr
      ⟨⟨stored, recorded, active⟩, ⟨named, here.aliases ▸ alias_, own, exact_⟩, here.advisories ▸ standing⟩
    refine ⟨⟨matchId, item.advisoryId, item.siteId, correlation.kevRecordId, cve, found.ransomwareCampaignStatus⟩,
      (mem_factorCandidates there.consistent).mpr ⟨item, correlation, stored, ?_, status, held, current, ?_, ?_⟩, rfl, rfl, rfl⟩
    · rw [there.unmatched, here.unmatched]
      exact affected
    · rw [there.records]
      exact recorded
    · rw [own_record]

/-- What the tables are once the factors of the import are derived. -/
structure Derived (upper : String → String) (tables : KevTables) (catalog : KevCatalog) (checksum importId : String)
    (freshness : CatalogFreshness) (derived : KevTables) : Prop where
  current : ∀ key matchId cve row, derived.factors.get? (key, matchId, cve) = some row → row.current = true →
    key = importId ∧ ∃ campaign, Derives upper tables (tables.installedRecord catalog checksum) matchId cve campaign ∧
      row.priorityStatus = priorityStatus campaign ∧ row.adjustedWeight = adjustedWeight (priorityStatus campaign) freshness
  derives : ∀ matchId cve campaign, Derives upper tables (tables.installedRecord catalog checksum) matchId cve campaign →
    ∃ row, derived.factors.get? (importId, matchId, cve) = some row ∧ row.current = true ∧
      row.priorityStatus = priorityStatus campaign ∧ row.adjustedWeight = adjustedWeight (priorityStatus campaign) freshness
  stored : ∀ key matchId cve, (∃ row, derived.factors.get? (key, matchId, cve) = some row) ↔
    (∃ row, tables.factors.get? (key, matchId, cve) = some row) ∨
      (key = importId ∧ ∃ campaign, Derives upper tables (tables.installedRecord catalog checksum) matchId cve campaign)
  unmatched : derived.vulnerabilityMatches = tables.vulnerabilityMatches
  consistent : derived.Consistent

theorem Derives.unique {record : String → Option KevRecord} {matchId cve : String} {campaign campaign' : RansomwareCampaignStatus}
    (one : Derives upper tables record matchId cve campaign) (two : Derives upper tables record matchId cve campaign') :
    campaign = campaign' := by
  obtain ⟨found, here, rfl⟩ := one.recorded
  obtain ⟨found', there, rfl⟩ := two.recorded
  rw [Option.some_inj.mp (here.symm.trans there)]

theorem deriveFactors_spec (here : Installed tables catalog checksum importId installed)
    (there : Correlated upper installed importId correlated)
    (done : correlated.deriveFactors importId freshness = .ok (derived, count)) :
    Derived upper tables catalog checksum importId freshness derived := by
  rw [KevTables.deriveFactors] at done
  split at done
  · cases done
  cases done
  have before (key : String × String × String) : (correlated.factors.get? key) =
      (tables.factors.get? key).map fun row => { row with current := false } := by
    rw [there.factors, here.factors, Dict.get?_map]
  have written {matchId cve : String} {campaign : RansomwareCampaignStatus}
      (derives : Derives upper tables (tables.installedRecord catalog checksum) matchId cve campaign) :
      ∃ row, ((correlated.factorCandidates importId).foldl (fun stored row =>
        stored.update (importId, row.matchId, row.cveId) (KevTables.upsertedFactor freshness row)) correlated.factors).get?
          (importId, matchId, cve) = some row ∧ row.current = true ∧ row.priorityStatus = priorityStatus campaign ∧
            row.adjustedWeight = adjustedWeight (priorityStatus campaign) freshness := by
    obtain ⟨row, listed, rfl, rfl, rfl⟩ := (candidate_iff here there).mpr derives
    obtain ⟨last, listed', same, old, held⟩ := Dict.get?_foldl_update_of_present
      (fun row : FactorCandidate => (importId, row.matchId, row.cveId)) (KevTables.upsertedFactor freshness) correlated.factors listed
    have again := (candidate_iff here there).mp ⟨last, listed', rfl, rfl, rfl⟩
    obtain ⟨sameMatch, sameCve⟩ := Prod.mk.inj (Prod.mk.inj same).2
    rw [sameMatch, sameCve] at again
    rw [derives.unique again]
    exact ⟨_, held, rfl, rfl, rfl⟩
  refine ⟨fun key matchId cve row held current => ?_, fun matchId cve campaign derives => written derives,
    fun key matchId cve => ⟨?_, ?_⟩, there.unmatched.trans here.unmatched, ?_⟩
  · by_cases some : ∃ item ∈ correlated.factorCandidates importId, (importId, item.matchId, item.cveId) = (key, matchId, cve)
    · obtain ⟨item, listed, same⟩ := some
      cases same
      have derives := (candidate_iff here there).mp ⟨item, listed, rfl, rfl, rfl⟩
      obtain ⟨row', held', -, status, weight⟩ := written derives
      cases held.symm.trans held'
      exact ⟨rfl, item.campaign, derives, status, weight⟩
    · rw [Dict.get?_foldl_update_of_absent _ _ fun item listed same => some ⟨item, listed, same⟩, before,
        Option.map_eq_some_iff] at held
      obtain ⟨old, -, rfl⟩ := held
      cases current
  · rintro ⟨row, held⟩
    by_cases some : ∃ item ∈ correlated.factorCandidates importId, (importId, item.matchId, item.cveId) = (key, matchId, cve)
    · obtain ⟨item, listed, same⟩ := some
      cases same
      exact .inr ⟨rfl, item.campaign, (candidate_iff here there).mp ⟨item, listed, rfl, rfl, rfl⟩⟩
    · rw [Dict.get?_foldl_update_of_absent _ _ fun item listed same => some ⟨item, listed, same⟩, before,
        Option.map_eq_some_iff] at held
      obtain ⟨old, held, -⟩ := held
      exact .inl ⟨old, held⟩
  · rintro (⟨row, held⟩ | ⟨rfl, campaign, derives⟩)
    · by_cases some : ∃ item ∈ correlated.factorCandidates importId, (importId, item.matchId, item.cveId) = (key, matchId, cve)
      · obtain ⟨item, listed, same⟩ := some
        cases same
        obtain ⟨row, held, -⟩ := written ((candidate_iff here there).mp ⟨item, listed, rfl, rfl, rfl⟩)
        exact ⟨row, held⟩
      · refine ⟨{ row with current := false }, ?_⟩
        show ((correlated.factorCandidates importId).foldl _ correlated.factors).get? _ = _
        rw [Dict.get?_foldl_update_of_absent _ _ fun item listed same => some ⟨item, listed, same⟩, before, held]
        rfl
    · obtain ⟨row, held, -⟩ := written derives
      exact ⟨row, held⟩
  · exact ⟨there.consistent.uniqueImport, there.consistent.recordIds, there.consistent.recorded, there.consistent.correlated⟩

end Factors

section Sites

def KevTables.siteOf (tables : KevTables) (matchId : String) : Option String :=
  (tables.vulnerabilityMatches.get? matchId).map (·.siteId)

theorem nodup_sitesOf (wanted : String × String × String → FactorRow → Bool) : (tables.sitesOf wanted).Nodup := by
  apply List.Nodup.sublist (List.take_sublist _ _)
  exact (List.perm_insertionSort _ _).nodup_iff.mpr (List.nodup_dedup _)

theorem mem_sitesOf {wanted : String × String × String → FactorRow → Bool}
    (few : (tables.sitesOf wanted).length ≤ maxReevaluatedSites) {site : String} :
    site ∈ tables.sitesOf wanted ↔ ∃ key matchId cve row, tables.factors.get? (key, matchId, cve) = some row ∧
      wanted (key, matchId, cve) row = true ∧ tables.siteOf matchId = some site := by
  rw [KevTables.sitesOf, List.length_take] at few
  rw [KevTables.sitesOf, List.take_of_length_le (by omega), List.mem_insertionSort, List.mem_dedup, List.mem_filterMap]
  constructor
  · rintro ⟨⟨⟨key, matchId, cve⟩, row⟩, chosen, there⟩
    obtain ⟨held, wants⟩ := List.mem_filter.mp chosen
    exact ⟨key, matchId, cve, row, (Dict.get?_eq_some _ _ _).mpr held, wants, there⟩
  · rintro ⟨key, matchId, cve, row, held, wants, there⟩
    exact ⟨((key, matchId, cve), row), List.mem_filter.mpr ⟨(Dict.get?_eq_some _ _ _).mp held, wants⟩, there⟩

end Sites

section Changes

theorem lookup_recordsOf (importId cve : String) :
    (tables.recordsOf importId).lookup cve = tables.records.get? (importId, cve) := by
  rw [KevTables.recordsOf, Dict.get?]
  induction tables.records.entries with
  | nil => rfl
  | cons entry rest ih =>
    obtain ⟨⟨key, cve'⟩, row⟩ := entry
    rw [DictEntries.lookup_cons, List.filter_cons]
    by_cases here : key = importId
    · subst here
      rw [if_pos (decide_eq_true rfl), List.map_cons, DictEntries.lookup_cons, ih]
      simp
    · rw [if_neg (by simpa using here), ih, if_neg]
      intro same
      exact here (Prod.mk.inj same).1.symm

/-- The record of a CVE in the active catalog. -/
def KevTables.previousRecord (tables : KevTables) (cve : String) : Option RecordRow :=
  tables.activeImport.bind fun active => tables.records.get? (active.1, cve)

/-- One of the two catalogs lacks the CVE, or they have it with other digests. -/
def RecordChanges (digest : KevRecord → String) (tables : KevTables) (catalog : KevCatalog) (cve : String) : Prop :=
  (tables.previousRecord cve).map (·.recordDigest) ≠ (catalog.record? cve).map digest

theorem mem_changedCves {previous : List (String × RecordRow)} {cve : String} :
    cve ∈ changedCves digest previous catalog ↔
      (previous.lookup cve).map (·.recordDigest) ≠ (catalog.record? cve).map digest := by
  rw [changedCves, List.mem_append, List.mem_filter, List.mem_map, List.mem_map]
  cases found : catalog.record? cve with
  | none =>
    rw [Option.map_none, ne_eq, Option.map_eq_none_iff]
    constructor
    · rintro (⟨⟨⟨cve', row⟩, member, rfl⟩, -⟩ | ⟨record, listed, rfl⟩)
      · intro absent
        exact absurd (List.lookup_eq_none_iff.mp absent _ member) (by simp)
      · have here : record ∈ catalog.records := (List.mem_filter.mp listed).1
        rw [catalog.record?_eq_some.mpr ⟨here, rfl⟩] at found
        cases found
    · intro present
      refine .inl ⟨?_, rfl⟩
      by_contra absent
      apply present
      rw [List.lookup_eq_none_iff]
      intro entry member
      rw [bne_iff_ne]
      intro same
      exact absent ⟨entry, member, same.symm⟩
  | some record =>
    obtain ⟨member, rfl⟩ := catalog.record?_eq_some.mp found
    rw [Option.map_some]
    constructor
    · rintro (⟨-, impossible⟩ | ⟨record', listed, same⟩)
      · cases impossible
      · obtain ⟨member', differs⟩ := List.mem_filter.mp listed
        have one := List.inj_on_of_nodup_map catalog.nodup_cves member' member same
        subst one
        intro equal
        obtain ⟨row, held, digest_eq⟩ := Option.map_eq_some_iff.mp equal
        rw [held, Option.all_some, decide_eq_true_eq] at differs
        exact differs digest_eq
    · intro differs
      refine .inr ⟨record, List.mem_filter.mpr ⟨member, ?_⟩, rfl⟩
      cases held : previous.lookup record.cveId with
      | none => rfl
      | some row =>
        rw [held] at differs
        rw [Option.all_some]
        apply decide_eq_true
        intro same
        exact differs (congrArg some same)

end Changes

section Completeness

/-- A current factor of a site. -/
def HasFactor (tables : KevTables) (site matchId cve : String) (status : PriorityStatus) (weight : ℚ) : Prop :=
  tables.siteOf matchId = some site ∧ ∃ importId row, tables.factors.get? (importId, matchId, cve) = some row ∧
    row.current = true ∧ row.priorityStatus = status ∧ row.adjustedWeight = weight

/-- The set of the current factors of a site is the same in both. -/
def SameFactors (before after : KevTables) (site : String) : Prop :=
  ∀ matchId cve status weight, HasFactor before site matchId cve status weight ↔ HasFactor after site matchId cve status weight

/-- The operation looks at the site: for a factor of a CVE whose record changes, or because the two release dates are not
equally fresh when it runs. -/
def Reached (digest : KevRecord → String) (upper : String → String) (tables : KevTables) (catalog : KevCatalog)
    (checksum : String) (now : Time) (site : String) : Prop :=
  (∃ matchId cve, tables.siteOf matchId = some site ∧ RecordChanges digest tables catalog cve ∧
    ((∃ importId row, tables.factors.get? (importId, matchId, cve) = some row) ∨
      ∃ campaign, Derives upper tables (tables.installedRecord catalog checksum) matchId cve campaign)) ∨
  (∃ active, tables.activeImport = some active ∧
    catalogFreshness active.2.catalogDateReleased now ≠ catalogFreshness catalog.catalogDateReleased now ∧
    ∃ matchId cve campaign, tables.siteOf matchId = some site ∧
      Derives upper tables (tables.installedRecord catalog checksum) matchId cve campaign)

/-- For the CVEs whose records stay, the stored factors are those of the matches and the aliases, with their present weights:
none is missing, none is left over, none was weighed at another freshness. -/
def UpToDate (digest : KevRecord → String) (upper : String → String) (tables : KevTables) (catalog : KevCatalog)
    (checksum : String) (now : Time) (site : String) : Prop :=
  ∀ matchId cve status weight, tables.siteOf matchId = some site → ¬ RecordChanges digest tables catalog cve →
    (HasFactor tables site matchId cve status weight ↔
      ∃ campaign, Derives upper tables (tables.installedRecord catalog checksum) matchId cve campaign ∧
        status = priorityStatus campaign ∧
        weight = adjustedWeight (priorityStatus campaign) (catalogFreshness catalog.catalogDateReleased now))

theorem Derived.siteOf_eq (done : Derived upper tables catalog checksum importId freshness derived) :
    derived.siteOf = tables.siteOf := by
  funext matchId
  rw [KevTables.siteOf, done.unmatched, KevTables.siteOf]

theorem Derived.hasFactor_iff (done : Derived upper tables catalog checksum importId freshness derived)
    {site matchId cve : String} {status : PriorityStatus} {weight : ℚ} :
    HasFactor derived site matchId cve status weight ↔ tables.siteOf matchId = some site ∧
      ∃ campaign, Derives upper tables (tables.installedRecord catalog checksum) matchId cve campaign ∧
        status = priorityStatus campaign ∧ weight = adjustedWeight (priorityStatus campaign) freshness := by
  rw [HasFactor, done.siteOf_eq]
  apply and_congr_right
  intro _
  constructor
  · rintro ⟨key, row, held, current, rfl, rfl⟩
    obtain ⟨-, campaign, derives, status, weight⟩ := done.current _ _ _ row held current
    exact ⟨campaign, derives, status, weight⟩
  · rintro ⟨campaign, derives, rfl, rfl⟩
    obtain ⟨row, held, current, status, weight⟩ := done.derives _ _ _ derives
    exact ⟨importId, row, held, current, status, weight⟩

theorem mem_previousCves {cve : String} :
    cve ∈ (changedCves digest ((tables.activeImport.map fun active => tables.recordsOf active.1).getD []) catalog).insertionSort
      (· ≤ ·) ↔ RecordChanges digest tables catalog cve := by
  rw [List.mem_insertionSort, mem_changedCves, RecordChanges, KevTables.previousRecord]
  cases tables.activeImport with
  | none => exact Iff.rfl
  | some active =>
    rw [Option.map_some, Option.getD_some, lookup_recordsOf]
    rfl

theorem affected_iff_reached (done : Derived upper tables catalog checksum importId
      (catalogFreshness catalog.catalogDateReleased now) after)
    {ofChanged ofFreshness : List String}
    (changed : ofChanged = after.sitesOf fun key _ =>
      ((changedCves digest ((tables.activeImport.map fun active => tables.recordsOf active.1).getD []) catalog).insertionSort
        (· ≤ ·)).contains key.2.2)
    (fresher : ofFreshness = if (tables.activeImport.map fun active =>
        catalogFreshness active.2.catalogDateReleased now).any (· ≠ catalogFreshness catalog.catalogDateReleased now)
      then after.sitesOf fun key row => key.1 = importId && row.current else [])
    (few : (ofChanged ++ ofFreshness).dedup.length ≤ maxReevaluatedSites) {site : String} :
    site ∈ (ofChanged ++ ofFreshness).dedup ↔ Reached digest upper tables catalog checksum now site := by
  have most {part : List String} (nodup : part.Nodup) (sub : part ⊆ ofChanged ++ ofFreshness) :
      part.length ≤ maxReevaluatedSites :=
    ((nodup.subperm fun _ member => List.mem_dedup.mpr (sub member)).length_le).trans few
  rw [List.mem_dedup, List.mem_append, Reached]
  apply or_congr
  · have few := most (changed ▸ nodup_sitesOf _) (List.subset_append_left _ _)
    rw [changed] at few ⊢
    rw [mem_sitesOf few, done.siteOf_eq]
    constructor
    · rintro ⟨key, matchId, cve, row, held, wants, there⟩
      refine ⟨matchId, cve, there, mem_previousCves.mp (List.contains_iff_mem.mp wants), ?_⟩
      exact ((done.stored key matchId cve).mp ⟨row, held⟩).imp (fun old => ⟨key, old⟩) fun new => new.2
    · rintro ⟨matchId, cve, there, changes, stored⟩
      have wants := List.contains_iff_mem.mpr (mem_previousCves.mpr changes)
      rcases stored with ⟨key, old⟩ | new
      · obtain ⟨row, held⟩ := (done.stored key matchId cve).mpr (.inl old)
        exact ⟨key, matchId, cve, row, held, wants, there⟩
      · obtain ⟨row, held⟩ := (done.stored importId matchId cve).mpr (.inr ⟨rfl, new⟩)
        exact ⟨importId, matchId, cve, row, held, wants, there⟩
  · cases active : tables.activeImport with
    | none =>
      rw [active] at fresher
      rw [fresher]
      simp
    | some previous =>
      rw [active, Option.map_some, Option.any_some] at fresher
      by_cases differs : catalogFreshness previous.2.catalogDateReleased now = catalogFreshness catalog.catalogDateReleased now
      · rw [if_neg (by simpa using differs)] at fresher
        rw [fresher]
        simp [differs]
      · rw [if_pos (by simpa using differs)] at fresher
        have few := most (fresher ▸ nodup_sitesOf _) (List.subset_append_right _ _)
        rw [fresher] at few ⊢
        rw [mem_sitesOf few, done.siteOf_eq]
        constructor
        · rintro ⟨key, matchId, cve, row, held, wants, there⟩
          simp only [Bool.and_eq_true, decide_eq_true_eq] at wants
          obtain ⟨-, campaign, derives, -⟩ := done.current key matchId cve row held wants.2
          exact ⟨previous, rfl, differs, matchId, cve, campaign, there, derives⟩
        · rintro ⟨-, -, -, matchId, cve, campaign, there, derives⟩
          obtain ⟨row, held, current, -⟩ := done.derives matchId cve campaign derives
          exact ⟨importId, matchId, cve, row, held, by simp [current], there⟩

theorem ite_error_eq_ok {ε α : Type*} {refused : Prop} [Decidable refused] {error : ε} {value result : α} :
    (if refused then Except.error error else .ok value) = .ok result ↔ ¬ refused ∧ value = result := by
  split <;> simp [*]

theorem importKevCatalog_spec {reactivateExisting : Bool} {result : KevImportResult} (consistent : tables.Consistent)
    (done : importKevCatalog digest upper tables catalog checksum now freshId reactivateExisting = .ok (after, result)) :
    ∃ importId, Derived upper tables catalog checksum importId (catalogFreshness catalog.catalogDateReleased now) after ∧
      ∀ site, site ∈ result.affectedSiteIds ↔ Reached digest upper tables catalog checksum now site := by
  unfold importKevCatalog at done
  simp only [bind, Except.bind, pure, Except.pure, throw, throwThe, MonadExceptOf.throw] at done
  split at done
  · cases done
  split at done
  · cases done
  rename_i installs
  split at done
  · cases done
  rename_i correlates
  split at done
  · cases done
  rename_i derives
  obtain ⟨few, same⟩ := ite_error_eq_ok.mp done
  obtain ⟨rfl, rfl⟩ := Prod.mk.inj same
  have here := install_spec consistent installs
  have there := correlate_spec here.consistent (fun key row held => by
    rw [here.correlations, Dict.get?_map, Option.map_eq_some_iff] at held
    obtain ⟨old, -, rfl⟩ := held
    rfl) correlates
  have last := deriveFactors_spec here there derives
  refine ⟨_, last, fun site => ?_⟩
  rw [List.length_insertionSort] at few
  rw [List.mem_insertionSort]
  exact affected_iff_reached last rfl rfl (not_lt.mp few)

theorem sameFactors_iff (done : Derived upper tables catalog checksum importId
      (catalogFreshness catalog.catalogDateReleased now) after) {site : String}
    (unseen : ¬ Reached digest upper tables catalog checksum now site) :
    SameFactors tables after site ↔ UpToDate digest upper tables catalog checksum now site := by
  constructor
  · intro same matchId cve status weight there _
    rw [same, done.hasFactor_iff, and_iff_right there]
  · intro current matchId cve status weight
    rw [done.hasFactor_iff]
    by_cases there : tables.siteOf matchId = some site
    · by_cases changes : RecordChanges digest tables catalog cve
      · constructor
        · rintro ⟨-, key, row, held, -⟩
          exact absurd (.inl ⟨matchId, cve, there, changes, .inl ⟨key, row, held⟩⟩) unseen
        · rintro ⟨-, campaign, derives, -⟩
          exact absurd (.inl ⟨matchId, cve, there, changes, .inr ⟨campaign, derives⟩⟩) unseen
      · rw [current matchId cve status weight there changes, and_iff_right there]
    · constructor
      · intro held
        exact absurd held.1 there
      · intro derived
        exact absurd derived.1 there

/-- What an operation is given: a catalog to activate (an import, or a rollback to an earlier import), or nothing. -/
inductive KevOperation where
  | activate (catalog : KevCatalog) (checksum : String) (reactivateExisting : Bool)
  | rebuild
deriving DecidableEq

def KevOperation.perform (digest : KevRecord → String) (upper : String → String) (tables : KevTables) (now : Time)
    (freshId : String) : KevOperation → Except KevError (KevTables × KevImportResult)
  | .activate catalog checksum reactivateExisting =>
    importKevCatalog digest upper tables catalog checksum now freshId reactivateExisting
  | .rebuild => rebuildActive digest upper tables now freshId

/-- When every change is seen. An activation finds each site it does not look at up to date; a rebuild finds no factor at a
site where the active catalog gives none. -/
def KevOperation.Complete (digest : KevRecord → String) (upper : String → String) (tables : KevTables) (now : Time) :
    KevOperation → Prop
  | .activate catalog checksum _ => ∀ site, Reached digest upper tables catalog checksum now site ∨
      UpToDate digest upper tables catalog checksum now site
  | .rebuild => ∀ active, tables.activeImport = some active → ∀ site,
      (∃ matchId cve campaign, tables.siteOf matchId = some site ∧
        Derives upper tables (fun cve => (tables.records.get? (active.1, cve)).map (·.record)) matchId cve campaign) ∨
      ∀ matchId cve status weight, ¬ HasFactor tables site matchId cve status weight

theorem construct_eq_some {provenance version : String} {released : UtcDateTime} {records : List KevRecord}
    (made : KevCatalog.construct provenance version released records = some catalog) :
    catalog.catalogVersion = version ∧ catalog.catalogDateReleased = released := by
  unfold KevCatalog.construct at made
  split at made
  · split at made
    · split at made
      · cases made
        exact ⟨rfl, rfl⟩
      · cases made
    · cases made
  · cases made

theorem existingImport_active (consistent : tables.Consistent) {active : String × ImportRow}
    (current : tables.activeImport = some active) (version : catalog.catalogVersion = active.2.catalogVersion) :
    tables.existingImport catalog.catalogVersion active.2.payloadSha256 = some active.1 := by
  have held : tables.imports.get? active.1 = some active.2 :=
    (Dict.get?_eq_some _ _ _).mpr (List.mem_of_find?_eq_some current)
  have source : active.2.sourceId = cisaKevSourceId := by
    have holds := List.find?_some current
    simp only [Bool.and_eq_true, decide_eq_true_eq] at holds
    exact holds.1
  cases found : tables.existingImport catalog.catalogVersion active.2.payloadSha256 with
  | none => exact absurd rfl (existingImport_none found active.2 held source version.symm)
  | some other =>
    obtain ⟨row, there, source', version', payload⟩ := existingImport_get? found
    rw [consistent.uniqueImport other active.1 row active.2 there held (source'.trans source.symm)
      (version'.trans version) payload]

theorem rebuildActive_spec {result : KevImportResult} (consistent : tables.Consistent)
    (done : rebuildActive digest upper tables now freshId = .ok (after, result)) :
    ∃ active catalog importId, tables.activeImport = some active ∧
      tables.installedRecord catalog active.2.payloadSha256 =
        (fun cve => (tables.records.get? (active.1, cve)).map (·.record)) ∧
      Derived upper tables catalog active.2.payloadSha256 importId (catalogFreshness catalog.catalogDateReleased now) after ∧
      ∀ site, site ∈ result.affectedSiteIds ↔ ∃ matchId cve status weight, HasFactor after site matchId cve status weight := by
  unfold rebuildActive at done
  simp only [bind, Except.bind, pure, Except.pure, throw, throwThe, MonadExceptOf.throw] at done
  split at done
  · cases done
  rename_i importId active current
  split at done
  · cases done
  rename_i catalog made
  split at done
  · cases done
  rename_i imported
  obtain ⟨few, same⟩ := ite_error_eq_ok.mp done
  obtain ⟨rfl, rfl⟩ := Prod.mk.inj same
  obtain ⟨installedId, last, -⟩ := importKevCatalog_spec consistent imported
  refine ⟨(importId, active), catalog, installedId, current, ?_, last, fun site => ?_⟩
  · funext cve
    rw [KevTables.installedRecord, existingImport_active consistent current (construct_eq_some made).1]
  · dsimp only
    rw [mem_sitesOf (not_lt.mp few)]
    constructor
    · rintro ⟨key, matchId, cve, row, held, wants, there⟩
      exact ⟨matchId, cve, row.priorityStatus, row.adjustedWeight, there, key, row, held, wants, rfl, rfl⟩
    · rintro ⟨matchId, cve, status, weight, there, key, row, held, wants, -⟩
      exact ⟨key, matchId, cve, row, held, wants, there⟩

/-- The sites whose factors change are all listed just when the operation is complete for the state before it. -/
theorem kev_reevaluation_complete_iff (operation : KevOperation) (result : KevImportResult) (consistent : tables.Consistent)
    (done : operation.perform digest upper tables now freshId = .ok (after, result)) :
    (∀ site, ¬ SameFactors tables after site → site ∈ result.affectedSiteIds) ↔
      operation.Complete digest upper tables now := by
  cases operation with
  | activate catalog checksum reactivateExisting =>
    obtain ⟨importId, last, listed⟩ := importKevCatalog_spec consistent done
    apply forall_congr'
    intro site
    rw [listed]
    by_cases seen : Reached digest upper tables catalog checksum now site
    · exact ⟨fun _ => .inl seen, fun _ _ => seen⟩
    · rw [sameFactors_iff last seen]
      constructor
      · intro complete
        exact .inr (not_not.mp fun stale => seen (complete stale))
      · rintro (here | current) stale
        · exact here
        · exact absurd current stale
  | rebuild =>
    obtain ⟨active, catalog, importId, current, records, last, listed⟩ := rebuildActive_spec consistent done
    have nothing (site : String) (none : ¬ ∃ matchId cve status weight, HasFactor after site matchId cve status weight) :
        SameFactors tables after site ↔ ∀ matchId cve status weight, ¬ HasFactor tables site matchId cve status weight := by
      constructor
      · intro same matchId cve status weight held
        exact none ⟨matchId, cve, status, weight, (same matchId cve status weight).mp held⟩
      · intro empty matchId cve status weight
        exact ⟨fun held => absurd held (empty matchId cve status weight),
          fun held => absurd ⟨matchId, cve, status, weight, held⟩ none⟩
    have derived (site : String) : (∃ matchId cve status weight, HasFactor after site matchId cve status weight) ↔
        ∃ matchId cve campaign, tables.siteOf matchId = some site ∧
          Derives upper tables (fun cve => (tables.records.get? (active.1, cve)).map (·.record)) matchId cve campaign := by
      rw [← records]
      constructor
      · rintro ⟨matchId, cve, status, weight, held⟩
        obtain ⟨there, campaign, derives, -⟩ := last.hasFactor_iff.mp held
        exact ⟨matchId, cve, campaign, there, derives⟩
      · rintro ⟨matchId, cve, campaign, there, derives⟩
        exact ⟨matchId, cve, _, _, last.hasFactor_iff.mpr ⟨there, campaign, derives, rfl, rfl⟩⟩
    constructor
    · intro complete active' current' site
      rw [current] at current'
      cases current'
      rw [← derived]
      by_cases some : ∃ matchId cve status weight, HasFactor after site matchId cve status weight
      · exact .inl some
      · exact .inr ((nothing site some).mp (not_not.mp fun stale => some ((listed site).mp (complete site stale))))
    · intro complete site stale
      rw [listed]
      by_contra none
      rcases complete active current site with here | empty
      · exact none ((derived site).mpr here)
      · exact stale ((nothing site none).mpr empty)

section Samples

def sampleDate : Date := ⟨2024, 1, 2, by decide, by decide, by decide⟩

def sampleKevRecord : KevRecord :=
  ⟨"kev_1", "CVE-2024-0001", "vendor", "product", "name", sampleDate, "text", "action", sampleDate, .unknown, none, []⟩

def sampleRelease : UtcDateTime := ⟨sampleDate, 0, 0, 0, 0, by decide⟩

def sampleKevCatalog : KevCatalog := ⟨"provenance", "2024.01.02", sampleRelease, [sampleKevRecord], by decide, by decide, by decide⟩

/-- Nine days after the release. -/
def sampleNow : Time := 1704931200000000

/-- A site with a match whose factor was stored when the catalog was fresh. -/
def sampleKevTables : KevTables where
  imports := ⟨[("kevimp_1", ⟨cisaKevSourceId, "2024.01.02", "provenance", sampleRelease, "payload", true⟩)], by decide⟩
  records := ⟨[(("kevimp_1", "CVE-2024-0001"), ⟨sampleKevRecord, "digest", true⟩)], by decide⟩
  advisoryCurrent := ⟨[("advisory", true)], by decide⟩
  advisoryAliases := [("advisory", "CVE-2024-0001")]
  correlations := ⟨[(("kevimp_1", "advisory", "CVE-2024-0001"), ⟨"kev_1", true⟩)], by decide⟩
  vulnerabilityMatches := ⟨[("match", ⟨"advisory", "site", .affected⟩)], by decide⟩
  factors := ⟨[(("kevimp_1", "match", "CVE-2024-0001"), ⟨"advisory", "kev_1", .knownExploited, .fresh, 12, 12, true⟩)], by decide⟩

theorem sampleKevTables_consistent : sampleKevTables.Consistent where
  uniqueImport := by
    intro first second row row' one two _ _ _
    rw [Dict.get?_eq_some] at one two
    exact (Prod.mk.inj (List.mem_singleton.mp one)).1.trans (Prod.mk.inj (List.mem_singleton.mp two)).1.symm
  recordIds := by
    intro importId cve cve' row row' one two _
    rw [Dict.get?_eq_some] at one two
    exact (Prod.mk.inj (Prod.mk.inj (List.mem_singleton.mp one)).1).2.trans
      (Prod.mk.inj (Prod.mk.inj (List.mem_singleton.mp two)).1).2.symm
  recorded := by
    intro importId cve row held
    rw [Dict.get?_eq_some] at held
    cases List.mem_singleton.mp held
    rfl
  correlated := by
    intro importId advisoryId cve row held
    rw [Dict.get?_eq_some] at held
    cases List.mem_singleton.mp held
    exact ⟨⟨sampleKevRecord, "digest", true⟩, by decide, rfl⟩

theorem sample_derives : Derives id sampleKevTables (fun cve => (sampleKevTables.records.get? ("kevimp_1", cve)).map (·.record))
    "match" "CVE-2024-0001" .unknown where
  correlates := ⟨⟨"advisory", "site", .affected⟩, by decide, rfl, by decide, ("advisory", "CVE-2024-0001"), by decide, rfl, rfl⟩
  recorded := ⟨sampleKevRecord, by decide, rfl⟩

theorem kev_reevaluation_complete_sample :
    ∃ after result, KevOperation.perform (fun _ => "digest") id sampleKevTables sampleNow "kevimp_2" .rebuild =
        .ok (after, result) ∧ ∀ site, ¬ SameFactors sampleKevTables after site → site ∈ result.affectedSiteIds := by
  have complete : KevOperation.Complete (fun _ => "digest") id sampleKevTables sampleNow .rebuild := by
    intro active current site
    have one : active.1 = "kevimp_1" := by
      have listed := List.mem_of_find?_eq_some current
      rw [List.mem_singleton.mp listed]
    rw [one]
    by_cases here : site = "site"
    · subst here
      exact .inl ⟨"match", "CVE-2024-0001", .unknown, by decide, sample_derives⟩
    · refine .inr fun matchId cve status weight held => here ?_
      obtain ⟨item, stored, rfl⟩ := Option.map_eq_some_iff.mp held.1
      rw [Dict.get?_eq_some] at stored
      cases List.mem_singleton.mp stored
      rfl
  cases ran : KevOperation.perform (fun _ => "digest") id sampleKevTables sampleNow "kevimp_2" .rebuild with
  | error error =>
    have fine : (KevOperation.perform (fun _ => "digest") id sampleKevTables sampleNow "kevimp_2" .rebuild).isOk = true := by
      decide
    rw [ran] at fine
    cases fine
  | ok pair =>
    exact ⟨pair.1, pair.2, rfl, (kev_reevaluation_complete_iff .rebuild pair.2 sampleKevTables_consistent ran).mpr complete⟩

/-- The same catalog imported again nine days later: the factor of the site weighs less, and the site is not listed. -/
theorem aged_factor_not_listed :
    ∃ after result, KevOperation.perform (fun _ => "digest") id sampleKevTables sampleNow "kevimp_2"
        (.activate sampleKevCatalog "payload" true) = .ok (after, result) ∧
      ¬ SameFactors sampleKevTables after "site" ∧ "site" ∉ result.affectedSiteIds := by
  cases ran : KevOperation.perform (fun _ => "digest") id sampleKevTables sampleNow "kevimp_2"
      (.activate sampleKevCatalog "payload" true) with
  | error error =>
    have fine : (KevOperation.perform (fun _ => "digest") id sampleKevTables sampleNow "kevimp_2"
        (.activate sampleKevCatalog "payload" true)).isOk = true := by
      decide
    rw [ran] at fine
    cases fine
  | ok pair =>
    obtain ⟨after, result⟩ := pair
    have imported : importKevCatalog (fun _ => "digest") id sampleKevTables sampleKevCatalog "payload" sampleNow "kevimp_2" true =
        .ok (after, result) := ran
    obtain ⟨importId, last, -⟩ := importKevCatalog_spec sampleKevTables_consistent imported
    refine ⟨after, result, rfl, fun same => ?_, ?_⟩
    · have before : HasFactor sampleKevTables "site" "match" "CVE-2024-0001" .knownExploited 12 :=
        ⟨by decide, "kevimp_1", ⟨"advisory", "kev_1", .knownExploited, .fresh, 12, 12, true⟩, by decide, rfl, rfl, rfl⟩
      obtain ⟨-, campaign, -, -, weight⟩ := last.hasFactor_iff.mp ((same _ _ _ _).mp before)
      cases campaign <;> exact absurd weight (by decide +kernel)
    · have none : (KevOperation.perform (fun _ => "digest") id sampleKevTables sampleNow "kevimp_2"
          (.activate sampleKevCatalog "payload" true)).toOption.map (·.2.affectedSiteIds) = some [] := by
        decide
      rw [ran] at none
      have empty : result.affectedSiteIds = [] := Option.some_inj.mp none
      rw [empty]
      exact List.not_mem_nil

end Samples

end Completeness

end OpenAssetWatch.Kev
