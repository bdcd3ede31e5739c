import OpenAssetWatch.Vulnerability.CandidateIndex

namespace OpenAssetWatch.Vulnerability

open Library

/-- The status of a non-empty list of matches of one pair that precedes the statuses of all of them. -/
def Strongest (items : List VulnerabilityMatch) (status : MatchStatus) : Prop :=
  (∃ m ∈ items, m.matchStatus = status) ∧ ∀ m ∈ items, matchPrecedence m.matchStatus ≤ matchPrecedence status

section Status

variable {first : VulnerabilityMatch} {rest items others : List VulnerabilityMatch} {status status' : MatchStatus}

theorem Strongest.unique (strongest : Strongest items status) (same : ∀ m, m ∈ items ↔ m ∈ others)
    (strongest' : Strongest others status') : status = status' := by
  obtain ⟨⟨m, member, rfl⟩, above⟩ := strongest
  obtain ⟨⟨m', member', rfl⟩, above'⟩ := strongest'
  apply matchPrecedence_injective
  exact Nat.le_antisymm (above' m ((same m).mp member)) (above m' ((same m').mpr member'))

theorem strongest_aggregate (first : VulnerabilityMatch) (rest : List VulnerabilityMatch) :
    Strongest (first :: rest) (aggregateAdvisoryMatches first rest).matchStatus := by
  obtain ⟨member, above⟩ := selectMatch_spec first rest
  exact ⟨⟨_, member, rfl⟩, fun m listed => precedence_le_of_rank (above m listed)⟩

theorem Strongest.affected_iff (strongest : Strongest items status) :
    status = .affected ↔ ∃ m ∈ items, m.matchStatus = .affected := by
  have greatest (status : MatchStatus) : matchPrecedence status ≤ matchPrecedence .affected := by
    cases status <;> decide
  obtain ⟨⟨m, member, rfl⟩, above⟩ := strongest
  constructor
  · intro affected
    exact ⟨m, member, affected⟩
  · rintro ⟨other, listed, affected⟩
    apply matchPrecedence_injective
    apply Nat.le_antisymm (greatest _)
    rw [← affected]
    exact above other listed

end Status

section Evidence

variable {first : VulnerabilityMatch} {rest : List VulnerabilityMatch}

/-- The evidence of all matches, each id once and in the order of the list. -/
def mergedEvidence (items : List VulnerabilityMatch) : List String := (items.flatMap (·.evidenceIds)).eraseDups

theorem aggregate_evidence (first : VulnerabilityMatch) (rest : List VulnerabilityMatch) :
    (aggregateAdvisoryMatches first rest).evidenceIds = (mergedEvidence (first :: rest)).take 16 := rfl

theorem aggregate_keeps_evidence (few : (mergedEvidence (first :: rest)).length ≤ 16) {m : VulnerabilityMatch} (member : m ∈ first :: rest) :
    ∀ evidenceId ∈ m.evidenceIds, evidenceId ∈ (aggregateAdvisoryMatches first rest).evidenceIds := by
  intro evidenceId listed
  rw [aggregate_evidence, List.take_of_length_le few, mergedEvidence, List.mem_eraseDups, List.mem_flatMap]
  exact ⟨m, member, listed⟩

theorem eraseDups_concat (front : List String) (last : String) :
    (front ++ [last]).eraseDups = if last ∈ front then front.eraseDups else front.eraseDups ++ [last] := by
  rw [List.eraseDups_append, List.removeAll, List.filter_singleton]
  split_ifs with known <;> simp [known, List.eraseDups_cons]

theorem eraseDups_length_le (ids : List String) : ids.eraseDups.length ≤ ids.length := by
  induction ids using List.reverseRecOn with
  | nil => exact le_rfl
  | append_singleton front last ih =>
    rw [eraseDups_concat, List.length_append]
    split_ifs
    · exact ih.trans (Nat.le_add_right _ _)
    · rw [List.length_append]
      exact Nat.add_le_add_right ih _

theorem eraseDups_twice (ids : List String) : ids.eraseDups.eraseDups = ids.eraseDups := by
  induction ids using List.reverseRecOn with
  | nil => rfl
  | append_singleton front last ih =>
    rw [eraseDups_concat]
    split_ifs with known
    · exact ih
    · rw [eraseDups_concat, if_neg (mt List.mem_eraseDups.mp known), ih]

theorem eraseDups_repeat {front ids : List String} (known : ∀ id ∈ ids, id ∈ front) : (front ++ ids).eraseDups = front.eraseDups := by
  have none : ids.removeAll front = [] := by
    rw [List.removeAll, List.filter_eq_nil_iff]
    intro id listed
    simpa using known id listed
  rw [List.eraseDups_append, none, List.eraseDups_nil, List.append_nil]

theorem aggregate_same_evidence {ids : List String} (few : ids.length ≤ 16)
    (same : ∀ m ∈ first :: rest, m.evidenceIds = ids.eraseDups) : (aggregateAdvisoryMatches first rest).evidenceIds = ids.eraseDups := by
  have known : ∀ id ∈ rest.flatMap (·.evidenceIds), id ∈ ids.eraseDups := by
    intro id listed
    obtain ⟨m, member, here⟩ := List.mem_flatMap.mp listed
    rw [← same m (List.mem_cons_of_mem _ member)]
    exact here
  rw [aggregate_evidence, mergedEvidence, List.flatMap_cons, same first List.mem_cons_self, eraseDups_repeat known]
  rw [eraseDups_twice, List.take_of_length_le ((eraseDups_length_le ids).trans few)]

end Evidence

/-- The aggregate of the matches of a pair has their strongest status, whatever their order, and is one of those that have
it; the evidence is that of all of them, up to sixteen ids. -/
theorem aggregate_is_join {V : Type} [LinearOrder V] (pep440 : List Char → Option V) (first : VulnerabilityMatch) (rest : List VulnerabilityMatch) :
    (∀ other more, (other :: more).Perm (first :: rest) →
      (aggregateAdvisoryMatches other more).matchStatus = (aggregateAdvisoryMatches first rest).matchStatus) ∧
    ((aggregateAdvisoryMatches first rest).matchStatus = .affected ↔ ∃ m ∈ first :: rest, m.matchStatus = .affected) ∧
    Strongest (first :: rest) (aggregateAdvisoryMatches first rest).matchStatus ∧
    ∃ m ∈ first :: rest, m.matchStatus = (aggregateAdvisoryMatches first rest).matchStatus ∧
      aggregateAdvisoryMatches first rest =
        { m with
          evidenceIds := (aggregateAdvisoryMatches first rest).evidenceIds
          reasonCodes := (aggregateAdvisoryMatches first rest).reasonCodes } ∧
      ((mergedEvidence (first :: rest)).length ≤ 16 →
        ∀ evidenceId ∈ m.evidenceIds, evidenceId ∈ (aggregateAdvisoryMatches first rest).evidenceIds) ∧
      ∀ component advisoryId, (∀ item ∈ first :: rest, ∃ affected time, affected.advisoryId = advisoryId ∧
          matchComponent pep440 component affected time = some item) →
        (aggregateAdvisoryMatches first rest).evidenceIds = m.evidenceIds := by
  refine ⟨fun other more perm => ?_, (strongest_aggregate first rest).affected_iff, strongest_aggregate first rest,
    selectMatch first rest, (selectMatch_spec first rest).1, rfl, rfl, fun few => ?_, fun component advisoryId made => ?_⟩
  · exact (strongest_aggregate other more).unique (fun _ => perm.mem_iff) (strongest_aggregate first rest)
  · exact aggregate_keeps_evidence few (selectMatch_spec first rest).1
  · have same : ∀ item ∈ first :: rest, item.evidenceIds =
        (((component.evidenceIds ++ [some component.componentId, some advisoryId]).filterMap id).take 16).eraseDups := by
      intro item member
      obtain ⟨affected, time, rfl, accepted⟩ := made item member
      obtain ⟨identity, -, rfl⟩ := Option.map_eq_some_iff.mp accepted
      rfl
    rw [aggregate_same_evidence (List.length_take_le _ _) same, same _ (selectMatch_spec first rest).1]

def evidencedMatch (status : MatchStatus) (evidenceIds : List String) : VulnerabilityMatch :=
  { matchId := matchIdFor "component" "advisory", siteId := "site", assetId := "asset", affectedId := "row", matchStatus := status
    matchConfidence := 1, matchedIdentifier := none, installedVersion := none, affectedRange := none, fixedVersion := none
    evaluatedAt := 0, evidenceIds, reasonCodes := [] }

def sixteenIds : List String := (List.range 16).map fun n => String.ofList (List.replicate n 'x')

theorem aggregate_is_join_sample :
    (aggregateAdvisoryMatches (evidencedMatch .fixed ["a"]) [evidencedMatch .affected ["b"]]).matchStatus = .affected :=
  (aggregate_is_join (fun _ => (none : Option Nat)) (evidencedMatch .fixed ["a"]) [evidencedMatch .affected ["b"]]).2.1.mpr
    ⟨evidencedMatch .affected ["b"], by simp, rfl⟩

/-- The ids of an earlier match leave no place for those of the affected one. -/
theorem evidence_cut_at_sixteen :
    ¬ ∀ first rest, (∀ m ∈ rest, m.matchId = first.matchId) → ∃ m ∈ first :: rest,
      m.matchStatus = (aggregateAdvisoryMatches first rest).matchStatus ∧
        ∀ evidenceId ∈ m.evidenceIds, evidenceId ∈ (aggregateAdvisoryMatches first rest).evidenceIds := by
  intro carried
  obtain ⟨m, member, status, kept⟩ := carried (evidencedMatch .fixed sixteenIds) [evidencedMatch .affected ["late"]] (by simp [evidencedMatch])
  have chosen : (aggregateAdvisoryMatches (evidencedMatch .fixed sixteenIds) [evidencedMatch .affected ["late"]]).matchStatus = .affected := by
    decide
  have lost : "late" ∉ (aggregateAdvisoryMatches (evidencedMatch .fixed sixteenIds) [evidencedMatch .affected ["late"]]).evidenceIds := by
    decide
  rcases List.mem_cons.mp member with rfl | last
  · rw [chosen] at status
    cases status
  · cases List.mem_singleton.mp last
    exact lost (kept "late" (List.mem_singleton_self _))

end OpenAssetWatch.Vulnerability
