import OpenAssetWatch.Vulnerability.Candidates

namespace OpenAssetWatch.Vulnerability

open Library

/-- The stored keys of the row and the component agree as they stand. -/
def Listed (component : Component) (row : Affected) : Prop :=
  row.ecosystem = component.ecosystem ∧
    ((identifierOf row ≠ "" ∧ identifierOf row = component.canonicalIdentifier.getD "") ∨
      (row.normalizedName ≠ "" ∧ row.normalizedName = component.normalizedName))

instance (component : Component) (row : Affected) : Decidable (Listed component row) := by
  unfold Listed; infer_instance

theorem mem_append (index : RowIndex) (key key' : String × String) (item row : Affected) :
    row ∈ ((index.append key item).get? key').getD [] ↔
      (key' = key ∧ row = item) ∨ row ∈ (index.get? key').getD [] := by
  rw [Dict.append, Dict.get?_update]
  by_cases same : key' = key
  · subst same
    simp [or_comm]
  · simp [same]

theorem mem_indexBy (field : Affected → String) (index : RowIndex) (key : String × String)
    (item row : Affected) :
    row ∈ ((indexBy field index item).get? key).getD [] ↔
      (row = item ∧ field row ≠ "" ∧ key = (row.ecosystem, field row)) ∨
        row ∈ (index.get? key).getD [] := by
  rw [indexBy]
  split
  · rename_i unnamed
    constructor
    · exact .inr
    · rintro (⟨rfl, named, -⟩ | old)
      · exact absurd unnamed named
      · exact old
  · rename_i named
    rw [mem_append]
    constructor
    · rintro (⟨rfl, rfl⟩ | old)
      · exact .inl ⟨rfl, named, rfl⟩
      · exact .inr old
    · rintro (⟨rfl, -, rfl⟩ | old)
      · exact .inl ⟨rfl, rfl⟩
      · exact .inr old

theorem mem_foldl_indexBy (field : Affected → String) (rows : List Affected) (index : RowIndex)
    (key : String × String) (row : Affected) :
    row ∈ ((rows.foldl (indexBy field) index).get? key).getD [] ↔
      (row ∈ rows ∧ field row ≠ "" ∧ key = (row.ecosystem, field row)) ∨
        row ∈ (index.get? key).getD [] := by
  induction rows generalizing index with
  | nil => simp
  | cons item rest ih =>
    rw [List.foldl_cons, ih, mem_indexBy, List.mem_cons]
    constructor
    · rintro (⟨member, keyed⟩ | ⟨rfl, keyed⟩ | old)
      · exact .inl ⟨.inr member, keyed⟩
      · exact .inl ⟨.inl rfl, keyed⟩
      · exact .inr old
    · rintro (⟨rfl | member, keyed⟩ | old)
      · exact .inr (.inl ⟨rfl, keyed⟩)
      · exact .inl ⟨member, keyed⟩
      · exact .inr (.inr old)

theorem foldl_indexRow (rows : List Affected) (index : CandidateIndex) :
    rows.foldl indexRow index =
      { byIdentifier := rows.foldl (indexBy identifierOf) index.byIdentifier
        byName := rows.foldl (indexBy (·.normalizedName)) index.byName } := by
  induction rows generalizing index with
  | nil => rfl
  | cons item rest ih => rw [List.foldl_cons, ih]; rfl

theorem mem_byName (rows : List Affected) (component : Component) (row : Affected) :
    row ∈ ((candidateIndex rows).byName.get? (component.ecosystem, component.normalizedName)).getD [] ↔
      row ∈ rows ∧ row.ecosystem = component.ecosystem ∧
        row.normalizedName ≠ "" ∧ row.normalizedName = component.normalizedName := by
  rw [candidateIndex, foldl_indexRow, mem_foldl_indexBy]
  simp only [Dict.get?_empty, Option.getD_none, List.not_mem_nil, or_false, Prod.mk.injEq]
  constructor
  · rintro ⟨member, named, ecosystem, name⟩
    exact ⟨member, ecosystem.symm, named, name.symm⟩
  · rintro ⟨member, ecosystem, named, name⟩
    exact ⟨member, named, ecosystem.symm, name.symm⟩

theorem mem_byIdentifier (rows : List Affected) (component : Component) (row : Affected) :
    row ∈ ((candidateIndex rows).byIdentifier.get?
        (component.ecosystem, component.canonicalIdentifier.getD "")).getD [] ↔
      row ∈ rows ∧ row.ecosystem = component.ecosystem ∧
        identifierOf row ≠ "" ∧ identifierOf row = component.canonicalIdentifier.getD "" := by
  rw [candidateIndex, foldl_indexRow, mem_foldl_indexBy]
  simp only [Dict.get?_empty, Option.getD_none, List.not_mem_nil, or_false, Prod.mk.injEq]
  constructor
  · rintro ⟨member, named, ecosystem, identifier⟩
    exact ⟨member, ecosystem.symm, named, identifier.symm⟩
  · rintro ⟨member, ecosystem, named, identifier⟩
    exact ⟨member, named, ecosystem.symm, identifier.symm⟩

theorem mem_listedRows (rows : List Affected) (component : Component) (row : Affected) :
    row ∈ listedRows (candidateIndex rows) component ↔ row ∈ rows ∧ Listed component row := by
  rw [listedRows, List.mem_append, mem_byName]
  unfold Listed
  split
  · rename_i unnamed
    constructor
    · rintro (impossible | ⟨member, ecosystem, name⟩)
      · cases impossible
      · exact ⟨member, ecosystem, .inr name⟩
    · rintro ⟨member, ecosystem, ⟨named, identifier⟩ | name⟩
      · exact absurd (identifier.trans unnamed) named
      · exact .inr ⟨member, ecosystem, name⟩
  · rw [mem_byIdentifier]
    constructor
    · rintro (⟨member, ecosystem, identifier⟩ | ⟨member, ecosystem, name⟩)
      · exact ⟨member, ecosystem, .inl identifier⟩
      · exact ⟨member, ecosystem, .inr name⟩
    · rintro ⟨member, ecosystem, identifier | name⟩
      · exact .inl ⟨member, ecosystem, identifier⟩
      · exact .inr ⟨member, ecosystem, name⟩

theorem mem_candidates (rows : List Affected) (distinct : (rows.map (·.affectedId)).Nodup)
    (component : Component) (row : Affected) :
    row ∈ (candidates (candidateIndex rows) component).values ↔ row ∈ rows ∧ Listed component row := by
  rw [← mem_listedRows, Dict.mem_values, candidates]
  simp only [Dict.get?_foldl_set, Dict.get?_empty, Option.or_none]
  constructor
  · rintro ⟨id, last⟩
    exact (List.mem_filter.mp (List.mem_of_getLast? last)).1
  · intro member
    have found : row ∈ (listedRows (candidateIndex rows) component).filter (·.affectedId = row.affectedId) :=
      List.mem_filter.mpr ⟨member, by simp⟩
    refine ⟨row.affectedId, ?_⟩
    cases last : ((listedRows (candidateIndex rows) component).filter
        (·.affectedId = row.affectedId)).getLast? with
    | none => rw [List.getLast?_eq_none_iff] at last; rw [last] at found; cases found
    | some other =>
      obtain ⟨listed, same⟩ := List.mem_filter.mp (List.mem_of_getLast? last)
      have unique := List.inj_on_of_nodup_map distinct
        ((mem_listedRows rows component other).mp listed).1 ((mem_listedRows rows component row).mp member).1
        (of_decide_eq_true same)
      rw [unique]

def groupInto (grouped : Dict MatchId (List VulnerabilityMatch)) (found : List VulnerabilityMatch) :
    Dict MatchId (List VulnerabilityMatch) :=
  found.foldl (fun grouped item => grouped.append item.matchId item) grouped

theorem groupInto_append (grouped : Dict MatchId (List VulnerabilityMatch))
    (first second : List VulnerabilityMatch) :
    groupInto grouped (first ++ second) = groupInto (groupInto grouped first) second :=
  List.foldl_append

theorem get?_groupInto (found : List VulnerabilityMatch) (id : MatchId) :
    (groupInto .empty found).get? id =
      if (found.filter (·.matchId = id)) = [] then none else some (found.filter (·.matchId = id)) :=
  Dict.get?_foldl_append (fun m : VulnerabilityMatch => m.matchId) found .empty id

instance : Std.TransCmp matchRank := by unfold matchRank; infer_instance

theorem precedence_le_of_rank {x y : VulnerabilityMatch} (h : (matchRank x y).isLE) :
    matchPrecedence x.matchStatus ≤ matchPrecedence y.matchStatus := by
  by_contra above
  have gt : compare (matchPrecedence x.matchStatus) (matchPrecedence y.matchStatus) = .gt :=
    Nat.compare_eq_gt.mpr (Nat.lt_of_not_le above)
  simp only [matchRank, compareLex, compareOn, gt, Ordering.then] at h
  cases h

theorem matchPrecedence_injective : Function.Injective matchPrecedence := by
  intro x y h
  cases x <;> cases y <;> first | rfl | (revert h; decide)

theorem selectMatch_spec (first : VulnerabilityMatch) (rest : List VulnerabilityMatch) :
    selectMatch first rest ∈ first :: rest ∧
      ∀ m ∈ first :: rest, (matchRank m (selectMatch first rest)).isLE := by
  induction rest generalizing first with
  | nil =>
    refine ⟨List.mem_singleton.mpr rfl, fun m member => ?_⟩
    rw [List.mem_singleton.mp member]
    exact Std.ReflCmp.isLE_rfl
  | cons item rest ih =>
    have turn : selectMatch first (item :: rest) =
        selectMatch (if matchRank item first = .gt then item else first) rest := rfl
    rw [turn]
    split
    · rename_i above
      obtain ⟨member, bound⟩ := ih item
      have below : (matchRank first item).isLE := by rw [Std.OrientedCmp.lt_of_gt above]; rfl
      refine ⟨List.mem_cons_of_mem _ member, fun m hm => ?_⟩
      rcases List.mem_cons.mp hm with rfl | hm
      · exact Std.TransCmp.isLE_trans below (bound item List.mem_cons_self)
      · exact bound m hm
    · rename_i notAbove
      obtain ⟨member, bound⟩ := ih first
      have below : (matchRank item first).isLE := by
        cases order : matchRank item first <;> first | rfl | exact absurd order notAbove
      refine ⟨?_, fun m hm => ?_⟩
      · rcases List.mem_cons.mp member with same | member
        · rw [same]; exact List.mem_cons_self
        · exact List.mem_cons_of_mem _ (List.mem_cons_of_mem _ member)
      · rcases List.mem_cons.mp hm with rfl | hm
        · exact bound m List.mem_cons_self
        · rcases List.mem_cons.mp hm with rfl | hm
          · exact Std.TransCmp.isLE_trans below (bound first List.mem_cons_self)
          · exact bound m (List.mem_cons_of_mem _ hm)

theorem mem_aggregateAll (grouped : Dict MatchId (List VulnerabilityMatch)) (m : VulnerabilityMatch) :
    m ∈ aggregateAll grouped ↔
      ∃ id first rest, grouped.get? id = some (first :: rest) ∧ m = aggregateAdvisoryMatches first rest := by
  simp only [aggregateAll, List.mem_filterMap, List.mem_insertionSort, Prod.exists, ← Dict.get?_eq_some]
  constructor
  · rintro ⟨id, items, found, result⟩
    cases items with
    | nil => cases result
    | cons first rest => exact ⟨id, first, rest, found, (Option.some.inj result).symm⟩
  · rintro ⟨id, first, rest, found, rfl⟩
    exact ⟨id, first :: rest, found, rfl⟩

/-- The results of a list of matches: which pair has which status. -/
def results (found : List VulnerabilityMatch) : Set (MatchId × MatchStatus) :=
  {result | ∃ m ∈ found, (m.matchId, m.matchStatus) = result}

theorem mem_results_aggregateAll (found : List VulnerabilityMatch) (id : MatchId) (status : MatchStatus) :
    (id, status) ∈ results (aggregateAll (groupInto .empty found)) ↔
      (∃ m ∈ found, m.matchId = id ∧ m.matchStatus = status) ∧
        ∀ m ∈ found, m.matchId = id → matchPrecedence m.matchStatus ≤ matchPrecedence status := by
  have group (first : VulnerabilityMatch) (rest : List VulnerabilityMatch) (key : MatchId)
      (h : found.filter (·.matchId = key) = first :: rest) (m : VulnerabilityMatch) :
      m ∈ first :: rest ↔ m ∈ found ∧ m.matchId = key := by
    rw [← h, List.mem_filter, decide_eq_true_eq]
  constructor
  · rintro ⟨m, member, pair⟩
    obtain ⟨key, first, rest, lookup, rfl⟩ := (mem_aggregateAll _ _).mp member
    rw [get?_groupInto] at lookup
    split at lookup
    · cases lookup
    · have members := group first rest key (Option.some.inj lookup)
      obtain ⟨selected, bound⟩ := selectMatch_spec first rest
      obtain ⟨selected, same⟩ := (members _).mp selected
      cases pair
      refine ⟨⟨_, selected, rfl, rfl⟩, fun m hm hid => ?_⟩
      exact precedence_le_of_rank (bound m ((members m).mpr ⟨hm, hid.trans same⟩))
  · rintro ⟨⟨m, member, rfl, rfl⟩, bound⟩
    cases items : found.filter (·.matchId = m.matchId) with
    | nil =>
      have kept : m ∈ found.filter (·.matchId = m.matchId) := List.mem_filter.mpr ⟨member, by simp⟩
      rw [items] at kept
      cases kept
    | cons first rest =>
      have members := group first rest m.matchId items
      obtain ⟨selected, above⟩ := selectMatch_spec first rest
      obtain ⟨selected, same⟩ := (members _).mp selected
      have low := bound _ selected same
      have high := precedence_le_of_rank (above m ((members m).mpr ⟨member, rfl⟩))
      have status := matchPrecedence_injective (Nat.le_antisymm low high)
      refine ⟨aggregateAdvisoryMatches first rest, (mem_aggregateAll _ _).mpr ⟨m.matchId, first, rest, ?_, rfl⟩,
        Prod.ext same status⟩
      rw [get?_groupInto, items]
      rfl

theorem exists_highest (found : List VulnerabilityMatch) (m : VulnerabilityMatch) (member : m ∈ found) :
    ∃ top ∈ found, top.matchId = m.matchId ∧
      ∀ other ∈ found, other.matchId = m.matchId →
        matchPrecedence other.matchStatus ≤ matchPrecedence top.matchStatus := by
  have kept : m ∈ found.filter (·.matchId = m.matchId) := List.mem_filter.mpr ⟨member, by simp⟩
  cases items : found.filter (·.matchId = m.matchId) with
  | nil => rw [items] at kept; cases kept
  | cons first rest =>
    obtain ⟨selected, bound⟩ := selectMatch_spec first rest
    rw [← items] at selected bound
    obtain ⟨selected, same⟩ := List.mem_filter.mp selected
    refine ⟨_, selected, of_decide_eq_true same, fun other hother hid => ?_⟩
    exact precedence_le_of_rank (bound other (List.mem_filter.mpr ⟨hother, decide_eq_true hid⟩))

theorem results_eq_iff {kept found : List VulnerabilityMatch} (subset : ∀ m ∈ kept, m ∈ found) :
    results (aggregateAll (groupInto .empty kept)) = results (aggregateAll (groupInto .empty found)) ↔
      ∀ m ∈ found, ∃ other ∈ kept, other.matchId = m.matchId ∧
        matchPrecedence m.matchStatus ≤ matchPrecedence other.matchStatus := by
  constructor
  · intro same m member
    obtain ⟨top, htop, hid, bound⟩ := exists_highest found m member
    have result : (m.matchId, top.matchStatus) ∈ results (aggregateAll (groupInto .empty kept)) := by
      rw [same, mem_results_aggregateAll]
      exact ⟨⟨top, htop, hid, rfl⟩, bound⟩
    obtain ⟨⟨other, hother, otherId, status⟩, -⟩ := (mem_results_aggregateAll _ _ _).mp result
    exact ⟨other, hother, otherId, status ▸ bound m member rfl⟩
  · intro cover
    ext ⟨id, status⟩
    rw [mem_results_aggregateAll, mem_results_aggregateAll]
    constructor
    · rintro ⟨⟨m, member, hid, hstatus⟩, bound⟩
      refine ⟨⟨m, subset m member, hid, hstatus⟩, fun other hother otherId => ?_⟩
      obtain ⟨above, habove, aboveId, rank⟩ := cover other hother
      exact rank.trans (bound above habove (aboveId.trans otherId))
    · rintro ⟨⟨m, member, rfl, rfl⟩, bound⟩
      obtain ⟨above, habove, aboveId, rank⟩ := cover m member
      have equal := matchPrecedence_injective
        (Nat.le_antisymm (bound above (subset above habove) aboveId) rank)
      exact ⟨⟨above, habove, aboveId, equal⟩, fun other hother => bound other (subset other hother)⟩

section

variable {V : Type*} [LinearOrder V] (pep440 : List Char → Option V) (startedAt : Time)

def pairMatches (component : Component) (rows : List Affected) : List VulnerabilityMatch :=
  rows.filterMap (matchComponent pep440 component · startedAt)

def indexedMatches (components : List Component) (rows : List Affected) : List VulnerabilityMatch :=
  components.flatMap fun component =>
    pairMatches pep440 startedAt component (candidates (candidateIndex rows) component).values

/-- The reference evaluation: every component against every row of the list. -/
def exhaustiveMatches (components : List Component) (rows : List Affected) : List VulnerabilityMatch :=
  components.flatMap fun component => pairMatches pep440 startedAt component rows

theorem evaluateCandidate_groups {component : Component} {state state' : Evaluation} {row : Affected}
    (h : evaluateCandidate pep440 startedAt component state row = .ok state') :
    state'.groupedMatches =
      groupInto state.groupedMatches (matchComponent pep440 component row startedAt).toList := by
  simp only [evaluateCandidate] at h
  split at h
  · rename_i rejected
    cases h
    rw [rejected]
    rfl
  · rename_i found accepted
    split at h
    · cases h
    · cases h
      rw [accepted]
      rfl

theorem evaluateCandidates_groups {component : Component} {rows : List Affected} {state state' : Evaluation}
    (h : rows.foldlM (evaluateCandidate pep440 startedAt component) state = .ok state') :
    state'.groupedMatches = groupInto state.groupedMatches (pairMatches pep440 startedAt component rows) := by
  induction rows generalizing state with
  | nil => cases h; rfl
  | cons row rest ih =>
    rw [List.foldlM_cons] at h
    cases step : evaluateCandidate pep440 startedAt component state row with
    | error _ => rw [step] at h; cases h
    | ok next =>
      rw [step] at h
      have split : pairMatches pep440 startedAt component (row :: rest) =
          (matchComponent pep440 component row startedAt).toList ++
            pairMatches pep440 startedAt component rest := by
        unfold pairMatches
        rw [List.filterMap_cons]
        cases matchComponent pep440 component row startedAt <;> rfl
      rw [ih h, evaluateCandidate_groups pep440 startedAt step, split, groupInto_append]

theorem evaluateComponents_groups (rows : List Affected) {components : List Component}
    {state state' : Evaluation}
    (h : components.foldlM (evaluateComponent pep440 startedAt (candidateIndex rows)) state = .ok state') :
    state'.groupedMatches =
      groupInto state.groupedMatches (indexedMatches pep440 startedAt components rows) := by
  induction components generalizing state with
  | nil => cases h; rfl
  | cons component rest ih =>
    rw [List.foldlM_cons] at h
    cases step : evaluateComponent pep440 startedAt (candidateIndex rows) state component with
    | error _ => rw [step] at h; cases h
    | ok next =>
      rw [step] at h
      simp only [evaluateComponent] at step
      split at step
      · cases step
      · split at step
        · cases step
        · rw [ih h, evaluateCandidates_groups pep440 startedAt step, ← groupInto_append]
          rfl

theorem evaluatePairs_groups {components : List Component} {rows : List Affected} {evaluation : Evaluation}
    (h : evaluatePairs pep440 startedAt components rows = .ok evaluation) :
    evaluation.groupedMatches = groupInto .empty (indexedMatches pep440 startedAt components rows) :=
  evaluateComponents_groups pep440 startedAt rows h

theorem mem_pairMatches (component : Component) (rows : List Affected) (m : VulnerabilityMatch) :
    m ∈ pairMatches pep440 startedAt component rows ↔
      ∃ row ∈ rows, matchComponent pep440 component row startedAt = some m := by
  rw [pairMatches, List.mem_filterMap]

theorem mem_indexedMatches {components : List Component} {rows : List Affected}
    (distinct : (rows.map (·.affectedId)).Nodup) (m : VulnerabilityMatch) :
    m ∈ indexedMatches pep440 startedAt components rows ↔
      ∃ component ∈ components, ∃ row ∈ rows, Listed component row ∧
        matchComponent pep440 component row startedAt = some m := by
  simp only [indexedMatches, List.mem_flatMap, mem_pairMatches, mem_candidates rows distinct, and_assoc]

theorem mem_exhaustiveMatches {components : List Component} {rows : List Affected} (m : VulnerabilityMatch) :
    m ∈ exhaustiveMatches pep440 startedAt components rows ↔
      ∃ component ∈ components, ∃ row ∈ rows, matchComponent pep440 component row startedAt = some m := by
  simp only [exhaustiveMatches, List.mem_flatMap, mem_pairMatches]

/-- Every row that matches a component without being listed for it is matched in precedence by one that is. -/
def IndexCovers (components : List Component) (rows : List Affected) : Prop :=
  ∀ component ∈ components, ∀ row ∈ rows, ∀ m, matchComponent pep440 component row startedAt = some m →
    ¬ Listed component row →
    ∃ component' ∈ components, ∃ row' ∈ rows, ∃ m', Listed component' row' ∧
      matchComponent pep440 component' row' startedAt = some m' ∧ m'.matchId = m.matchId ∧
      matchPrecedence m.matchStatus ≤ matchPrecedence m'.matchStatus

def opensslComponent : Component :=
  { componentId := "cmp", siteId := "site", assetId := "asset", ecosystem := "deb", normalizedName := "openssl" }

def opensslRow : Affected :=
  { affectedId := "aff", advisoryId := "adv", ecosystem := "deb", normalizedName := "openssl" }

def repeatedName (n : Nat) : String := String.ofList (List.replicate n 's')

theorem repeatedName_length (n : Nat) : (repeatedName n).length = n := by
  rw [repeatedName, String.length_ofList, List.length_replicate]

theorem repeatedName_plain (n : Nat) : ∀ c ∈ List.replicate n 's', Text.isPlain c = true := by
  intro c member
  rw [List.eq_of_mem_replicate member]
  decide

theorem repeatedName_token (n limit : Nat) :
    Text.normalizedToken limit (some (repeatedName n)) = repeatedName (min limit n) := by
  rw [repeatedName, Text.normalizedToken_plain (repeatedName_plain n), List.take_replicate, repeatedName]

/-- What is stored for a name of 240 sharp s; it is cut to the limit when it is normalised again. -/
def foldedName : String := repeatedName 480

def shortName : String := repeatedName 240

theorem foldedName_token : Text.normalizedToken Text.maxComponentName (some foldedName) = shortName :=
  repeatedName_token 480 240

theorem shortName_token : Text.normalizedToken Text.maxComponentName (some shortName) = shortName :=
  repeatedName_token 240 240

theorem foldedName_ne_shortName : foldedName ≠ shortName := by
  intro same
  have lengths : (repeatedName 480).length = (repeatedName 240).length := congrArg String.length same
  rw [repeatedName_length, repeatedName_length] at lengths
  exact absurd lengths (by decide)

theorem shortName_nonempty : shortName ≠ "" := by
  intro same
  have lengths : (repeatedName 240).length = 0 := congrArg String.length same
  rw [repeatedName_length] at lengths
  exact absurd lengths (by decide)

def foldedComponent : Component :=
  { opensslComponent with ecosystem := "generic", vendor := some "acme", normalizedName := foldedName }

def foldedRow : Affected :=
  { opensslRow with ecosystem := "generic", vendor := some "acme", normalizedName := shortName }

theorem folded_unlisted : ¬ Listed foldedComponent foldedRow := by
  rintro ⟨-, ⟨named, -⟩ | ⟨-, same⟩⟩
  · exact named rfl
  · exact foldedName_ne_shortName same.symm

theorem folded_identity : ∃ name, identityMatch foldedComponent foldedRow = some ⟨.uncertain, 45 / 100, name⟩ := by
  have vendor : Text.normalizedToken 160 (some "acme") = "acme" := by decide
  have unidentified : packageIdentity none = none := by decide
  simp only [identityMatch, nameMatch, foldedComponent, foldedRow, opensslComponent, opensslRow, unidentified,
    foldedName_token, shortName_token, vendor]
  simp [shortName_nonempty]

end

end OpenAssetWatch.Vulnerability
