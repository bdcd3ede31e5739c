import OpenAssetWatch.Version.Preorder
import OpenAssetWatch.Vulnerability.Matching

namespace OpenAssetWatch.Vulnerability

open Text Version

/-- The strongest of affected, unsupported, fixed and not affected that occurs among the parts. -/
def joinStatus (parts : List RangeStatus) : MatchStatus :=
  if .affected ∈ parts then .affected
  else if .unsupportedComparison ∈ parts then .unsupportedComparison
  else if .fixed ∈ parts then .fixed
  else .notAffected

theorem joinStatus_affected (parts : List RangeStatus) : joinStatus parts = .affected ↔ .affected ∈ parts := by
  unfold joinStatus
  split
  · rename_i some
    exact ⟨fun _ => some, fun _ => rfl⟩
  · rename_i none
    refine ⟨fun h => ?_, fun h => absurd h none⟩
    split at h
    · cases h
    · split at h <;> cases h

theorem joinStatus_unsupported {parts : List RangeStatus} (none : .affected ∉ parts) :
    joinStatus parts = .unsupportedComparison ↔ .unsupportedComparison ∈ parts := by
  unfold joinStatus
  rw [if_neg none]
  split
  · rename_i some
    exact ⟨fun _ => some, fun _ => rfl⟩
  · rename_i unsupported
    refine ⟨fun h => ?_, fun h => absurd h unsupported⟩
    split at h <;> cases h

theorem joinStatus_fixed {parts : List RangeStatus} (none : .affected ∉ parts) (answered : .unsupportedComparison ∉ parts) :
    joinStatus parts = .fixed ↔ .fixed ∈ parts := by
  unfold joinStatus
  rw [if_neg none, if_neg answered]
  split
  · rename_i some
    exact ⟨fun _ => some, fun _ => rfl⟩
  · rename_i absent
    exact ⟨fun h => absurd h (by decide), fun h => absurd h absent⟩

theorem joinStatus_same {left right : List RangeStatus} (same : ∀ status, status ∈ left ↔ status ∈ right) :
    joinStatus left = joinStatus right := by
  unfold joinStatus
  simp only [same]

theorem outcomesVerdict_status (outcomes : List Outcome) :
    (outcomesVerdict outcomes).status = joinStatus (outcomes.map (·.status)) := by
  have found : ∀ status : RangeStatus, outcomes.find? (·.status == status) = none ↔ status ∉ outcomes.map (·.status) := by
    intro status
    rw [List.find?_eq_none, List.mem_map]
    constructor
    · rintro absent ⟨item, listed, same⟩
      exact absent item listed (by rw [same, beq_self_eq_true])
    · intro absent item listed same
      exact absent ⟨item, listed, beq_iff_eq.mp same⟩
  have present : ∀ {status : RangeStatus} {item : Outcome}, outcomes.find? (·.status == status) = some item →
      status ∈ outcomes.map (·.status) := by
    intro status item h
    by_contra absent
    rw [(found status).mpr absent] at h
    cases h
  unfold outcomesVerdict
  split
  · rename_i item affected
    exact ((joinStatus_affected _).mpr (present affected)).symm
  · rename_i affected
    have noneAffected := (found .affected).mp affected
    split
    · rename_i item unsupported
      exact ((joinStatus_unsupported noneAffected).mpr (present unsupported)).symm
    · rename_i unsupported
      have noneUnsupported := (found .unsupportedComparison).mp unsupported
      split
      · rename_i item fixed
        exact ((joinStatus_fixed noneAffected noneUnsupported).mpr (present fixed)).symm
      · rename_i fixed
        rw [joinStatus, if_neg noneAffected, if_neg noneUnsupported, if_neg ((found .fixed).mp fixed)]

section

variable {V : Type*} [LinearOrder V] (pep440 : List Char → Option V) (ecosystem installedVersion : String)

/-- What one exact version yields. -/
def exactPart (exact : String) : RangeStatus :=
  let comparison := compareVersions pep440 ecosystem (some installedVersion) (some exact)
  if comparison.status = .supported then
    if comparison.order = some .eq then .affected else .notAffected
  else
    .unsupportedComparison

def rangePart (range : VersionRange) : RangeStatus := (versionSatisfiesRange pep440 ecosystem (some installedVersion) range).1

/-- What every exact version and every range yields. -/
def versionParts (exactVersions : List String) (ranges : List VersionRange) : List RangeStatus :=
  exactVersions.map (exactPart pep440 ecosystem installedVersion) ++ ranges.map (rangePart pep440 ecosystem installedVersion)

theorem compareParsed_shape {left right : List Char} {comparison : VersionComparison}
    (h : compareParsed pep440 ecosystem left right = .ok comparison) :
    comparison.status = .supported ∨ comparison.reason ≠ "" := by
  have tuple : ∀ {l r : Library.TupleOrder.Value},
      (do return supported (← compareTuple l r)) = Except.ok comparison → comparison.status = .supported := by
    intro l r done
    obtain ⟨order, -, last⟩ := bind_ok done
    cases last
    rfl
  unfold compareParsed at h
  split at h
  · split at h
    · cases h
      exact Or.inl rfl
    · cases h
      exact Or.inr (by decide)
  split at h
  · obtain ⟨l, -, h⟩ := bind_ok h
    obtain ⟨r, -, h⟩ := bind_ok h
    split at h
    · exact Or.inl (tuple h)
    · cases h
      exact Or.inr (by decide)
  split at h
  · obtain ⟨order, -, h⟩ := bind_ok h
    cases h
    exact Or.inl rfl
  split at h
  · obtain ⟨l, -, h⟩ := bind_ok h
    obtain ⟨r, -, h⟩ := bind_ok h
    exact Or.inl (tuple h)
  split at h
  · obtain ⟨l, -, h⟩ := bind_ok h
    obtain ⟨r, -, h⟩ := bind_ok h
    exact Or.inl (tuple h)
  split at h
  · split at h
    · exact Or.inl (tuple h)
    · cases h
      exact Or.inr (by decide)
  · cases h
    exact Or.inr (by decide)

theorem compareVersions_reason {left right : Option String}
    (refused : (compareVersions pep440 ecosystem left right).status ≠ .supported) :
    (compareVersions pep440 ecosystem left right).reason ≠ "" := by
  unfold compareVersions at refused ⊢
  split
  · rename_i l r hl hr
    rw [hl, hr] at refused
    dsimp only at refused
    split
    · decide
    · rename_i accepted
      rw [if_neg accepted] at refused
      split
      · decide
      · rename_i different
        rw [if_neg different] at refused
        split
        · rename_i comparison parsed
          rw [parsed] at refused
          exact (compareParsed_shape pep440 ecosystem parsed).resolve_left refused
        · decide
  · decide

theorem exactVersionLoop_turn (reason exact : String) (rest : List String) :
    (exactPart pep440 ecosystem installedVersion exact = .affected ∧
      (exactVersionLoop pep440 ecosystem installedVersion reason (exact :: rest)).1 = .affected) ∨
    (exactPart pep440 ecosystem installedVersion exact = .notAffected ∧
      exactVersionLoop pep440 ecosystem installedVersion reason (exact :: rest) =
        exactVersionLoop pep440 ecosystem installedVersion reason rest) ∨
    (exactPart pep440 ecosystem installedVersion exact = .unsupportedComparison ∧ ∃ why, why ≠ "" ∧
      exactVersionLoop pep440 ecosystem installedVersion reason (exact :: rest) =
        exactVersionLoop pep440 ecosystem installedVersion why rest) := by
  unfold exactPart
  rw [exactVersionLoop]
  dsimp only
  by_cases supported : (compareVersions pep440 ecosystem (some installedVersion) (some exact)).status = .supported
  · by_cases equal : (compareVersions pep440 ecosystem (some installedVersion) (some exact)).order = some .eq
    · left
      rw [if_pos supported, if_pos equal, if_pos ⟨supported, equal⟩]
      exact ⟨rfl, rfl⟩
    · right
      left
      rw [if_pos supported, if_neg equal, if_neg (fun both => equal both.2), if_pos supported]
      exact ⟨rfl, rfl⟩
  · right
    right
    refine ⟨if_neg supported, _, compareVersions_reason pep440 ecosystem supported, ?_⟩
    rw [if_neg (fun both => supported both.1), if_neg supported]

theorem exactVersionLoop_status (reason : String) (exactVersions : List String) :
    (exactVersionLoop pep440 ecosystem installedVersion reason exactVersions).1 =
      let parts := exactVersions.map (exactPart pep440 ecosystem installedVersion)
      if .affected ∈ parts then .affected
      else if reason ≠ "" ∨ .unsupportedComparison ∈ parts then .unsupportedComparison
      else .notAffected := by
  induction exactVersions generalizing reason with
  | nil =>
    rw [exactVersionLoop]
    by_cases empty : reason = ""
    · rw [empty]
      rfl
    · have some : ¬ reason.isEmpty := by rwa [String.isEmpty_iff]
      rw [if_neg some]
      simp [empty]
  | cons exact rest ih =>
    simp only [List.map_cons, List.mem_cons]
    rcases exactVersionLoop_turn pep440 ecosystem installedVersion reason exact rest with
      ⟨part, turn⟩ | ⟨part, turn⟩ | ⟨part, why, filled, turn⟩
    · rw [turn, part]
      simp
    · rw [turn, part, ih]
      simp
    · rw [turn, part, ih]
      simp [filled]

theorem joinStatus_exact (exactVersions : List String) (ranges : List RangeStatus) :
    joinStatus ((exactVersionStatus pep440 ecosystem installedVersion exactVersions).1 :: ranges) =
      joinStatus (exactVersions.map (exactPart pep440 ecosystem installedVersion) ++ ranges) := by
  have status := exactVersionLoop_status pep440 ecosystem installedVersion "" exactVersions
  have fixed : .fixed ∉ exactVersions.map (exactPart pep440 ecosystem installedVersion) := by
    rw [List.mem_map]
    rintro ⟨exact, -, same⟩
    unfold exactPart at same
    dsimp only at same
    split at same
    · split at same <;> cases same
    · cases same
  rw [exactVersionStatus, status]
  simp only [joinStatus, List.mem_cons, List.mem_append]
  by_cases affected : .affected ∈ exactVersions.map (exactPart pep440 ecosystem installedVersion)
  · simp [affected]
  · by_cases unsupported : .unsupportedComparison ∈ exactVersions.map (exactPart pep440 ecosystem installedVersion)
    · simp [affected, unsupported]
    · simp [affected, unsupported, fixed]

theorem outcomes_status (component : Component) (affected : Affected) (few : affected.ranges.length ≤ 32) :
    (outcomesVerdict (versionOutcomes pep440 component affected installedVersion)).status =
      joinStatus (versionParts pep440 component.ecosystem installedVersion (affected.exactVersions.filterMap id) affected.ranges) := by
  have ranges : ∀ list : List VersionRange, (list.map fun range =>
      (⟨(versionSatisfiesRange pep440 component.ecosystem (some installedVersion) range).1,
        (versionSatisfiesRange pep440 component.ecosystem (some installedVersion) range).2,
        rangeDescription range⟩ : Outcome)).map (·.status) = list.map (rangePart pep440 component.ecosystem installedVersion) := by
    intro list
    rw [List.map_map]
    rfl
  rw [outcomesVerdict_status, versionOutcomes, List.take_of_length_le few, List.map_append, ranges, versionParts]
  by_cases none : (affected.exactVersions.filterMap id).isEmpty
  · rw [if_pos none, List.isEmpty_iff.mp none]
    rfl
  · rw [if_neg none]
    exact joinStatus_exact pep440 component.ecosystem installedVersion _ _

end

/-- The identity is precise and the source, the constraints and the evidence let the versions decide. -/
structure Comparable (component : Component) (affected : Affected) (identity : Identity) (installedVersion : String) : Prop where
  identified : identityMatch component affected = some identity
  precise : identity.state = .precise
  current : affected.current
  notWithdrawn : affected.withdrawnAt = none
  active : component.active
  authoritative : component.sourceType ∈ ["endpoint-collector", "reviewed-connector"]
  fresh : (component.freshness.filter (!·.isEmpty)).getD "unknown" ∉ ["stale", "unknown"]
  architecture : constraintApplies component.architecture affected.architectures
  platform : constraintApplies component.assetPlatform affected.platforms
  firmware : insufficientFirmware component = false
  installed : installedVersionOf component = some installedVersion

section

variable {V : Type*} [LinearOrder V] (pep440 : List Char → Option V)

theorem matchVerdict_comparable {component : Component} {affected : Affected} {identity : Identity} {installedVersion : String}
    (h : Comparable component affected identity installedVersion) :
    matchVerdict pep440 component affected identity.state =
      outcomesVerdict (versionOutcomes pep440 component affected installedVersion) := by
  unfold matchVerdict
  simp only [h.current, h.notWithdrawn, h.active, h.authoritative, h.fresh, h.precise, h.architecture, h.platform, h.firmware,
    h.installed, Bool.not_true, Option.isSome_none, Bool.or_self, Bool.false_eq_true, reduceCtorEq, not_true, if_false]

theorem matchComponent_status {component : Component} {affected : Affected} {identity : Identity} {installedVersion : String}
    (h : Comparable component affected identity installedVersion) (few : affected.ranges.length ≤ 32) (evaluatedAt : Time) :
    (matchComponent pep440 component affected evaluatedAt).map (·.matchStatus) =
      some (joinStatus (versionParts pep440 component.ecosystem installedVersion
        (affected.exactVersions.filterMap id) affected.ranges)) := by
  rw [matchComponent, h.identified, Option.map_some, Option.map_some, matchVerdict_comparable pep440 h]
  exact congrArg some (outcomes_status pep440 installedVersion component affected few)

/-- The version verdict is the join of what the exact versions and the ranges yield, in whatever order they are listed. -/
theorem match_status_join (component : Component) (affected : Affected) (identity : Identity) (installedVersion : String)
    (h : Comparable component affected identity installedVersion) (few : affected.ranges.length ≤ 32) (evaluatedAt : Time) :
    ∃ status, (matchComponent pep440 component affected evaluatedAt).map (·.matchStatus) = some status ∧
      let parts := versionParts pep440 component.ecosystem installedVersion (affected.exactVersions.filterMap id) affected.ranges
      (status = .affected ↔ .affected ∈ parts) ∧
      (.affected ∉ parts → (status = .unsupportedComparison ↔ .unsupportedComparison ∈ parts)) ∧
      (.affected ∉ parts → .unsupportedComparison ∉ parts → (status = .fixed ↔ .fixed ∈ parts)) ∧
      (.affected ∉ parts → .unsupportedComparison ∉ parts → .fixed ∉ parts → status = .notAffected) ∧
      ∀ exactVersions ranges, exactVersions.Perm affected.exactVersions → ranges.Perm affected.ranges →
        (matchComponent pep440 component { affected with exactVersions := exactVersions, ranges := ranges } evaluatedAt).map
          (·.matchStatus) = some status := by
  refine ⟨_, matchComponent_status pep440 h few evaluatedAt, joinStatus_affected _, joinStatus_unsupported, joinStatus_fixed,
    ?_, ?_⟩
  · intro affected unsupported fixed
    rw [joinStatus, if_neg affected, if_neg unsupported, if_neg fixed]
  · intro exactVersions ranges exactPerm rangePerm
    have permuted : Comparable component { affected with exactVersions := exactVersions, ranges := ranges } identity installedVersion :=
      ⟨h.identified, h.precise, h.current, h.notWithdrawn, h.active, h.authoritative, h.fresh, h.architecture, h.platform,
        h.firmware, h.installed⟩
    have few' : ranges.length ≤ 32 := rangePerm.length_eq ▸ few
    rw [matchComponent_status pep440 permuted few' evaluatedAt]
    apply congrArg some
    apply joinStatus_same
    intro status
    exact (((exactPerm.filterMap id).map _).append (rangePerm.map _)).mem_iff

end

def installedPackage : Component :=
  { componentId := "component-1", siteId := "site-a", assetId := "asset-1", ecosystem := "npm", normalizedName := "left-pad"
    normalizedVersion := some "1.5.0", canonicalIdentifier := some "pkg:npm/left-pad" }

/-- A fixed range before the affected one. -/
def twoRanges : Affected :=
  { affectedId := "affected-1", advisoryId := "ADV-1", ecosystem := "npm", normalizedName := "left-pad"
    canonicalIdentifier := some "pkg:npm/left-pad", exactVersions := [some "0.9.0"]
    ranges := [
      { introduced := some "0.1.0", fixed := some "1.0.0", lastAffected := none },
      { introduced := some "1.2.0", fixed := some "2.0.0", lastAffected := none }] }

theorem match_status_join_sample :
    (matchComponent (fun _ => (none : Option Nat)) installedPackage twoRanges 0).map (·.matchStatus) = some .affected := by
  have comparable : Comparable installedPackage twoRanges ⟨.precise, 1, "pkg:npm/left-pad"⟩ "1.5.0" :=
    ⟨by decide +kernel, rfl, rfl, rfl, rfl, by decide, by decide, by decide, by decide, by decide, by decide⟩
  obtain ⟨status, found, affected, -⟩ := match_status_join (fun _ => (none : Option Nat)) installedPackage twoRanges
    ⟨.precise, 1, "pkg:npm/left-pad"⟩ "1.5.0" comparable (by decide) 0
  rw [found, affected.mpr (by decide +kernel)]

end OpenAssetWatch.Vulnerability
