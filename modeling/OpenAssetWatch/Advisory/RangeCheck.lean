import OpenAssetWatch.Advisory.Import
import OpenAssetWatch.Version.Interval
import OpenAssetWatch.Version.Semver

namespace OpenAssetWatch.Advisory

open Version

def validateVersion (value : Option String) : Except String (Option String) :=
  match value with
  | none => .ok none
  | some value =>
    match Text.normalizeVersionText (some value) with
    | none => .error "range version must be non-empty"
    | some normalized => .ok (some (String.ofList normalized))

def requireBoundary (range : VersionRange) : Except String VersionRange :=
  if range.introducedUnbounded && range.introduced.isSome then
    .error "unbounded range cannot have an introduced version"
  else if range.introduced.isNone && !range.introducedUnbounded && range.fixed.isNone && range.lastAffected.isNone then
    .error "range requires an introduced, fixed, or last_affected boundary"
  else if range.fixed.isSome && range.lastAffected.isSome then
    .error "range cannot use fixed and last_affected together"
  else
    .ok range

/-- A range of the catalog as its own validators leave it. -/
def advisoryRange (raw : VersionRange) : Except String VersionRange := do
  let introduced ← validateVersion raw.introduced
  let fixed ← validateVersion raw.fixed
  let lastAffected ← validateVersion raw.lastAffected
  requireBoundary { raw with introduced, fixed, lastAffected }

def upperBoundary (range : VersionRange) : Option String := range.fixed.or range.lastAffected

def upperInclusive (range : VersionRange) : Bool :=
  if range.fixed.isSome then range.fixedInclusive else range.lastAffectedInclusive

section

variable {V : Type*} [LinearOrder V] (pep440 : List Char → Option V) (ecosystem : String)

def checkRange (range : VersionRange) : Except String Unit :=
  match range.introduced, upperBoundary range with
  | some introduced, some upper =>
    match (compareVersions pep440 ecosystem (some introduced) (some upper)).order with
    | none => .error "range boundaries must use a supported ecosystem version form"
    | some order =>
      if order = .gt then .error "range introduced boundary must not exceed its upper boundary"
      else if order = .eq ∧ ¬ (range.introducedInclusive ∧ upperInclusive range) then
        .error "range boundaries define an empty interval"
      else .ok ()
  | _, _ => .ok ()

/-- A range that the catalog validators let through. -/
structure Admitted (range : VersionRange) : Prop where
  validated : ∃ raw, advisoryRange raw = .ok range
  checked : checkRange pep440 ecosystem range = .ok ()

def affected (range : VersionRange) (value : Option String) : Prop :=
  (versionSatisfiesRange pep440 ecosystem value range).1 = .affected

/-- Every boundary that is set answers for the version. -/
structure Answered (range : VersionRange) (value : Option String) : Prop where
  introduced : ∀ bound ∈ range.introduced, (compareVersions pep440 ecosystem value (some bound)).status = .supported
  fixed : ∀ bound ∈ range.fixed, (compareVersions pep440 ecosystem value (some bound)).status = .supported
  lastAffected : ∀ bound ∈ range.lastAffected, (compareVersions pep440 ecosystem value (some bound)).status = .supported

variable {pep440 ecosystem}

theorem affected_of_inside {range : VersionRange} {value : Option String} {text : List Char}
    (normal : Text.normalizeVersionText value = some text) (safe : safeVersion text) :
    affected pep440 ecosystem range value ↔ Inside pep440 ecosystem range value := by
  rw [affected, affected_iff]
  have same : ∀ other, compareVersions pep440 ecosystem (some (String.ofList text)) other =
      compareVersions pep440 ecosystem value other := fun _ => compareVersions_normal pep440 ecosystem normal safe
  have inside : Inside pep440 ecosystem range (some (String.ofList text)) ↔ Inside pep440 ecosystem range value := by
    constructor
    · rintro ⟨introduced, fixed, lastAffected⟩
      simp only [FromBoundary, ToBoundary, same] at introduced fixed lastAffected
      exact ⟨introduced, fixed, lastAffected⟩
    · rintro ⟨introduced, fixed, lastAffected⟩
      refine ⟨?_, ?_, ?_⟩ <;> simp only [FromBoundary, ToBoundary, same]
      · exact introduced
      · exact fixed
      · exact lastAffected
  constructor
  · rintro ⟨installed, other, holds⟩
    rw [normal] at other
    cases other
    exact inside.mp holds
  · exact fun holds => ⟨text, normal, inside.mpr holds⟩

theorem normal_of_atMost {left right : Option String} (h : AtMost pep440 ecosystem left right) :
    (∃ text, Text.normalizeVersionText left = some text ∧ safeVersion text) ∧
      ∃ text, Text.normalizeVersionText right = some text ∧ safeVersion text := by
  obtain ⟨order, compared, -⟩ := h
  obtain ⟨l, r, hl, hr, safeLeft, safeRight⟩ := compareVersions_accepts pep440 ecosystem compared
  exact ⟨⟨l, hl, safeLeft⟩, r, hr, safeRight⟩

theorem affected_between {range : VersionRange} {first second third : Option String}
    (below : AtMost pep440 ecosystem first second) (above : AtMost pep440 ecosystem second third)
    (answered : Answered pep440 ecosystem range second) (low : affected pep440 ecosystem range first)
    (high : affected pep440 ecosystem range third) : affected pep440 ecosystem range second := by
  obtain ⟨⟨text, normal, safe⟩, text', normal', safe'⟩ := normal_of_atMost below
  obtain ⟨-, text'', normal'', safe''⟩ := normal_of_atMost above
  have inside := (affected_of_inside normal safe).mp low
  have inside'' := (affected_of_inside normal'' safe'').mp high
  apply (affected_of_inside normal' safe').mpr
  exact {
    introduced := inside.introduced.upward below answered.introduced
    fixed := inside''.fixed.downward above answered.fixed
    lastAffected := inside''.lastAffected.downward above answered.lastAffected }

theorem compareVersions_self {value : Option String} {text : List Char}
    (normal : Text.normalizeVersionText value = some text) (safe : safeVersion text) :
    (compareVersions pep440 ecosystem value value).order = some .eq := by
  simp only [compareVersions, normal, safe, Bool.not_true, Bool.or_false, Bool.false_eq_true, if_false, if_true]

theorem one_upper {raw range : VersionRange} (h : advisoryRange raw = .ok range) :
    ¬ (range.fixed.isSome ∧ range.lastAffected.isSome) := by
  obtain ⟨introduced, -, h⟩ := bind_ok h
  obtain ⟨fixed, -, h⟩ := bind_ok h
  obtain ⟨lastAffected, -, h⟩ := bind_ok h
  unfold requireBoundary at h
  split at h
  · cases h
  · split at h
    · cases h
    · split at h
      · cases h
      · rename_i one
        cases h
        rw [Bool.and_eq_true] at one
        exact one

theorem checkRange_ordered {range : VersionRange} {introduced upper : String}
    (h : checkRange pep440 ecosystem range = .ok ()) (lower : range.introduced = some introduced)
    (higher : upperBoundary range = some upper) :
    ∃ order, (compareVersions pep440 ecosystem (some introduced) (some upper)).order = some order ∧
      (order = .lt ∨ (order = .eq ∧ range.introducedInclusive ∧ upperInclusive range)) := by
  rw [checkRange, lower, higher] at h
  dsimp only at h
  cases compared : (compareVersions pep440 ecosystem (some introduced) (some upper)).order with
  | none =>
    rw [compared] at h
    cases h
  | some order =>
    rw [compared] at h
    refine ⟨order, rfl, ?_⟩
    dsimp only at h
    cases order with
    | lt => exact Or.inl rfl
    | eq =>
      rw [if_neg (by decide)] at h
      split at h
      · cases h
      · rename_i filled
        exact Or.inr ⟨rfl, by_contra fun closed => filled ⟨rfl, closed⟩⟩
    | gt =>
      rw [if_pos rfl] at h
      cases h

theorem toBoundary_upper {range : VersionRange} {upper : String} {value : Option String}
    (one : ¬ (range.fixed.isSome ∧ range.lastAffected.isSome)) (higher : upperBoundary range = some upper)
    (order : Ordering) (compared : (compareVersions pep440 ecosystem value (some upper)).order = some order)
    (kept : order = .lt ∨ (order = .eq ∧ upperInclusive range)) :
    ToBoundary pep440 ecosystem range.fixed range.fixedInclusive value ∧
      ToBoundary pep440 ecosystem range.lastAffected range.lastAffectedInclusive value := by
  unfold upperBoundary at higher
  unfold upperInclusive at kept
  cases fixed : range.fixed with
  | none =>
    rw [fixed] at higher kept
    have last : range.lastAffected = some upper := higher
    refine ⟨fun bound same => (by cases same), fun bound same => ?_⟩
    rw [last] at same
    cases same
    exact ⟨order, compared, kept⟩
  | some first =>
    rw [fixed] at higher kept one
    have same : first = upper := Option.some.inj higher
    have last : range.lastAffected = none := by
      cases second : range.lastAffected with
      | none => rfl
      | some other =>
        rw [second] at one
        exact absurd ⟨rfl, rfl⟩ one
    refine ⟨fun bound set => ?_, fun bound set => ?_⟩
    · cases set
      rw [same]
      exact ⟨order, compared, kept⟩
    · rw [last] at set
      cases set

theorem admitted_ends {range : VersionRange} (admitted : Admitted pep440 ecosystem range) {introduced upper : String}
    (lower : range.introduced = some introduced) (higher : upperBoundary range = some upper) :
    (range.introducedInclusive → affected pep440 ecosystem range (some introduced)) ∧
      (upperInclusive range → affected pep440 ecosystem range (some upper)) := by
  obtain ⟨raw, validated⟩ := admitted.validated
  have one := one_upper validated
  obtain ⟨order, compared, kept⟩ := checkRange_ordered admitted.checked lower higher
  obtain ⟨l, r, hl, hr, safeLeft, safeRight⟩ := compareVersions_accepts pep440 ecosystem compared
  constructor
  · intro closed
    apply (affected_of_inside hl safeLeft).mpr
    have uppers := toBoundary_upper one higher order compared (kept.imp_right fun h => ⟨h.1, h.2.2⟩)
    refine ⟨?_, uppers.1, uppers.2⟩
    intro bound set
    rw [lower] at set
    cases set
    exact ⟨.eq, compareVersions_self hl safeLeft, Or.inr ⟨rfl, closed⟩⟩
  · intro closed
    apply (affected_of_inside hr safeRight).mpr
    have itself : (compareVersions pep440 ecosystem (some upper) (some upper)).order = some .eq := compareVersions_self hr safeRight
    have uppers := toBoundary_upper one higher .eq itself (Or.inr ⟨rfl, closed⟩)
    refine ⟨?_, uppers.1, uppers.2⟩
    intro bound set
    rw [lower] at set
    cases set
    refine ⟨order.swap, compareVersions_swap pep440 ecosystem compared, ?_⟩
    rcases kept with rfl | ⟨rfl, inclusive, -⟩
    · exact Or.inl rfl
    · exact Or.inr ⟨rfl, inclusive⟩

end

/-- Affected versions form an interval of the ecosystem's order, read off the boundaries, and an admitted range with two
boundaries contains those of its ends that are inclusive. -/
theorem affected_is_interval {V : Type*} [LinearOrder V] (pep440 : List Char → Option V) (ecosystem : String)
    (range : VersionRange) :
    (∀ first second third, AtMost pep440 ecosystem first second → AtMost pep440 ecosystem second third →
      Answered pep440 ecosystem range second → affected pep440 ecosystem range first →
      affected pep440 ecosystem range third → affected pep440 ecosystem range second) ∧
    (∀ value, affected pep440 ecosystem range value ↔ ∃ installed, Text.normalizeVersionText value = some installed ∧
      Inside pep440 ecosystem range (some (String.ofList installed))) ∧
    (Admitted pep440 ecosystem range → ∀ introduced upper, range.introduced = some introduced →
      upperBoundary range = some upper →
      (range.introducedInclusive → affected pep440 ecosystem range (some introduced)) ∧
        (upperInclusive range → affected pep440 ecosystem range (some upper))) :=
  ⟨fun _ _ _ below above answered low high => affected_between below above answered low high,
    affected_iff pep440 ecosystem range, fun admitted _ _ lower higher => admitted_ends admitted lower higher⟩

def firstMajor : VersionRange := { introduced := some "1.0.0", fixed := some "2.0.0", lastAffected := none }

theorem affected_is_interval_sample : affected (fun _ => (none : Option Nat)) "npm" firstMajor (some "1.0.0") := by
  have admitted : Admitted (fun _ => (none : Option Nat)) "npm" firstMajor := ⟨⟨firstMajor, by decide⟩, by decide⟩
  exact ((affected_is_interval (fun _ => (none : Option Nat)) "npm" firstMajor).2.2 admitted "1.0.0" "2.0.0" rfl rfl).1 rfl

/-- Both ends exclusive, and no version between them. -/
def openGap : VersionRange :=
  { introduced := some "1.0.0", introducedInclusive := false, fixed := some "1.0.1-0", lastAffected := none }

theorem nothing_between (x : SemverVersion) (filled : x.prerelease ≠ some [])
    (above : precedence x { major := 1, minor := 0, patch := 0, prerelease := none } = .gt)
    (below : precedence x { major := 1, minor := 0, patch := 1, prerelease := some [.numeric 0] } = .lt) : False := by
  obtain ⟨major, minor, patch, prerelease⟩ := x
  simp only [precedence, Ordering.then_eq_gt, Ordering.then_eq_lt, compare_gt_iff_gt, compare_lt_iff_lt,
    compare_eq_iff_eq] at above below
  cases prerelease with
  | none =>
    simp only [prereleaseOrder, reduceCtorEq, and_false, or_false] at above below
    omega
  | some identifiers =>
    cases identifiers with
    | nil => exact filled rfl
    | cons first rest =>
      have least : List.compareLex identifierOrder (first :: rest) [.numeric 0] ≠ .lt := by
        rw [Library.Comparator.compareLex_cons]
        cases first with
        | alphanumeric text =>
          show Ordering.gt ≠ .lt
          decide
        | numeric n =>
          show ((compare n 0).then (List.compareLex identifierOrder rest [])) ≠ .lt
          rcases Nat.eq_zero_or_pos n with rfl | positive
          · cases rest with
            | nil => decide
            | cons second rest =>
              show Ordering.gt ≠ .lt
              decide
          · rw [compare_gt_iff_gt.mpr positive]
            show Ordering.gt ≠ .lt
            decide
      simp only [prereleaseOrder, reduceCtorEq, least, and_false, or_false] at above below
      omega

section

variable {V : Type*} [LinearOrder V] {pep440 : List Char → Option V}

theorem versionOrder_semver {left right : Option String} {x y : SemverText}
    (hl : Text.normalizeVersionText left = some x.chars) (hr : Text.normalizeVersionText right = some y.chars)
    (boundedLeft : x.Bounded) (boundedRight : y.Bounded) :
    versionOrder pep440 "npm" left right = precedence x.version y.version := by
  rw [versionOrder, Library.Comparator.onParsed_some hl hr]
  let key (value : List Char) := (semver value).toOption.join
  show Library.Comparator.onParsed key Library.TupleOrder.totalCompare x.chars y.chars = _
  have leftKey : key x.chars = some x.version.key := by
    show (semver x.chars).toOption.join = _
    rw [semver_key x boundedLeft]
    rfl
  have rightKey : key y.chars = some y.version.key := by
    show (semver y.chars).toOption.join = _
    rw [semver_key y boundedRight]
    rfl
  rw [Library.Comparator.onParsed_some leftKey rightKey]
  exact Library.TupleOrder.totalCompare_extends _ _ _ (compare_versionKey x y)

theorem semver_of_compared {left right : Option String} {order : Ordering} (different : order ≠ .eq)
    (h : (compareVersions pep440 "npm" left right).order = some order) :
    ∃ x : SemverText, Text.normalizeVersionText left = some x.chars ∧ x.Bounded := by
  obtain ⟨l, r, hl, hr, safeLeft, safeRight⟩ := compareVersions_accepts pep440 "npm" h
  simp only [compareVersions, hl, hr, safeLeft, safeRight, Bool.not_true, Bool.or_false, Bool.false_eq_true, if_false] at h
  split at h
  · cases h
    exact absurd rfl different
  · split at h
    · rename_i parsed
      have parsed : (semver l >>= _) = Except.ok _ := parsed
      obtain ⟨leftKey, leftParsed, rest⟩ := bind_ok parsed
      obtain ⟨rightKey, -, rest⟩ := bind_ok rest
      cases leftKey with
      | none =>
        cases rest
        cases h
      | some key =>
        obtain ⟨x, text, bounded⟩ := semver_reads leftParsed
        exact ⟨x, by rw [hl, text], bounded⟩
    · cases h

end

/-- The text `1.0.0`, or `1.0.1-0` with its last numbers. -/
def numbersText (patch : Char) (prerelease : Option (List Char)) (digit : patch.isDigit)
    (semver : ∀ body ∈ prerelease, body ≠ [] ∧ ∀ c ∈ body, isSemverChar c) : SemverText where
  marked := none
  major := ['1']
  minor := some ['0']
  patch := some [patch]
  prerelease := prerelease
  build := none
  markedV := unmarked
  majorNumber := one_number
  minorNumber := zero_number
  patchNumber := fun digits h => by
    cases h
    refine ⟨by simp [isNumeric, digit], ?_⟩
    by_cases zero : patch = '0'
    · exact Or.inl (by rw [zero])
    · exact Or.inr (by simpa using zero)
  patchAfterMinor := fun _ => rfl
  prereleaseText := semver
  buildText := no_identifiers

def lowerText : SemverText := numbersText '0' none (by decide) no_identifiers

def upperText : SemverText :=
  numbersText '1' (some ['0']) (by decide) (fun body h => by cases h; simp [isSemverChar, Char.isAlphanum, Char.isDigit])

/-- The catalog admits a range with two exclusive ends between which no version lies. -/
theorem open_gap_empty : Admitted (fun _ => (none : Option Nat)) "npm" openGap ∧
    ∀ value, ¬ affected (fun _ => (none : Option Nat)) "npm" openGap value := by
  refine ⟨⟨⟨openGap, by decide +kernel⟩, by decide +kernel⟩, ?_⟩
  intro value inRange
  obtain ⟨installed, -, inside⟩ := (affected_iff _ "npm" openGap value).mp inRange
  obtain ⟨above, comparedAbove, keptAbove⟩ := inside.introduced "1.0.0" rfl
  obtain ⟨below, comparedBelow, keptBelow⟩ := inside.fixed "1.0.1-0" rfl
  have more : above = .gt := keptAbove.resolve_right fun h => absurd h.2 (by decide)
  have less : below = .lt := keptBelow.resolve_right fun h => absurd h.2 (by decide)
  subst more less
  have part := compareVersions_extends (fun _ => (none : Option Nat)) "npm"
  obtain ⟨x, normal, bounded⟩ := semver_of_compared (by decide) comparedAbove
  have boundedLower : lowerText.Bounded := by unfold SemverText.Bounded; decide
  have boundedUpper : upperText.Bounded := by unfold SemverText.Bounded; decide
  have overLower := part _ _ _ comparedAbove
  have underUpper := part _ _ _ comparedBelow
  have lower : lowerText.version = { major := 1, minor := 0, patch := 0, prerelease := none } := by decide
  have upper : upperText.version = { major := 1, minor := 0, patch := 1, prerelease := some [.numeric 0] } := by decide
  rw [versionOrder_semver normal (y := lowerText) (by decide) bounded boundedLower, lower] at overLower
  rw [versionOrder_semver normal (y := upperText) (by decide) bounded boundedUpper, upper] at underUpper
  exact nothing_between x.version (prerelease_nonempty x) overLower underUpper

end OpenAssetWatch.Advisory
