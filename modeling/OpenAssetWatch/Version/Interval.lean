import OpenAssetWatch.Version.Dpkg
import OpenAssetWatch.Version.Preorder
import OpenAssetWatch.Version.Compare

namespace OpenAssetWatch.Version

open Library.TupleOrder (Value compare? compare?_swap)

theorem safe_plain {c : Char} (h : isSafe c) : Text.isSpace c = false ∧ Text.isControl c = false := by
  have ascii : c.toNat < 128 := by
    simp only [isSafe, Bool.or_eq_true, Char.isAlphanum, beq_iff_eq] at h
    rcases h with ((((((alphanumeric | same) | same) | same) | same) | same) | same) | same
    · rcases alphanumeric with alpha | digit
      · exact Nat.lt_of_le_of_lt (isAlpha_range alpha).2 (by decide)
      · simp only [Char.isDigit, Bool.and_eq_true, decide_eq_true_eq] at digit
        exact Nat.lt_of_le_of_lt (UInt32.le_iff_toNat_le.mp digit.2) (by decide)
    all_goals
      rw [same]
      decide
  have table : ∀ n < 128, isSafe (Char.ofNat n) →
      Text.isSpace (Char.ofNat n) = false ∧ Text.isControl (Char.ofNat n) = false := by decide
  have here := table c.toNat ascii
  rw [Char.ofNat_toNat] at here
  exact here h

theorem normalizeVersionText_safe {text : List Char} (safe : safeVersion text) :
    Text.normalizeVersionText (some (String.ofList text)) = some text := by
  have length := safeVersion_length safe
  simp only [safeVersion, Bool.and_eq_true, decide_eq_true_eq, List.all_eq_true] at safe
  have spaces : ∀ c ∈ text, Text.isSpace c = false := fun c member => (safe_plain (safe.2 c member)).1
  have clean : Text.boundedText Text.maxComponentVersion (some (String.ofList text)) = text.take Text.maxComponentVersion :=
    Text.boundedText_clean spaces fun c member => (safe_plain (safe.2 c member)).2
  rw [List.take_of_length_le (show text.length ≤ Text.maxComponentVersion from length)] at clean
  have nonempty : text.isEmpty = false := by
    rw [List.isEmpty_eq_false_iff, ← List.length_pos_iff]
    exact safe.1.1
  have noSpace : text.any Text.isSpace = false := by
    rw [List.any_eq_false]
    intro c member
    rw [spaces c member]
    decide
  simp only [Text.normalizeVersionText, clean, nonempty, noSpace, Bool.false_eq_true, if_false]

section

variable {V : Type*} [LinearOrder V] (pep440 : List Char → Option V) (ecosystem : String)

theorem compareVersions_accepts {left right : Option String} {order : Ordering}
    (h : (compareVersions pep440 ecosystem left right).order = some order) :
    ∃ l r, Text.normalizeVersionText left = some l ∧ Text.normalizeVersionText right = some r ∧ safeVersion l ∧ safeVersion r := by
  simp only [compareVersions] at h
  split at h
  · rename_i l r hl hr
    refine ⟨l, r, hl, hr, ?_⟩
    by_contra unaccepted
    have refused : (!safeVersion l || !safeVersion r) = true := by
      rw [Bool.or_eq_true, Bool.not_eq_true', Bool.not_eq_true']
      by_contra both
      rw [not_or, Bool.not_eq_false, Bool.not_eq_false] at both
      exact unaccepted both
    rw [refused, if_pos rfl] at h
    cases h
  · cases h

theorem compareVersions_normal {value other : Option String} {text : List Char}
    (normal : Text.normalizeVersionText value = some text) (safe : safeVersion text) :
    compareVersions pep440 ecosystem (some (String.ofList text)) other = compareVersions pep440 ecosystem value other := by
  simp only [compareVersions, normal, normalizeVersionText_safe safe]

/-- At or above a lower boundary, when it is set. -/
def FromBoundary (boundary : Option String) (inclusive : Bool) (value : Option String) : Prop :=
  ∀ bound ∈ boundary, ∃ order, (compareVersions pep440 ecosystem value (some bound)).order = some order ∧
    (order = .gt ∨ (order = .eq ∧ inclusive))

/-- At or below an upper boundary, when it is set. -/
def ToBoundary (boundary : Option String) (inclusive : Bool) (value : Option String) : Prop :=
  ∀ bound ∈ boundary, ∃ order, (compareVersions pep440 ecosystem value (some bound)).order = some order ∧
    (order = .lt ∨ (order = .eq ∧ inclusive))

/-- The version satisfies every boundary that is set, each with its inclusiveness. -/
structure Inside (range : VersionRange) (value : Option String) : Prop where
  introduced : FromBoundary pep440 ecosystem range.introduced range.introducedInclusive value
  fixed : ToBoundary pep440 ecosystem range.fixed range.fixedInclusive value
  lastAffected : ToBoundary pep440 ecosystem range.lastAffected range.lastAffectedInclusive value

theorem checkBoundary_affected {installed : List Char} {boundary : Option String} {violated : Ordering → Bool}
    {verdict next : RangeStatus × String} (other : verdict.1 ≠ .affected) :
    (checkBoundary pep440 ecosystem installed boundary violated verdict next).1 = .affected ↔
      (∀ bound ∈ boundary, ∃ order,
        (compareVersions pep440 ecosystem (some (String.ofList installed)) (some bound)).order = some order ∧
          violated order = false) ∧ next.1 = .affected := by
  cases boundary with
  | none => exact ⟨fun h => ⟨fun bound same => (by cases same), h⟩, And.right⟩
  | some bound =>
    simp only [checkBoundary, Option.mem_some_iff, forall_eq']
    cases answer : (compareVersions pep440 ecosystem (some (String.ofList installed)) (some bound)).order with
    | none =>
      constructor
      · exact fun h => (by cases h)
      · rintro ⟨⟨order, same, -⟩, -⟩
        cases same
    | some order =>
      dsimp only
      cases broken : violated order with
      | true =>
        rw [if_pos rfl]
        constructor
        · exact fun h => absurd h other
        · rintro ⟨⟨order', same, kept⟩, -⟩
          cases same
          rw [broken] at kept
          cases kept
      | false =>
        rw [if_neg (by decide)]
        exact ⟨fun h => ⟨⟨order, rfl, broken⟩, h⟩, And.right⟩

theorem lower_kept (order : Ordering) (inclusive : Bool) :
    (order == .lt || (order == .eq && !inclusive)) = false ↔ order = .gt ∨ (order = .eq ∧ inclusive) := by
  cases order <;> cases inclusive <;> decide

theorem upper_kept (order : Ordering) (inclusive : Bool) :
    (order == .gt || (order == .eq && !inclusive)) = false ↔ order = .lt ∨ (order = .eq ∧ inclusive) := by
  cases order <;> cases inclusive <;> decide

theorem affected_iff (range : VersionRange) (value : Option String) :
    (versionSatisfiesRange pep440 ecosystem value range).1 = .affected ↔
      ∃ installed, Text.normalizeVersionText value = some installed ∧
        Inside pep440 ecosystem range (some (String.ofList installed)) := by
  unfold versionSatisfiesRange
  cases normal : Text.normalizeVersionText value with
  | none =>
    constructor
    · exact fun h => (by cases h)
    · rintro ⟨installed, same, -⟩
      cases same
  | some installed =>
    dsimp only
    rw [checkBoundary_affected pep440 ecosystem (by decide), checkBoundary_affected pep440 ecosystem (by decide),
      checkBoundary_affected pep440 ecosystem (by decide)]
    simp only [lower_kept, upper_kept, and_true]
    constructor
    · exact fun ⟨introduced, fixed, lastAffected⟩ => ⟨installed, rfl, introduced, fixed, lastAffected⟩
    · rintro ⟨same, equal, inside⟩
      cases equal
      exact ⟨inside.introduced, inside.fixed, inside.lastAffected⟩

theorem compareTuple_swap {left right : Value} {order : Ordering} (h : compareTuple left right = .ok order) :
    compareTuple right left = .ok order.swap := by
  unfold compareTuple at h ⊢
  rw [compare?_swap left right]
  cases answer : compare? left right with
  | none =>
    rw [answer] at h
    cases h
  | some decided =>
    rw [answer] at h
    cases h
    rfl

theorem debianCompare_swap {left right : List Char} {order : Ordering} (safeLeft : safeVersion left)
    (safeRight : safeVersion right) (h : debianCompare left right = .ok order) : ∃ other, debianCompare right left = .ok other := by
  have hl := safeVersion_length safeLeft
  have hr := safeVersion_length safeRight
  cases leftSplit : splitEpoch left with
  | error _ =>
    simp only [debianCompare, leftSplit, bind, Except.bind] at h
    cases h
  | ok first =>
    cases rightSplit : splitEpoch right with
    | error _ =>
      simp only [debianCompare, leftSplit, rightSplit, bind, Except.bind] at h
      cases h
    | ok second =>
      obtain ⟨l, writesLeft⟩ := writes_of_splitEpoch leftSplit
      obtain ⟨r, writesRight⟩ := writes_of_splitEpoch rightSplit
      exact ⟨_, debianCompare_parts hr hl writesRight writesLeft⟩

theorem tupleKeys_swap {key : List Char → Except Raised Value} {left right : List Char} {comparison : VersionComparison}
    (h : (do return supported (← compareTuple (← key left) (← key right))) = Except.ok comparison) :
    ∃ other order, (do return supported (← compareTuple (← key right) (← key left))) = Except.ok other ∧
      other.order = some order := by
  obtain ⟨l, hl, h⟩ := bind_ok h
  obtain ⟨r, hr, h⟩ := bind_ok h
  obtain ⟨decided, tuples, -⟩ := bind_ok h
  refine ⟨supported decided.swap, decided.swap, ?_, rfl⟩
  rw [hl, hr]
  show (do return supported (← compareTuple r l)) = Except.ok (supported decided.swap)
  rw [compareTuple_swap tuples]
  rfl

theorem compareParsed_swap {left right : List Char} {comparison : VersionComparison} {order : Ordering}
    (safeLeft : safeVersion left) (safeRight : safeVersion right)
    (h : compareParsed pep440 ecosystem left right = .ok comparison) (answered : comparison.order = some order) :
    ∃ other order, compareParsed pep440 ecosystem right left = .ok other ∧ other.order = some order := by
  unfold compareParsed at h ⊢
  split at h
  · rename_i pypi
    rw [if_pos pypi]
    split at h
    · rename_i l r hl hr
      rw [hl, hr]
      exact ⟨_, _, rfl, rfl⟩
    · cases h
      cases answered
  rename_i notPypi
  rw [if_neg notPypi]
  split at h
  · rename_i semantic
    rw [if_pos semantic]
    obtain ⟨l, hl, h⟩ := bind_ok h
    obtain ⟨r, hr, h⟩ := bind_ok h
    split at h
    · rename_i lkey rkey _
      obtain ⟨decided, tuples, -⟩ := bind_ok h
      refine ⟨supported decided.swap, decided.swap, ?_, rfl⟩
      rw [hl, hr]
      show (do return supported (← compareTuple rkey lkey)) = Except.ok (supported decided.swap)
      rw [compareTuple_swap tuples]
      rfl
    · cases h
      cases answered
  rename_i notSemantic
  rw [if_neg notSemantic]
  split at h
  · rename_i debian
    rw [if_pos debian]
    obtain ⟨decided, compared, -⟩ := bind_ok h
    obtain ⟨other, back⟩ := debianCompare_swap safeLeft safeRight compared
    refine ⟨supported other, other, ?_, rfl⟩
    rw [back]
    rfl
  rename_i notDebian
  rw [if_neg notDebian]
  split at h
  · rename_i rpm
    rw [if_pos rpm]
    exact tupleKeys_swap h
  rename_i notRpm
  rw [if_neg notRpm]
  split at h
  · rename_i java
    rw [if_pos java]
    exact tupleKeys_swap h
  rename_i notMaven
  rw [if_neg notMaven]
  split at h
  · rename_i generic
    rw [if_pos generic]
    split at h
    · rename_i l r hl hr
      obtain ⟨decided, tuples, -⟩ := bind_ok h
      refine ⟨supported decided.swap, decided.swap, ?_, rfl⟩
      rw [hl, hr]
      show (do return supported (← compareTuple r l)) = Except.ok (supported decided.swap)
      rw [compareTuple_swap tuples]
      rfl
    · cases h
      cases answered
  · cases h
    cases answered

theorem compareVersions_swap {left right : Option String} {order : Ordering}
    (h : (compareVersions pep440 ecosystem left right).order = some order) :
    (compareVersions pep440 ecosystem right left).order = some order.swap := by
  obtain ⟨l, r, hl, hr, safeLeft, safeRight⟩ := compareVersions_accepts pep440 ecosystem h
  have answered : ∃ other, (compareVersions pep440 ecosystem right left).order = some other := by
    simp only [compareVersions, hl, hr, safeLeft, safeRight, Bool.not_true, Bool.or_false, Bool.false_eq_true, if_false] at h ⊢
    by_cases same : l = r
    · rw [if_pos same.symm]
      exact ⟨_, rfl⟩
    · rw [if_neg same] at h
      rw [if_neg (Ne.symm same)]
      cases parsed : compareParsed pep440 ecosystem l r with
      | error _ =>
        rw [parsed] at h
        cases h
      | ok comparison =>
        rw [parsed] at h
        obtain ⟨other, decided, back, orders⟩ := compareParsed_swap pep440 ecosystem safeLeft safeRight parsed h
        rw [back]
        exact ⟨decided, orders⟩
  obtain ⟨other, back⟩ := answered
  rw [back, (compareVersions_extends pep440 ecosystem).swap h back]

section Convexity

variable {pep440 ecosystem} {boundary : Option String} {inclusive : Bool} {low high : Option String}

theorem FromBoundary.upward (h : FromBoundary pep440 ecosystem boundary inclusive low)
    (below : AtMost pep440 ecosystem low high)
    (answered : ∀ bound ∈ boundary, (compareVersions pep440 ecosystem high (some bound)).status = .supported) :
    FromBoundary pep440 ecosystem boundary inclusive high := by
  intro bound set
  have part := compareVersions_extends pep440 ecosystem
  obtain ⟨first, compared, kept⟩ := h bound set
  obtain ⟨order, ordered⟩ := supported_order pep440 ecosystem (answered bound set)
  obtain ⟨step, stepped, stepLE⟩ := below
  refine ⟨order, ordered, ?_⟩
  have lowBound := part _ _ _ (compareVersions_swap pep440 ecosystem compared)
  have lowHigh := part _ _ _ stepped
  have boundHigh := part _ _ _ (compareVersions_swap pep440 ecosystem ordered)
  rw [← lowHigh] at stepLE
  rcases kept with rfl | ⟨rfl, closed⟩
  · left
    have strict := Std.TransCmp.lt_of_lt_of_isLE lowBound stepLE
    rw [boundHigh] at strict
    exact Ordering.swap_eq_lt.mp strict
  · have weak := Std.TransCmp.isLE_trans (Ordering.isLE_of_eq_eq lowBound) stepLE
    rw [boundHigh] at weak
    cases order with
    | lt => cases weak
    | eq => exact Or.inr ⟨rfl, closed⟩
    | gt => exact Or.inl rfl

theorem ToBoundary.downward (h : ToBoundary pep440 ecosystem boundary inclusive high)
    (below : AtMost pep440 ecosystem low high)
    (answered : ∀ bound ∈ boundary, (compareVersions pep440 ecosystem low (some bound)).status = .supported) :
    ToBoundary pep440 ecosystem boundary inclusive low := by
  intro bound set
  have part := compareVersions_extends pep440 ecosystem
  obtain ⟨first, compared, kept⟩ := h bound set
  obtain ⟨order, ordered⟩ := supported_order pep440 ecosystem (answered bound set)
  obtain ⟨step, stepped, stepLE⟩ := below
  refine ⟨order, ordered, ?_⟩
  have highBound := part _ _ _ compared
  have lowHigh := part _ _ _ stepped
  have lowBound := part _ _ _ ordered
  rw [← lowHigh] at stepLE
  rcases kept with rfl | ⟨rfl, closed⟩
  · left
    rw [← lowBound]
    exact Std.TransCmp.lt_of_isLE_of_lt stepLE highBound
  · have weak := Std.TransCmp.isLE_trans stepLE (Ordering.isLE_of_eq_eq highBound)
    rw [lowBound] at weak
    cases order with
    | lt => exact Or.inl rfl
    | eq => exact Or.inr ⟨rfl, closed⟩
    | gt => cases weak

end Convexity

end

end OpenAssetWatch.Version
