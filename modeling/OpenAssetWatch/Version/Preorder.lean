import OpenAssetWatch.Version.DebianOrder

namespace OpenAssetWatch.Version

open Library.Comparator
open Library.TupleOrder (totalCompare totalCompare_extends)

theorem compareTuple_total {left right : Library.TupleOrder.Value} {order : Ordering}
    (h : compareTuple left right = .ok order) : totalCompare left right = order := by
  unfold compareTuple at h
  split at h
  · rename_i answered
    cases h
    exact totalCompare_extends _ _ _ answered
  · cases h

theorem bind_ok {ε : Type*} {α β : Type} {first : Except ε α} {next : α → Except ε β} {result : β}
    (h : first >>= next = .ok result) : ∃ value, first = .ok value ∧ next value = .ok result := by
  cases first with
  | error _ => cases h
  | ok value => exact ⟨value, rfl, h⟩

theorem supportedTuple_order {left right : Library.TupleOrder.Value} {comparison : VersionComparison}
    {order : Ordering} (h : (do return supported (← compareTuple left right)) = Except.ok comparison)
    (answered : comparison.order = some order) : totalCompare left right = order := by
  obtain ⟨decided, tuples, result⟩ := bind_ok h
  cases result
  cases answered
  exact compareTuple_total tuples

theorem tupleKeys_order {key : List Char → Except Raised Library.TupleOrder.Value} {left right : List Char}
    {comparison : VersionComparison} {order : Ordering}
    (h : (do return supported (← compareTuple (← key left) (← key right))) = Except.ok comparison)
    (answered : comparison.order = some order) :
    onParsed (fun value => (key value).toOption) totalCompare left right = order := by
  obtain ⟨l, hl, h⟩ := bind_ok h
  obtain ⟨r, hr, h⟩ := bind_ok h
  rw [onParsed_some (k := l) (l := r) (by rw [hl]; rfl) (by rw [hr]; rfl)]
  exact supportedTuple_order h answered

section

variable {V : Type*} [LinearOrder V] (pep440 : List Char → Option V) (ecosystem : String)

/-- A total order on texts for each ecosystem, of which the ecosystem's comparison is a part. -/
def ecosystemOrder : List Char → List Char → Ordering :=
  if ecosystem = "pypi" then onParsed pep440 compare
  else if ecosystem ∈ ["npm", "nuget", "golang"] then
    onParsed (fun value => (semver value).toOption.join) totalCompare
  else if ecosystem ∈ ["deb", "alpine"] then onParsed debianVersion debianVersionOrder
  else if ecosystem = "rpm" then onParsed (fun value => (rpmSegments value).toOption) totalCompare
  else if ecosystem = "maven" then onParsed (fun value => (maven value).toOption) totalCompare
  else onParsed genericNumeric totalCompare

instance : Std.TransCmp (ecosystemOrder pep440 ecosystem) := by
  unfold ecosystemOrder
  repeat' split
  all_goals infer_instance

theorem compareParsed_order {left right : List Char} {comparison : VersionComparison} {order : Ordering}
    (h : compareParsed pep440 ecosystem left right = .ok comparison)
    (answered : comparison.order = some order) :
    ecosystemOrder pep440 ecosystem left right = order := by
  unfold compareParsed at h
  unfold ecosystemOrder
  split at h
  · rename_i pypi
    rw [if_pos pypi]
    split at h
    · rename_i l r hl hr
      cases h
      cases answered
      exact onParsed_some hl hr
    · cases h
      cases answered
  rename_i notPypi
  rw [if_neg notPypi]
  split at h
  · rename_i semantic
    rw [if_pos semantic]
    obtain ⟨l, hl, h⟩ := bind_ok h
    obtain ⟨r, hr, h⟩ := bind_ok h
    split at h
    · rw [onParsed_some (by rw [hl]; rfl) (by rw [hr]; rfl)]
      exact supportedTuple_order h answered
    · cases h
      cases answered
  rename_i notSemantic
  rw [if_neg notSemantic]
  split at h
  · rename_i debian
    rw [if_pos debian]
    obtain ⟨decided, compared, h⟩ := bind_ok h
    cases h
    cases answered
    exact debianCompare_key compared
  rename_i notDebian
  rw [if_neg notDebian]
  split at h
  · rename_i rpm
    rw [if_pos rpm]
    exact tupleKeys_order h answered
  rename_i notRpm
  rw [if_neg notRpm]
  split at h
  · rename_i java
    rw [if_pos java]
    exact tupleKeys_order h answered
  rename_i notMaven
  rw [if_neg notMaven]
  split at h
  · split at h
    · rename_i l r hl hr
      rw [onParsed_some hl hr]
      exact supportedTuple_order h answered
    · cases h
      cases answered
  · cases h
    cases answered

/-- The total order on raw version values that `compareVersions` is a part of. -/
def versionOrder : Option String → Option String → Ordering :=
  onParsed Text.normalizeVersionText (ecosystemOrder pep440 ecosystem)

instance : Std.TransCmp (versionOrder pep440 ecosystem) := by unfold versionOrder; infer_instance

theorem compareVersions_extends :
    Extends (versionOrder pep440 ecosystem)
      (fun left right => (compareVersions pep440 ecosystem left right).order) := by
  intro left right order h
  simp only [compareVersions] at h
  split at h
  · rename_i l r hl hr
    rw [versionOrder, onParsed_some hl hr]
    split at h
    · cases h
    · split at h
      · rename_i same
        cases h
        rw [same]
        exact Std.ReflCmp.compare_self
      · split at h
        · rename_i parsed
          exact compareParsed_order pep440 ecosystem parsed h
        · cases h
  · cases h

theorem compareVersions_of_parsed {leftValue rightValue : Option String} {left right : List Char} {order : Ordering}
    (hl : Text.normalizeVersionText leftValue = some left) (hr : Text.normalizeVersionText rightValue = some right)
    (safeLeft : safeVersion left) (safeRight : safeVersion right) (same : left = right → order = .eq)
    (compared : compareParsed pep440 ecosystem left right = .ok (supported order)) :
    (compareVersions pep440 ecosystem leftValue rightValue).order = some order := by
  simp only [compareVersions, hl, hr, safeLeft, safeRight, Bool.not_true, Bool.or_false, Bool.false_eq_true, if_false]
  by_cases equal : left = right
  · rw [if_pos equal, same equal]
  · rw [if_neg equal, compared]
    rfl

theorem supported_order {left right : Option String}
    (h : (compareVersions pep440 ecosystem left right).status = .supported) :
    ∃ order, (compareVersions pep440 ecosystem left right).order = some order :=
  Option.isSome_iff_exists.mp ((compareVersions pep440 ecosystem left right).answered.mp h)

/-- `left <= right`, as a supported comparison reports it. -/
def AtMost (left right : Option String) : Prop :=
  ∃ order, (compareVersions pep440 ecosystem left right).order = some order ∧ order.isLE

theorem compareVersions_preorder (a b c : Option String)
    (hab : (compareVersions pep440 ecosystem a b).status = .supported)
    (hba : (compareVersions pep440 ecosystem b a).status = .supported)
    (hbc : (compareVersions pep440 ecosystem b c).status = .supported)
    (hac : (compareVersions pep440 ecosystem a c).status = .supported) :
    (compareVersions pep440 ecosystem b a).order =
        (compareVersions pep440 ecosystem a b).order.map Ordering.swap ∧
      (AtMost pep440 ecosystem a b → AtMost pep440 ecosystem b c → AtMost pep440 ecosystem a c) ∧
      ((compareVersions pep440 ecosystem a b).order = some .eq →
        (compareVersions pep440 ecosystem a c).order = (compareVersions pep440 ecosystem b c).order) := by
  have part := compareVersions_extends pep440 ecosystem
  obtain ⟨ab, eab⟩ := supported_order pep440 ecosystem hab
  obtain ⟨ba, eba⟩ := supported_order pep440 ecosystem hba
  obtain ⟨bc, ebc⟩ := supported_order pep440 ecosystem hbc
  obtain ⟨ac, eac⟩ := supported_order pep440 ecosystem hac
  refine ⟨?_, ?_, ?_⟩
  · rw [eba, eab, part.swap eab eba]
    rfl
  · rintro ⟨first, hfirst, firstLE⟩ ⟨second, hsecond, secondLE⟩
    exact ⟨ac, eac, part.isLE_trans hfirst hsecond eac firstLE secondLE⟩
  · intro same
    rw [eac, ebc, part.congr same eac ebc]

theorem compareVersions_preorder_debian :
    (compareVersions (fun _ => (none : Option Nat)) "deb" (some "1:1.0~rc1-1") (some "1:1.0-1")).order =
        some .lt ∧
      AtMost (fun _ => (none : Option Nat)) "deb" (some "1:1.0~rc1-1") (some "1:1.0+b1-1") := by
  have h := compareVersions_preorder (fun _ => (none : Option Nat)) "deb"
    (some "1:1.0~rc1-1") (some "1:1.0-1") (some "1:1.0+b1-1")
    (by decide) (by decide) (by decide) (by decide)
  exact ⟨by decide, h.2.1 ⟨.lt, by decide, rfl⟩ ⟨.lt, by decide, rfl⟩⟩

end

end OpenAssetWatch.Version
