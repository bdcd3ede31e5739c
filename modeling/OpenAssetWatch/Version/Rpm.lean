import OpenAssetWatch.Library.Comparator
import OpenAssetWatch.Version.Preorder
import OpenAssetWatch.Version.Tokens

namespace OpenAssetWatch.Version

open Library (firstDifference)
open Library.TupleOrder (Value compare? compareItems? compareItems?_then compare?_nat compare?_pair compare?_self compareItems?_map)

inductive RpmSegment where
  | tilde
  | digits (n : Nat)
  | letters (run : List Char)
deriving DecidableEq

/-- What `rpmvercmp` walks over: tildes and the longest runs of digits and of letters. -/
def rpmSegmentList (value : List Char) : List RpmSegment :=
  match value with
  | [] => []
  | c :: rest =>
    if c.isDigit then .digits (number (c :: rest.takeWhile Char.isDigit)) :: rpmSegmentList (rest.dropWhile Char.isDigit)
    else if c.isAlpha then .letters (c :: rest.takeWhile Char.isAlpha) :: rpmSegmentList (rest.dropWhile Char.isAlpha)
    else if c = '~' then .tilde :: rpmSegmentList rest
    else rpmSegmentList rest
termination_by value.length
decreasing_by
  · exact Nat.lt_succ_of_le (List.dropWhile_suffix _).length_le
  · exact Nat.lt_succ_of_le (List.dropWhile_suffix _).length_le
  · exact Nat.lt_succ_self _
  · exact Nat.lt_succ_self _

/-- Numbers by value and above letters, letters as texts, a tilde below everything. -/
def segmentOrder : RpmSegment → RpmSegment → Ordering
  | .tilde, .tilde => .eq
  | .tilde, _ => .lt
  | _, .tilde => .gt
  | .digits m, .digits n => compare m n
  | .digits _, .letters _ => .gt
  | .letters _, .digits _ => .lt
  | .letters a, .letters b => compare a b

/-- The end of a version against a segment of the other one. -/
def endOrder (segment : RpmSegment) : Ordering := if segment = .tilde then .gt else .lt

def rpmvercmp : List RpmSegment → List RpmSegment → Ordering
  | [], [] => .eq
  | [], t :: _ => endOrder t
  | s :: _, [] => (endOrder s).swap
  | s :: left, t :: right => (segmentOrder s t).then (rpmvercmp left right)

structure RpmVersion where
  epoch : Nat
  version : List RpmSegment
  release : List RpmSegment

/-- The version alone, and the release only when the versions are equal. -/
def rpmOrder (l r : RpmVersion) : Ordering :=
  (compare l.epoch r.epoch).then ((rpmvercmp l.version r.version).then (rpmvercmp l.release r.release))

/-- `version[-release]`; a missing release has no segments. -/
def WritesRelease (value version release : List Char) : Prop :=
  (value = version ++ '-' :: release ∧ '-' ∉ release) ∨ ('-' ∉ value ∧ version = value ∧ release = [])

def RpmVersion.Writes (evr : RpmVersion) (value : List Char) : Prop :=
  ∃ rest version release, WritesEpoch value evr.epoch rest ∧ WritesRelease rest version release ∧
    evr.version = rpmSegmentList version ∧ evr.release = rpmSegmentList release

/-- The code's order of two segments: letter runs are compared without their case. -/
def foldedOrder : RpmSegment → RpmSegment → Ordering
  | .letters a, .letters b => compare (String.ofList (Text.casefold a)) (String.ofList (Text.casefold b))
  | s, t => segmentOrder s t

/-- The code's order of segment lists, which knows no end of a version and puts a shorter list first. -/
def flatOrder : List RpmSegment → List RpmSegment → Ordering := List.compareLex foldedOrder

def segmentKey : RpmSegment → Value
  | .tilde => .tuple [.int (-1), .str ""]
  | .digits n => .tuple [.int 2, natural n]
  | .letters run => .tuple [.int 1, text (Text.casefold run)]

theorem rpmToken_segments (value : List Char) :
    (findTokens (· == '~') value).map rpmToken = (rpmSegmentList value).map segmentKey := by
  fun_induction rpmSegmentList value with
  | case1 => rfl
  | case2 c rest digit ih =>
    have numeric : isNumeric (c :: rest.takeWhile Char.isDigit) := by
      simp only [isNumeric, List.isEmpty_cons, Bool.not_false, Bool.true_and, List.all_eq_true]
      intro a member
      rcases List.mem_cons.mp member with rfl | later
      · exact digit
      · exact List.mem_takeWhile_imp later
    have notTilde : ((c :: rest.takeWhile Char.isDigit) == ['~']) = false := by
      rw [beq_eq_false_iff_ne]
      intro same
      rw [(List.cons.inj same).1] at digit
      exact absurd digit (by decide)
    rw [findTokens_digit digit, List.map_cons, List.map_cons, ih, rpmToken, notTilde, numeric]
    rfl
  | case3 c rest digit alpha ih =>
    have letters : isNumeric (c :: rest.takeWhile Char.isAlpha) = false := by
      simp only [isNumeric, List.all_cons, Bool.eq_false_of_not_eq_true digit, Bool.false_and, Bool.and_false]
    have notTilde : ((c :: rest.takeWhile Char.isAlpha) == ['~']) = false := by
      rw [beq_eq_false_iff_ne]
      intro same
      rw [(List.cons.inj same).1] at alpha
      exact absurd alpha (by decide)
    rw [findTokens_alpha alpha, List.map_cons, List.map_cons, ih, rpmToken, notTilde, letters]
    rfl
  | case4 rest _ _ ih =>
    rw [findTokens_other (by decide) (by decide), if_pos (by decide), List.map_cons, List.map_cons, ih]
    rfl
  | case5 c rest digit alpha tilde ih =>
    rw [findTokens_other (Bool.eq_false_of_not_eq_true digit) (Bool.eq_false_of_not_eq_true alpha), if_neg, ih]
    rw [beq_iff_eq]
    exact tilde

theorem findTokens_release {value version release : List Char} (h : WritesRelease value version release) :
    findTokens (· == '~') value = findTokens (· == '~') version ++ findTokens (· == '~') release := by
  rcases h with ⟨rfl, -⟩ | ⟨-, rfl, rfl⟩
  · have hyphen : findTokens (· == '~') ('-' :: release) = findTokens (· == '~') release := by
      rw [findTokens_other (by decide) (by decide)]
      rfl
    rw [findTokens_append, hyphen]
    intro a _ b first
    have same : b = '-' := (Option.some.inj first).symm
    rw [same, sameRun]
    have none : '-'.isDigit = false ∧ '-'.isAlpha = false := by decide
    rw [none.1, none.2, Bool.and_false, Bool.and_false]
    rfl
  · rw [findTokens_nil, List.append_nil]

def RpmVersion.segments (evr : RpmVersion) : List RpmSegment := evr.version ++ evr.release

def RpmVersion.key (evr : RpmVersion) : Value := .tuple (.tuple [.int 3, natural evr.epoch] :: evr.segments.map segmentKey)

/-- What the code accepts: with the epoch no more than `maxVersionParts` segments. -/
def RpmVersion.Accepted (evr : RpmVersion) : Prop := evr.segments.length < maxVersionParts

instance (evr : RpmVersion) : Decidable evr.Accepted := inferInstanceAs (Decidable (_ < _))

theorem rpmSegments_key {value : List Char} {evr : RpmVersion} (writes : evr.Writes value) (accepted : evr.Accepted) :
    rpmSegments value = .ok evr.key := by
  obtain ⟨rest, version, release, epoch, parts, versionSegments, releaseSegments⟩ := writes
  have tokens : (findTokens (· == '~') rest).map rpmToken = evr.segments.map segmentKey := by
    rw [findTokens_release parts, List.map_append, rpmToken_segments, rpmToken_segments, RpmVersion.segments,
      List.map_append, versionSegments, releaseSegments]
  have count : (findTokens (· == '~') rest).length = evr.segments.length := by
    have lengths := congrArg List.length tokens
    rw [List.length_map, List.length_map] at lengths
    exact lengths
  have within : ¬ maxVersionParts < (findTokens (· == '~') rest).length + 1 := by
    rw [count]
    exact Nat.not_lt.mpr accepted
  simp only [rpmSegments, splitEpoch_writes epoch, bind, Except.bind, within, if_false, tokens]
  rfl

theorem compare_segmentKey (s t : RpmSegment) : compare? (segmentKey s) (segmentKey t) = some (foldedOrder s t) := by
  cases s with
  | tilde => cases t <;> rfl
  | digits m =>
    cases t with
    | tilde => rfl
    | digits n => exact compare?_pair (compare?_nat m n)
    | letters b => rfl
  | letters a =>
    cases t with
    | tilde => rfl
    | digits n => rfl
    | letters b => exact compare?_pair rfl

def flatVersionOrder (l r : RpmVersion) : Ordering := (compare l.epoch r.epoch).then (flatOrder l.segments r.segments)

theorem compare_key (l r : RpmVersion) : compare? l.key r.key = some (flatVersionOrder l r) :=
  compareItems?_then (compare?_pair (compare?_nat l.epoch r.epoch)) (compareItems?_map compare_segmentKey l.segments r.segments)

section Comparison

variable {V : Type*} [LinearOrder V] (pep440 : List Char → Option V)

theorem compareVersions_flat {leftValue rightValue : Option String} {left right : List Char} {l r : RpmVersion}
    (hl : Text.normalizeVersionText leftValue = some left) (hr : Text.normalizeVersionText rightValue = some right)
    (safeLeft : safeVersion left) (safeRight : safeVersion right) (writesLeft : l.Writes left)
    (writesRight : r.Writes right) (acceptedLeft : l.Accepted) (acceptedRight : r.Accepted) :
    (compareVersions pep440 "rpm" leftValue rightValue).order = some (flatVersionOrder l r) := by
  have ordered := compare_key l r
  have tuple : compareTuple l.key r.key = .ok (flatVersionOrder l r) := by rw [compareTuple, ordered]
  apply compareVersions_of_parsed pep440 "rpm" hl hr safeLeft safeRight
  · intro same
    have texts := (rpmSegments_key writesLeft acceptedLeft).symm.trans
      ((congrArg rpmSegments same).trans (rpmSegments_key writesRight acceptedRight))
    rw [Except.ok.inj texts] at ordered
    exact compare?_self ordered
  · show (do return supported (← compareTuple (← rpmSegments left) (← rpmSegments right))) =
      Except.ok (supported (flatVersionOrder l r))
    rw [rpmSegments_key writesLeft acceptedLeft, rpmSegments_key writesRight acceptedRight]
    show (do return supported (← compareTuple l.key r.key)) = Except.ok (supported _)
    rw [tuple]
    rfl

end Comparison

theorem segmentOrder_self (s : RpmSegment) : segmentOrder s s = .eq := by
  cases s with
  | tilde => rfl
  | digits n => exact compare_eq_iff_eq.mpr rfl
  | letters run =>
    show compare run run = .eq
    exact Std.ReflOrd.compare_self

theorem segmentOrder_eq {s t : RpmSegment} (h : segmentOrder s t = .eq) : s = t := by
  cases s with
  | tilde =>
    cases t with
    | tilde => rfl
    | digits n => cases h
    | letters b => cases h
  | digits m =>
    cases t with
    | tilde => cases h
    | digits n => exact congrArg RpmSegment.digits (compare_eq_iff_eq.mp h)
    | letters b => cases h
  | letters a =>
    cases t with
    | tilde => cases h
    | digits n => cases h
    | letters b =>
      have same : compare a b = .eq := h
      exact congrArg RpmSegment.letters (Std.LawfulEqOrd.eq_of_compare same)

theorem foldedOrder_self (s : RpmSegment) : foldedOrder s s = .eq := by
  cases s with
  | tilde => rfl
  | digits n => exact compare_eq_iff_eq.mpr rfl
  | letters run => exact compare_eq_iff_eq.mpr rfl

instance : Std.ReflCmp foldedOrder := ⟨fun {s} => foldedOrder_self s⟩

theorem rpmvercmp_append (common left right : List RpmSegment) :
    rpmvercmp (common ++ left) (common ++ right) = rpmvercmp left right := by
  induction common with
  | nil => rfl
  | cons s common ih =>
    rw [List.cons_append, List.cons_append, rpmvercmp, segmentOrder_self, ih]
    rfl

/-- Two different segments at the same place decide for the code as they do for `rpmvercmp`, or, when they are
letter runs that differ in case only, the segments after them happen to. -/
def SameDecision (s t : RpmSegment) (left right : List RpmSegment) : Prop :=
  foldedOrder s t = segmentOrder s t ∨ (foldedOrder s t = .eq ∧ flatOrder left right = segmentOrder s t)

/-- The code and `rpmvercmp` give two versions with one epoch the same order: the lists are what is left of the
versions after their common beginning, and the releases. -/
def SameOrder (left right leftRelease rightRelease : List RpmSegment) : Prop :=
  match left, right with
  | s :: left, t :: right => SameDecision s t (left ++ leftRelease) (right ++ rightRelease)
  | [], t :: right => flatOrder leftRelease (t :: right ++ rightRelease) = endOrder t
  | s :: left, [] => flatOrder (s :: left ++ leftRelease) rightRelease = (endOrder s).swap
  | [], [] =>
    match firstDifference leftRelease rightRelease with
    | (s :: left, t :: right) => SameDecision s t left right
    | ([], t :: _) => t ≠ .tilde
    | (s :: _, []) => s ≠ .tilde
    | ([], []) => True

/-- Where the code's order of two versions is rpm's. -/
def RpmVersion.Agree (l r : RpmVersion) : Prop :=
  l.epoch ≠ r.epoch ∨
    SameOrder (firstDifference l.version r.version).1 (firstDifference l.version r.version).2 l.release r.release

theorem sameDecision_iff {s t : RpmSegment} (different : s ≠ t) (left right after after' : List RpmSegment) :
    flatOrder (s :: left) (t :: right) = rpmvercmp (s :: after) (t :: after') ↔ SameDecision s t left right := by
  have decided : segmentOrder s t ≠ .eq := fun same => different (segmentOrder_eq same)
  rw [flatOrder, Library.Comparator.compareLex_cons, rpmvercmp, then_of_ne_eq decided, SameDecision]
  by_cases folded : foldedOrder s t = .eq
  · rw [folded, Ordering.eq_then]
    constructor
    · exact fun h => Or.inr ⟨rfl, h⟩
    · rintro (same | ⟨-, h⟩)
      · exact absurd same.symm decided
      · exact h
  · rw [then_of_ne_eq folded]
    constructor
    · exact Or.inl
    · rintro (same | ⟨equal, -⟩)
      · exact same
      · exact absurd equal folded

theorem endOrder_lt {t : RpmSegment} : .lt = endOrder t ↔ t ≠ .tilde := by
  unfold endOrder
  by_cases tilde : t = .tilde
  · rw [if_pos tilde]
    exact ⟨fun h => absurd h (by decide), fun h => absurd tilde h⟩
  · rw [if_neg tilde]
    exact ⟨fun _ => tilde, fun _ => rfl⟩

theorem flatOrder_append (common left right : List RpmSegment) :
    flatOrder (common ++ left) (common ++ right) = flatOrder left right :=
  Library.compareLex_append foldedOrder common left right

theorem release_iff (left right : List RpmSegment) :
    flatOrder left right = rpmvercmp left right ↔ SameOrder [] [] left right := by
  obtain ⟨common, hleft, hright⟩ := Library.firstDifference_common left right
  unfold SameOrder
  cases split : firstDifference left right with
  | mk after after' =>
    rw [split] at hleft hright
    rw [hleft, hright, flatOrder_append, rpmvercmp_append]
    cases after with
    | nil =>
      cases after' with
      | nil => exact ⟨fun _ => trivial, fun _ => rfl⟩
      | cons t right => exact endOrder_lt
    | cons s left =>
      cases after' with
      | nil =>
        have swapped : Ordering.gt = (endOrder s).swap ↔ Ordering.lt = endOrder s := by
          cases endOrder s <;> decide
        exact swapped.trans endOrder_lt
      | cons t right => exact sameDecision_iff (Library.firstDifference_heads split) left right left right

theorem endOrder_ne_eq (t : RpmSegment) : endOrder t ≠ .eq := by
  unfold endOrder
  split <;> decide

theorem segments_iff (left right leftRelease rightRelease : List RpmSegment) :
    flatOrder (left ++ leftRelease) (right ++ rightRelease) =
        (rpmvercmp left right).then (rpmvercmp leftRelease rightRelease) ↔
      SameOrder (firstDifference left right).1 (firstDifference left right).2 leftRelease rightRelease := by
  obtain ⟨common, hleft, hright⟩ := Library.firstDifference_common left right
  cases split : firstDifference left right with
  | mk after after' =>
    rw [split] at hleft hright
    rw [hleft, hright, List.append_assoc, List.append_assoc, flatOrder_append, rpmvercmp_append]
    cases after with
    | nil =>
      cases after' with
      | nil => exact release_iff leftRelease rightRelease
      | cons t right =>
        rw [rpmvercmp, then_of_ne_eq (endOrder_ne_eq t)]
        rfl
    | cons s left =>
      cases after' with
      | nil =>
        have decided : (endOrder s).swap ≠ .eq := by
          intro same
          exact endOrder_ne_eq s (Ordering.swap_eq_eq.mp same)
        rw [rpmvercmp, then_of_ne_eq decided]
        rfl
      | cons t right =>
        have different := Library.firstDifference_heads split
        have decided : rpmvercmp (s :: left) (t :: right) ≠ .eq := by
          intro same
          rw [rpmvercmp, Ordering.then_eq_eq] at same
          exact different (segmentOrder_eq same.1)
        rw [then_of_ne_eq decided]
        exact sameDecision_iff different (left ++ leftRelease) (right ++ rightRelease) left right

theorem flatVersionOrder_iff (l r : RpmVersion) : flatVersionOrder l r = rpmOrder l r ↔ l.Agree r := by
  unfold RpmVersion.Agree flatVersionOrder rpmOrder
  by_cases epochs : l.epoch = r.epoch
  · rw [compare_eq_iff_eq.mpr epochs, Ordering.eq_then, Ordering.eq_then]
    exact (segments_iff _ _ _ _).trans ⟨Or.inr, fun h => h.resolve_left (not_not_intro epochs)⟩
  · have decided : compare l.epoch r.epoch ≠ .eq := fun same => epochs (compare_eq_iff_eq.mp same)
    rw [then_of_ne_eq decided, then_of_ne_eq decided]
    exact ⟨fun _ => Or.inl epochs, fun _ => rfl⟩

theorem segments_candidate : rpmSegmentList "1.0~rc1".toList =
    [.digits 1, .digits 0, .tilde, .letters ['r', 'c'], .digits 1] := by
  simp [rpmSegmentList, number, Char.isDigit, Char.isAlpha, Char.isUpper, Char.isLower]

theorem segments_final : rpmSegmentList "1.0".toList = [.digits 1, .digits 0] := by
  simp [rpmSegmentList, number, Char.isDigit, Char.isAlpha, Char.isUpper, Char.isLower]

def releaseCandidate : RpmVersion :=
  { epoch := 0, version := [.digits 1, .digits 0, .tilde, .letters ['r', 'c'], .digits 1], release := [] }

def finalVersion : RpmVersion := { epoch := 0, version := [.digits 1, .digits 0], release := [] }

theorem writes_candidate : releaseCandidate.Writes "1.0~rc1".toList :=
  ⟨"1.0~rc1".toList, "1.0~rc1".toList, [], Or.inr ⟨by decide, rfl, rfl⟩, Or.inr ⟨by decide, rfl, rfl⟩,
    segments_candidate.symm, by rw [rpmSegmentList]; rfl⟩

theorem writes_final : finalVersion.Writes "1.0".toList :=
  ⟨"1.0".toList, "1.0".toList, [], Or.inr ⟨by decide, rfl, rfl⟩, Or.inr ⟨by decide, rfl, rfl⟩,
    segments_final.symm, by rw [rpmSegmentList]; rfl⟩

end OpenAssetWatch.Version
