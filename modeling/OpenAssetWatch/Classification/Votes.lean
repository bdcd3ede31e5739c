import OpenAssetWatch.Classification.Classifier

namespace OpenAssetWatch.Classification

open Library OpenAssetWatch.Text
open Temporal (float)

section Votes

variable {value : Signal → List Char} {stronger : Signal → Signal → Bool} {items : List Signal} {votes : Votes}
  {v s : List Char} {signal : Signal}

/-- The strongest signal of a source for a value. -/
def voteOf (votes : Votes) (v s : List Char) : Option Signal := (votes.get? v).bind (·.get? s)

/-- The votes of signals, cast one after another. -/
def tally (value : Signal → List Char) (stronger : Signal → Signal → Bool) (items : List Signal) : Votes :=
  items.foldl (castVote value stronger) Dict.empty

theorem voteOf_castVote : voteOf (castVote value stronger votes signal) v s =
    if v = value signal ∧ s = signal.sourceKey then
      some ((voteOf votes v s).elim signal fun previous => if stronger signal previous then signal else previous)
    else voteOf votes v s := by
  unfold voteOf castVote
  rw [Dict.get?_update]
  by_cases own : v = value signal
  · subst own
    rw [if_pos rfl, Option.bind_some]
    dsimp only
    have before : ((votes.get? (value signal)).getD Dict.empty).get? s = (votes.get? (value signal)).bind (·.get? s) := by
      cases votes.get? (value signal) with
      | none => rfl
      | some bySource => rfl
    have before' : ((votes.get? (value signal)).getD Dict.empty).get? signal.sourceKey =
        (votes.get? (value signal)).bind (·.get? signal.sourceKey) := by
      cases votes.get? (value signal) with
      | none => rfl
      | some bySource => rfl
    by_cases source : s = signal.sourceKey
    · subst source
      rw [if_pos ⟨rfl, rfl⟩, before']
      cases held : (votes.get? (value signal)).bind (·.get? signal.sourceKey) with
      | none =>
        dsimp only
        rw [Dict.set, Dict.get?_update_self]
        rfl
      | some previous =>
        dsimp only [Option.elim_some]
        split
        · rw [Dict.set, Dict.get?_update_self]
        · rw [before', held]
    · rw [if_neg fun both => source both.2]
      cases held : ((votes.get? (value signal)).getD Dict.empty).get? signal.sourceKey with
      | none =>
        dsimp only
        rw [Dict.set, Dict.get?_update_ne _ source, before]
      | some previous =>
        dsimp only
        split
        · rw [Dict.set, Dict.get?_update_ne _ source, before]
        · exact before
  · rw [if_neg own, if_neg fun both => own both.1]

theorem tally_snoc : tally value stronger (items ++ [signal]) = castVote value stronger (tally value stronger items) signal := by
  unfold tally
  rw [List.foldl_append, List.foldl_cons, List.foldl_nil]

theorem voteOf_tally_snoc : voteOf (tally value stronger (items ++ [signal])) v s =
    if v = value signal ∧ s = signal.sourceKey then
      some ((voteOf (tally value stronger items) v s).elim signal fun previous =>
        if stronger signal previous then signal else previous)
    else voteOf (tally value stronger items) v s := by
  rw [tally_snoc, voteOf_castVote]

theorem voteOf_tally_mem (held : voteOf (tally value stronger items) v s = some signal) :
    signal ∈ items ∧ value signal = v ∧ signal.sourceKey = s := by
  induction items using List.reverseRecOn generalizing signal with
  | nil => cases held
  | append_singleton items last ih =>
    rw [voteOf_tally_snoc] at held
    split at held
    · next own =>
      cases before : voteOf (tally value stronger items) v s with
      | none =>
        rw [before] at held
        cases Option.some.inj held
        exact ⟨List.mem_append_right _ (List.mem_singleton_self _), own.1.symm, own.2.symm⟩
      | some previous =>
        rw [before, Option.elim_some] at held
        have kept := Option.some.inj held
        split at kept
        · rw [← kept]
          exact ⟨List.mem_append_right _ (List.mem_singleton_self _), own.1.symm, own.2.symm⟩
        · obtain ⟨listed, named⟩ := ih before
          rw [← kept]
          exact ⟨List.mem_append_left _ listed, named⟩
    · obtain ⟨listed, named⟩ := ih held
      exact ⟨List.mem_append_left _ listed, named⟩

theorem voteOf_tally_isSome (member : signal ∈ items) :
    (voteOf (tally value stronger items) (value signal) signal.sourceKey).isSome = true := by
  induction items using List.reverseRecOn with
  | nil => cases member
  | append_singleton items last ih =>
    rw [voteOf_tally_snoc]
    split
    · rfl
    · next other =>
      rcases List.mem_append.mp member with listed | new
      · exact ih listed
      · rw [List.mem_singleton.mp new] at other
        exact absurd ⟨rfl, rfl⟩ other

theorem get?_tally_isSome : ((tally value stronger items).get? v).isSome = true ↔ ∃ x ∈ items, value x = v := by
  induction items using List.reverseRecOn with
  | nil =>
    constructor
    · intro held
      cases held
    · rintro ⟨x, absent, -⟩
      cases absent
  | append_singleton items last ih =>
    rw [tally_snoc, castVote, Dict.get?_update]
    by_cases own : v = value last
    · rw [if_pos own]
      constructor
      · exact fun _ => ⟨last, List.mem_append_right _ (List.mem_singleton_self _), own.symm⟩
      · exact fun _ => rfl
    · rw [if_neg own, ih]
      constructor
      · rintro ⟨x, listed, named⟩
        exact ⟨x, List.mem_append_left _ listed, named⟩
      · rintro ⟨x, listed, named⟩
        rcases List.mem_append.mp listed with before | new
        · exact ⟨x, before, named⟩
        · rw [List.mem_singleton.mp new] at named
          exact absurd named.symm own

theorem get?_tally : (tally value stronger items).get? v = (tally value stronger (items.filter (value · = v))).get? v := by
  induction items using List.reverseRecOn with
  | nil => rfl
  | append_singleton items last ih =>
    rw [tally_snoc, castVote, Dict.get?_update, List.filter_append]
    by_cases own : v = value last
    · have kept : [last].filter (value · = v) = [last] := List.filter_cons_of_pos (decide_eq_true own.symm)
      rw [kept, tally_snoc, castVote, Dict.get?_update, if_pos own, if_pos own, ← own, ih]
    · have dropped : [last].filter (value · = v) = [] := List.filter_cons_of_neg fun same => own (of_decide_eq_true same).symm
      rw [dropped, List.append_nil, if_neg own, ih]

end Votes

section Ballots

variable {value : Signal → List Char} {stronger : Signal → Signal → Bool} {items signals : List Signal} {ranked : Ranked} {bound : ℚ}

theorem maxWeight_eq_foldr (signals : List Signal) : maxWeight signals = (signals.map (·.weight)).foldr max 0 := by
  unfold maxWeight
  exact List.foldl_eq_foldr

theorem maxWeight_le (zero : 0 ≤ bound) (each : ∀ signal ∈ signals, signal.weight ≤ bound) : maxWeight signals ≤ bound := by
  rw [maxWeight_eq_foldr]
  induction signals with
  | nil => exact zero
  | cons signal rest ih =>
    rw [List.map_cons, List.foldr_cons]
    exact max_le (each signal List.mem_cons_self) (ih fun other member => each other (List.mem_cons_of_mem _ member))

theorem maxWeight_nonneg (signals : List Signal) : 0 ≤ maxWeight signals := by
  rw [maxWeight_eq_foldr]
  induction signals with
  | nil => exact le_rfl
  | cons signal rest ih => exact le_max_of_le_right ih

/-- What more sources than one add to a score. -/
def agreement (sources : Nat) : ℚ := min (float (((sources - 1 : Nat) : ℚ) * float (5 / 100))) (float (10 / 100))

def scoreOf (signals : List Signal) : ℚ := min (float (maxWeight signals + agreement signals.length)) (float (99 / 100))

/-- A ranked value of a tally, with the signals of its sources. -/
structure Ballot (value : Signal → List Char) (items : List Signal) (ranked : Ranked) : Prop where
  listed : ∀ signal ∈ ranked.signals, signal ∈ items ∧ value signal = ranked.value
  every : ∀ signal ∈ items, value signal = ranked.value → ∃ vote ∈ ranked.signals, vote.sourceKey = signal.sourceKey
  voted : ranked.signals ≠ []
  sources : (ranked.signals.map (·.sourceKey)).Nodup
  score : ranked.score = scoreOf ranked.signals
  direct : ranked.direct = ranked.signals.any (·.direct)

theorem mem_rankVotes {votes : Votes} : ranked ∈ rankVotes votes ↔
    ∃ bySource, votes.get? ranked.value = some bySource ∧
      ranked = ⟨ranked.value, scoreOf bySource.values, bySource.values.any (·.direct), bySource.values⟩ := by
  unfold rankVotes
  rw [mem_sortedDescending, List.mem_map]
  constructor
  · rintro ⟨⟨v, bySource⟩, stored, rfl⟩
    exact ⟨bySource, (votes.get?_eq_some v bySource).mpr stored, rfl⟩
  · rintro ⟨bySource, stored, same⟩
    exact ⟨(ranked.value, bySource), (votes.get?_eq_some _ bySource).mp stored, same.symm⟩

theorem ballot (member : ranked ∈ rankVotes (tally value stronger items)) : Ballot value items ranked := by
  obtain ⟨bySource, stored, same⟩ := mem_rankVotes.mp member
  have signals : ranked.signals = bySource.values := by rw [same]
  have held (s : List Char) : voteOf (tally value stronger items) ranked.value s = bySource.get? s := by
    rw [voteOf, stored, Option.bind_some]
  have own : ∀ entry ∈ bySource.entries, entry.2 ∈ items ∧ value entry.2 = ranked.value ∧ entry.2.sourceKey = entry.1 := by
    rintro ⟨s, signal⟩ present
    apply voteOf_tally_mem
    rw [held]
    exact (bySource.get?_eq_some s signal).mpr present
  constructor
  · intro signal cast
    rw [signals] at cast
    obtain ⟨entry, present, rfl⟩ := List.mem_map.mp cast
    exact ⟨(own entry present).1, (own entry present).2.1⟩
  · intro signal listed named
    have some_ : (voteOf (tally value stronger items) (value signal) signal.sourceKey).isSome = true := voteOf_tally_isSome listed
    rw [named, held] at some_
    obtain ⟨vote, cast⟩ := Option.isSome_iff_exists.mp some_
    refine ⟨vote, ?_, (own _ ((bySource.get?_eq_some _ _).mp cast)).2.2⟩
    rw [signals, Dict.mem_values]
    exact ⟨_, cast⟩
  · obtain ⟨x, listed, named⟩ := get?_tally_isSome.mp (Option.isSome_iff_exists.mpr ⟨bySource, stored⟩)
    have some_ : (voteOf (tally value stronger items) (value x) x.sourceKey).isSome = true := voteOf_tally_isSome listed
    rw [named, held] at some_
    obtain ⟨vote, cast⟩ := Option.isSome_iff_exists.mp some_
    rw [signals]
    exact List.ne_nil_of_mem ((bySource.mem_values vote).mpr ⟨_, cast⟩)
  · have keys : ranked.signals.map (·.sourceKey) = bySource.entries.map Prod.fst := by
      rw [signals, Dict.values, List.map_map]
      apply List.map_congr_left
      exact fun entry present => (own entry present).2.2
    rw [keys]
    exact bySource.nodup
  · rw [same]
  · rw [same]

theorem rankVotes_values_nodup (votes : Votes) : ((rankVotes votes).map (·.value)).Nodup := by
  have perm : ((rankVotes votes).map Ranked.value).Perm ((votes.entries.map fun entry =>
      (⟨entry.1, scoreOf entry.2.values, entry.2.values.any (·.direct), entry.2.values⟩ : Ranked)).map Ranked.value) :=
    (sortedDescending_perm _).map Ranked.value
  rw [List.map_map] at perm
  exact perm.nodup_iff.mpr votes.nodup

theorem rankVotes_eq_nil_iff : rankVotes (tally value stronger items) = [] ↔ items = [] := by
  constructor
  · intro none_
    by_contra some_
    obtain ⟨signal, listed⟩ := List.exists_mem_of_ne_nil _ some_
    have held : ((tally value stronger items).get? (value signal)).isSome = true := get?_tally_isSome.mpr ⟨signal, listed, rfl⟩
    obtain ⟨bySource, stored⟩ := Option.isSome_iff_exists.mp held
    have present : (⟨value signal, scoreOf bySource.values, bySource.values.any (·.direct), bySource.values⟩ : Ranked) ∈
        rankVotes (tally value stronger items) := mem_rankVotes.mpr ⟨bySource, stored, rfl⟩
    rw [none_] at present
    cases present
  · rintro rfl
    rfl

end Ballots

end OpenAssetWatch.Classification
