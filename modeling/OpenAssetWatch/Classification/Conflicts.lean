import OpenAssetWatch.Classification.Signals
import OpenAssetWatch.Classification.Votes

namespace OpenAssetWatch.Classification

open Library OpenAssetWatch.Text

section Support

/-- An item that the classifier goes by supports a value of an attribute, up to case. -/
structure Supports (evidence : List ClassificationEvidence) (now : Time) (attr : SignalAttribute) (value : List Char)
    (item : ClassificationEvidence) : Prop where
  given : item ∈ evidence
  current : isFuture now item = false
  effective : item ∈ selectEffectiveEvidence evidence now
  signal : ∃ signal ∈ signalsForEvidence item now, signal.attr = attr ∧ casefold signal.value = casefold value

/-- The attributes that may conflict, and the types of their conflicts. -/
def conflictKinds : List (SignalAttribute × String) :=
  [(.category, "category"), (.subtype, "device-role"), (.osFamily, "os-family"), (.osVersionHint, "os-version")]

/-- A conflict between two values of an attribute, of which one has a source that does not support the other. -/
structure IsConflict (evidence : List ClassificationEvidence) (now : Time) (attr : SignalAttribute)
    (conflict : ClassificationConflict) : Prop where
  kind : (attr, conflict.conflictType) ∈ conflictKinds
  different : casefold conflict.selectedValue ≠ casefold conflict.conflictingValue
  selected : ∃ item, Supports evidence now attr conflict.selectedValue item
  independent : ∃ item, Supports evidence now attr conflict.conflictingValue item ∧
    ∀ other, Supports evidence now attr conflict.selectedValue other → other.sourceKey ≠ item.sourceKey
  supporting : ∀ evidenceId ∈ conflict.supportingEvidenceIds,
    ∃ item, Supports evidence now attr conflict.selectedValue item ∧ item.evidenceId = evidenceId
  conflicting : ∀ evidenceId ∈ conflict.conflictingEvidenceIds,
    ∃ item, Supports evidence now attr conflict.conflictingValue item ∧ item.evidenceId = evidenceId

variable {evidence : List ClassificationEvidence} {now : Time} {attr : SignalAttribute}

theorem keepBounded_sublist (perSource : Dict (List Char) Nat) (room : Nat) (items : List ClassificationEvidence) :
    (keepBounded perSource room items).Sublist items := by
  induction items generalizing perSource room with
  | nil => cases room <;> exact List.Sublist.refl _
  | cons item rest ih =>
    cases room with
    | zero => exact List.nil_sublist _
    | succ room =>
      unfold keepBounded
      dsimp only
      split
      · exact (ih perSource (room + 1)).cons item
      · exact (ih _ room).cons_cons item

theorem mem_selectEffectiveEvidence {item : ClassificationEvidence} (member : item ∈ selectEffectiveEvidence evidence now) :
    item ∈ evidence ∧ isFuture now item = false := by
  obtain ⟨k, stored⟩ := (Dict.mem_values _ item).mp (mem_sortedDescending.mp ((keepBounded_sublist _ _ _).subset member))
  have listed := (bestByKey_mem stored).1
  rw [List.mem_filter, Bool.not_eq_true'] at listed
  exact ⟨List.mem_of_mem_take listed.1, listed.2⟩

/-- The signals of the evidence that the classifier goes by. -/
def effectiveSignals (evidence : List ClassificationEvidence) (now : Time) : List Signal :=
  (selectEffectiveEvidence evidence now).flatMap fun item => signalsForEvidence item now

theorem mem_effectiveSignals {signal : Signal} (member : signal ∈ effectiveSignals evidence now) :
    ∃ item ∈ selectEffectiveEvidence evidence now, signal ∈ signalsForEvidence item now ∧
      signal.evidenceId = item.evidenceId ∧ signal.sourceKey = item.sourceKey := by
  obtain ⟨item, effective, given⟩ := List.mem_flatMap.mp member
  have case := mem_signalsForEvidence given
  exact ⟨item, effective, given, case.evidenceId, case.sourceKey⟩

theorem supports_of_signal {signal : Signal} (member : signal ∈ effectiveSignals evidence now) (own : signal.attr = attr) :
    ∃ item, Supports evidence now attr signal.value item ∧ item.evidenceId = signal.evidenceId ∧ item.sourceKey = signal.sourceKey := by
  obtain ⟨item, effective, given, named, source⟩ := mem_effectiveSignals member
  obtain ⟨listed, current⟩ := mem_selectEffectiveEvidence effective
  exact ⟨item, ⟨listed, current, effective, signal, given, own, rfl⟩, named.symm, source.symm⟩

theorem Supports.congr {value value' : List Char} {item : ClassificationEvidence} (supports : Supports evidence now attr value item)
    (same : casefold value = casefold value') : Supports evidence now attr value' item := by
  obtain ⟨signal, given, own, alike⟩ := supports.signal
  exact ⟨supports.given, supports.current, supports.effective, signal, given, own, alike.trans same⟩

end Support

section Material

variable {evidence : List ClassificationEvidence} {now : Time} {attr : SignalAttribute} {value : Signal → List Char}
  {shown : List Char → List Char} {stronger : Signal → Signal → Bool} {items : List Signal} {conflictType : String}
  {conflict : ClassificationConflict}

/-- Votes on what the signals of an attribute say, whose values are shown as some signal has them. -/
structure VotesOn (evidence : List ClassificationEvidence) (now : Time) (attr : SignalAttribute) (value : Signal → List Char)
    (shown : List Char → List Char) (items : List Signal) : Prop where
  listed : ∀ signal ∈ items, signal ∈ effectiveSignals evidence now ∧ signal.attr = attr
  every : ∀ signal ∈ effectiveSignals evidence now, signal.attr = attr →
    (∃ other ∈ items, casefold other.value = casefold signal.value) → signal ∈ items
  alike : ∀ a ∈ items, ∀ b ∈ items, casefold a.value = casefold b.value → value a = value b
  displayed : ∀ signal ∈ items, casefold (shown (value signal)) = casefold signal.value

theorem VotesOn.supports (votes : VotesOn evidence now attr value shown items) {ranked : Ranked} (ballot : Ballot value items ranked)
    {signal : Signal} (cast : signal ∈ ranked.signals) :
    ∃ item, Supports evidence now attr (shown ranked.value) item ∧ item.evidenceId = signal.evidenceId ∧
      item.sourceKey = signal.sourceKey := by
  obtain ⟨member, same⟩ := ballot.listed signal cast
  obtain ⟨given, own⟩ := votes.listed signal member
  obtain ⟨item, supports, named, source⟩ := supports_of_signal given own
  refine ⟨item, supports.congr ?_, named, source⟩
  rw [← same, votes.displayed signal member]

theorem VotesOn.vote (votes : VotesOn evidence now attr value shown items) {ranked : Ranked} (ballot : Ballot value items ranked)
    {item : ClassificationEvidence} (supports : Supports evidence now attr (shown ranked.value) item) :
    ∃ vote ∈ ranked.signals, vote.sourceKey = item.sourceKey := by
  obtain ⟨first, cast⟩ := List.exists_mem_of_ne_nil _ ballot.voted
  obtain ⟨member, same⟩ := ballot.listed first cast
  obtain ⟨signal, given, own, alike⟩ := supports.signal
  have effective : signal ∈ effectiveSignals evidence now := List.mem_flatMap.mpr ⟨item, supports.effective, given⟩
  have folded : casefold first.value = casefold signal.value := by
    rw [alike, ← same, votes.displayed first member]
  have listed := votes.every signal effective own ⟨first, member, folded⟩
  obtain ⟨vote, present, source⟩ := ballot.every signal listed ((votes.alike signal listed first member folded.symm).trans same)
  exact ⟨vote, present, source.trans (mem_signalsForEvidence given).sourceKey⟩

theorem VotesOn.isConflict (votes : VotesOn evidence now attr value shown items) (kind : (attr, conflictType) ∈ conflictKinds)
    (found : materialConflict shown conflictType (rankVotes (tally value stronger items)) = some conflict) :
    IsConflict evidence now attr conflict := by
  have distinct := rankVotes_values_nodup (tally value stronger items)
  have ballots : ∀ ranked ∈ rankVotes (tally value stronger items), Ballot value items ranked := fun _ => ballot
  generalize rankVotes (tally value stronger items) = rankings at found distinct ballots
  cases rankings with
  | nil => cases found
  | cons selected rest =>
    cases rest with
    | nil => cases found
    | cons other rest =>
      unfold materialConflict at found
      dsimp only at found
      split at found
      · next material =>
        cases Option.some.inj found
        have first := ballots selected List.mem_cons_self
        have second := ballots other (List.mem_cons_of_mem _ List.mem_cons_self)
        unfold isMaterial at material
        rw [Bool.and_eq_true, List.any_eq_true] at material
        obtain ⟨⟨apart, cast, alone⟩, -⟩ := material
        rw [Bool.not_eq_true', List.contains_eq_mem, decide_eq_false_iff_not] at alone
        constructor
        · exact kind
        · intro same
          obtain ⟨x, cast_x⟩ := List.exists_mem_of_ne_nil _ first.voted
          obtain ⟨y, cast_y⟩ := List.exists_mem_of_ne_nil _ second.voted
          obtain ⟨member_x, value_x⟩ := first.listed x cast_x
          obtain ⟨member_y, value_y⟩ := second.listed y cast_y
          have folded : casefold x.value = casefold y.value := by
            rw [← votes.displayed x member_x, ← votes.displayed y member_y, value_x, value_y]
            exact same
          have equal := votes.alike x member_x y member_y folded
          rw [value_x, value_y] at equal
          rw [List.map_cons, List.map_cons, List.nodup_cons, equal] at distinct
          exact distinct.1 List.mem_cons_self
        · obtain ⟨x, cast_x⟩ := List.exists_mem_of_ne_nil _ first.voted
          obtain ⟨item, supports, -⟩ := votes.supports first cast_x
          exact ⟨item, supports⟩
        · obtain ⟨item, supports, -, source⟩ := votes.supports second cast
          refine ⟨item, supports, ?_⟩
          intro rival selected_too same
          obtain ⟨vote, present, own⟩ := votes.vote first selected_too
          exact alone (List.mem_map.mpr ⟨vote, present, own.trans (same.trans source)⟩)
        · intro evidenceId listed
          obtain ⟨signal, present, rfl⟩ := List.mem_map.mp (List.mem_of_mem_take listed)
          obtain ⟨item, supports, named, -⟩ := votes.supports first present
          exact ⟨item, supports, named⟩
        · intro evidenceId listed
          obtain ⟨signal, present, rfl⟩ := List.mem_map.mp (List.mem_of_mem_take listed)
          obtain ⟨item, supports, named, -⟩ := votes.supports second present
          exact ⟨item, supports, named⟩
      · cases found

end Material

section Kinds

theorem casefoldChar_ne_nil (c : Char) : casefoldChar c ≠ [] := by
  unfold casefoldChar
  split
  · exact List.cons_ne_nil _ _
  · split
    · next codes found =>
      obtain ⟨before, after, whole, -⟩ := List.lookup_eq_some_iff.mp found
      have listed : (c.toNat, codes) ∈ foldExpansions := by
        rw [whole]
        exact List.mem_append_right _ List.mem_cons_self
      have each : ∀ entry ∈ foldExpansions, entry.2 ≠ [] := by decide
      rw [ne_eq, List.map_eq_nil_iff]
      exact each _ listed
    · exact List.cons_ne_nil _ _

theorem casefold_eq_nil_iff {text : List Char} : casefold text = [] ↔ text = [] := by
  unfold casefold
  rw [List.flatMap_eq_nil_iff]
  constructor
  · intro each
    cases text with
    | nil => rfl
    | cons c rest => exact absurd (each c List.mem_cons_self) (casefoldChar_ne_nil c)
  · rintro rfl c absent
    cases absent

theorem casefold_category (category : AssetCategory) : casefold category.text.toList = category.text.toList := by
  cases category <;> decide

variable {evidence : List ClassificationEvidence} {now : Time} {attr : SignalAttribute} {signals : List Signal}

theorem votesOn_category : VotesOn evidence now .category (·.value) id
    ((effectiveSignals evidence now).filter fun signal =>
      signal.attr = .category && signal.value ≠ AssetCategory.unknown.text.toList) := by
  have folded : ∀ signal ∈ effectiveSignals evidence now, signal.attr = .category → casefold signal.value = signal.value := by
    intro signal given own
    obtain ⟨item, -, from_, -⟩ := mem_effectiveSignals given
    obtain ⟨category, named⟩ := (mem_signalsForEvidence from_).category_value own
    rw [named, casefold_category]
  have listed : ∀ signal, signal ∈ (effectiveSignals evidence now).filter (fun signal =>
      signal.attr = .category && signal.value ≠ AssetCategory.unknown.text.toList) →
      signal ∈ effectiveSignals evidence now ∧ signal.attr = .category ∧ signal.value ≠ AssetCategory.unknown.text.toList := by
    intro signal member
    rw [List.mem_filter, Bool.and_eq_true, decide_eq_true_eq, decide_eq_true_eq] at member
    exact member
  constructor
  · exact fun signal member => ⟨(listed signal member).1, (listed signal member).2.1⟩
  · rintro signal given own ⟨other, member, same⟩
    obtain ⟨there, alike, known⟩ := listed other member
    rw [List.mem_filter, Bool.and_eq_true, decide_eq_true_eq, decide_eq_true_eq]
    rw [folded other there alike, folded signal given own] at same
    exact ⟨given, own, same ▸ known⟩
  · intro a here b there same
    rwa [folded a (listed a here).1 (listed a here).2.1, folded b (listed b there).1 (listed b there).2.1] at same
  · exact fun signal member => rfl

theorem get?_shown (k : List Char) :
    (signals.foldl (fun shown signal => Dict.update shown (casefold signal.value) (·.getD signal.value))
      (Dict.empty : Dict (List Char) (List Char))).get? k = (signals.find? (casefold ·.value = k)).map (·.value) := by
  induction signals using List.reverseRecOn with
  | nil => rfl
  | append_singleton signals last ih =>
    rw [List.foldl_append, List.foldl_cons, List.foldl_nil, Dict.get?_update, List.find?_append]
    by_cases own : k = casefold last.value
    · have here : [last].find? (casefold ·.value = k) = some last := List.find?_cons_of_pos (decide_eq_true own.symm)
      rw [if_pos own, ← own, ih, here]
      cases signals.find? (casefold ·.value = k) with
      | none => rfl
      | some first => rfl
    · have other : [last].find? (casefold ·.value = k) = none := by
        rw [List.find?_cons_of_neg fun same => own (of_decide_eq_true same).symm, List.find?_nil]
      rw [if_neg own, ih, other, Option.or_none]

theorem votesOn_attribute : VotesOn evidence now attr (casefold ·.value)
    (fun value => (((((effectiveSignals evidence now).filter fun signal => signal.attr = attr && signal.value ≠ []).foldl
      (fun shown signal => Dict.update shown (casefold signal.value) (·.getD signal.value)) Dict.empty).get? value).getD value))
    ((effectiveSignals evidence now).filter fun signal => signal.attr = attr && signal.value ≠ []) := by
  have listed : ∀ signal, signal ∈ (effectiveSignals evidence now).filter (fun signal => signal.attr = attr && signal.value ≠ []) ↔
      signal ∈ effectiveSignals evidence now ∧ signal.attr = attr ∧ signal.value ≠ [] := by
    intro signal
    rw [List.mem_filter, Bool.and_eq_true, decide_eq_true_eq, decide_eq_true_eq]
  constructor
  · exact fun signal member => ⟨((listed signal).mp member).1, ((listed signal).mp member).2.1⟩
  · rintro signal given own ⟨other, member, same⟩
    refine (listed signal).mpr ⟨given, own, fun empty => ?_⟩
    rw [empty, casefold_eq_nil_iff.mpr rfl, casefold_eq_nil_iff] at same
    exact ((listed other).mp member).2.2 same
  · exact fun _ _ _ _ same => same
  · intro signal member
    rw [get?_shown]
    cases found : List.find? (fun other => casefold other.value = casefold signal.value)
        ((effectiveSignals evidence now).filter fun signal => signal.attr = attr && signal.value ≠ []) with
    | none =>
      rw [List.find?_eq_none] at found
      exact absurd (decide_eq_true rfl) (found signal member)
    | some first => exact of_decide_eq_true (List.find?_some found :)

theorem isConflict_of_mem {conflict : ClassificationConflict}
    (member : conflict ∈ conflictsOf (effectiveSignals evidence now) (rankVotes (categoryVotes (effectiveSignals evidence now)))) :
    ∃ attr, IsConflict evidence now attr conflict := by
  unfold conflictsOf at member
  simp only [List.mem_append, Option.mem_toList] at member
  rcases member with ((category | role) | family) | version
  · exact ⟨.category, votesOn_category.isConflict (by decide) category⟩
  · exact ⟨.subtype, votesOn_attribute.isConflict (by decide) role⟩
  · exact ⟨.osFamily, votesOn_attribute.isConflict (by decide) family⟩
  · exact ⟨.osVersionHint, votesOn_attribute.isConflict (by decide) version⟩

end Kinds

section Results

variable {evidence : List ClassificationEvidence} {now : Time}

/-- A reference to an item that was given and is not dated ahead. -/
def IsCurrent (evidence : List ClassificationEvidence) (now : Time) (evidenceId : String) : Prop :=
  ∃ item ∈ evidence, item.evidenceId = evidenceId ∧ isFuture now item = false

theorem isCurrent_of_signal {signal : Signal} (member : signal ∈ effectiveSignals evidence now) :
    IsCurrent evidence now signal.evidenceId := by
  obtain ⟨item, effective, -, named, -⟩ := mem_effectiveSignals member
  obtain ⟨listed, current⟩ := mem_selectEffectiveEvidence effective
  exact ⟨item, listed, named.symm, current⟩

theorem IsConflict.isCurrent {attr : SignalAttribute} {conflict : ClassificationConflict}
    (sound : IsConflict evidence now attr conflict) {evidenceId : String}
    (member : evidenceId ∈ conflict.supportingEvidenceIds ++ conflict.conflictingEvidenceIds) : IsCurrent evidence now evidenceId := by
  rcases List.mem_append.mp member with first | second
  · obtain ⟨item, supports, named⟩ := sound.supporting evidenceId first
    exact ⟨item, supports.given, named, supports.current⟩
  · obtain ⟨item, supports, named⟩ := sound.conflicting evidenceId second
    exact ⟨item, supports.given, named, supports.current⟩

theorem isCurrent_bestAttribute {attr : SignalAttribute} {evidenceId : String}
    (member : evidenceId ∈ (bestAttribute (effectiveSignals evidence now) attr).2) : IsCurrent evidence now evidenceId := by
  unfold bestAttribute at member
  dsimp only at member
  split at member
  · cases member
  · next selected rest candidates =>
    obtain ⟨signal, listed, rfl⟩ := List.mem_map.mp (List.mem_of_mem_take member)
    have present := List.mem_of_mem_filter listed
    rw [mem_sortedDescending] at present
    exact isCurrent_of_signal (List.mem_of_mem_filter present)

theorem isCurrent_ranked {ranked : Ranked} {signal : Signal}
    (member : ranked ∈ rankVotes (categoryVotes (effectiveSignals evidence now))) (cast : signal ∈ ranked.signals) :
    IsCurrent evidence now signal.evidenceId :=
  isCurrent_of_signal (votesOn_category.listed signal ((ballot member).listed signal cast).1).1

theorem isCurrent_chosen {signal : Signal}
    (cast : signal ∈ ((rankVotes (categoryVotes (effectiveSignals evidence now))).head?.map (·.signals)).getD []) :
    IsCurrent evidence now signal.evidenceId := by
  cases first : (rankVotes (categoryVotes (effectiveSignals evidence now))).head? with
  | none =>
    rw [first] at cast
    cases cast
  | some ranked =>
    rw [first] at cast
    exact isCurrent_ranked (List.mem_of_mem_head? first) cast

theorem isCurrent_conflictingIds {evidenceId : String}
    (member : evidenceId ∈ conflictingIds (rankVotes (categoryVotes (effectiveSignals evidence now)))
      (conflictsOf (effectiveSignals evidence now) (rankVotes (categoryVotes (effectiveSignals evidence now))))) :
    IsCurrent evidence now evidenceId := by
  have present := List.mem_eraseDups.mp (List.mem_of_mem_take member)
  rcases List.mem_append.mp present with category | reported
  · obtain ⟨signal, cast, rfl⟩ := List.mem_map.mp category
    have ranked (ballot : Ranked) (member : ballot ∈ rankVotes (categoryVotes (effectiveSignals evidence now)))
        (cast : signal ∈ ballot.signals) : IsCurrent evidence now signal.evidenceId := isCurrent_ranked member cast
    generalize rankVotes (categoryVotes (effectiveSignals evidence now)) = rankings at cast ranked
    split at cast
    · next selected other rest =>
      split at cast
      · exact ranked other (List.mem_cons_of_mem _ List.mem_cons_self) cast
      · cases cast
    · cases cast
  · obtain ⟨conflict, found, listed⟩ := List.mem_flatMap.mp reported
    obtain ⟨attr, sound⟩ := isConflict_of_mem found
    exact sound.isCurrent (List.mem_append_right _ listed)

theorem status_verdict (signals : List Signal) (ranked : List Ranked) (conflicted : Bool) (known : Nat) :
    (verdict signals ranked conflicted known).status = .conflicting ↔ conflicted = true := by
  unfold verdict
  dsimp only
  cases conflicted with
  | true => exact iff_of_true rfl rfl
  | false =>
    rw [if_neg Bool.false_ne_true]
    apply iff_of_false _ Bool.false_ne_true
    intro same
    split at same
    · cases signals <;> cases same
    · split at same
      · cases same
      · split at same <;> cases same

theorem verdict_classifyAsset (classificationIdFor : String → String → String) (siteId assetId : String)
    (evidence : List ClassificationEvidence) (now : Time) (previous : Option Time) : ∃ known,
    (classifyAsset classificationIdFor siteId assetId evidence now previous).status =
        (verdict (effectiveSignals evidence now) (rankVotes (categoryVotes (effectiveSignals evidence now)))
          (!(conflictsOf (effectiveSignals evidence now) (rankVotes (categoryVotes (effectiveSignals evidence now)))).isEmpty)
          known).status ∧
      (classifyAsset classificationIdFor siteId assetId evidence now previous).category =
        (verdict (effectiveSignals evidence now) (rankVotes (categoryVotes (effectiveSignals evidence now)))
          (!(conflictsOf (effectiveSignals evidence now) (rankVotes (categoryVotes (effectiveSignals evidence now)))).isEmpty)
          known).category := by
  unfold classifyAsset classifySelected effectiveSignals
  exact ⟨_, rfl, rfl⟩

variable (classificationIdFor : String → String → String) (siteId assetId : String) (previous : Option Time)

theorem status_classifyAsset : (classifyAsset classificationIdFor siteId assetId evidence now previous).status = .conflicting ↔
    conflictsOf (effectiveSignals evidence now) (rankVotes (categoryVotes (effectiveSignals evidence now))) ≠ [] := by
  obtain ⟨known, status, -⟩ := verdict_classifyAsset classificationIdFor siteId assetId evidence now previous
  rw [status, status_verdict, Bool.not_eq_true', List.isEmpty_eq_false_iff]

theorem conflicts_classifyAsset : (classifyAsset classificationIdFor siteId assetId evidence now previous).conflicts =
    (conflictsOf (effectiveSignals evidence now) (rankVotes (categoryVotes (effectiveSignals evidence now)))).take maxConflicts :=
  rfl

theorem supporting_classifyAsset :
    (classifyAsset classificationIdFor siteId assetId evidence now previous).supportingEvidenceIds =
      ((((rankVotes (categoryVotes (effectiveSignals evidence now))).head?.map (·.signals)).getD []).map (·.evidenceId) ++
        (bestAttribute (effectiveSignals evidence now) .manufacturer).2 ++
        (bestAttribute (effectiveSignals evidence now) .subtype).2 ++
        (bestAttribute (effectiveSignals evidence now) .productHint).2 ++
        (bestAttribute (effectiveSignals evidence now) .osFamily).2 ++
        (bestAttribute (effectiveSignals evidence now) .osVersionHint).2).eraseDups.take maxClassificationReferences := by
  unfold classifyAsset classifySelected effectiveSignals
  dsimp only

variable {classificationIdFor siteId assetId previous}

theorem isCurrent_supporting {evidenceId : String}
    (member : evidenceId ∈ (classifyAsset classificationIdFor siteId assetId evidence now previous).supportingEvidenceIds) :
    IsCurrent evidence now evidenceId := by
  rw [supporting_classifyAsset] at member
  have present := List.mem_eraseDups.mp (List.mem_of_mem_take member)
  simp only [List.mem_append] at present
  rcases present with ((((category | manufacturer) | subtype) | product) | family) | version
  · obtain ⟨signal, cast, rfl⟩ := List.mem_map.mp category
    exact isCurrent_chosen cast
  · exact isCurrent_bestAttribute manufacturer
  · exact isCurrent_bestAttribute subtype
  · exact isCurrent_bestAttribute product
  · exact isCurrent_bestAttribute family
  · exact isCurrent_bestAttribute version

theorem isCurrent_conflicting {evidenceId : String}
    (member : evidenceId ∈ (classifyAsset classificationIdFor siteId assetId evidence now previous).conflictingEvidenceIds) :
    IsCurrent evidence now evidenceId :=
  isCurrent_conflictingIds member

theorem isConflict_of_reported {conflict : ClassificationConflict}
    (member : conflict ∈ (classifyAsset classificationIdFor siteId assetId evidence now previous).conflicts) :
    ∃ attr, IsConflict evidence now attr conflict := by
  rw [conflicts_classifyAsset] at member
  exact isConflict_of_mem (List.mem_of_mem_take member)

theorem conflicts_of_one_source (alone : ∀ a ∈ evidence, ∀ b ∈ evidence, a.sourceKey = b.sourceKey) :
    (classifyAsset classificationIdFor siteId assetId evidence now previous).conflicts = [] := by
  by_contra some_
  obtain ⟨conflict, member⟩ := List.exists_mem_of_ne_nil _ some_
  obtain ⟨attr, sound⟩ := isConflict_of_reported member
  obtain ⟨item, supports⟩ := sound.selected
  obtain ⟨other, supports', independent⟩ := sound.independent
  exact independent item supports (alone item supports.given other supports'.given)

end Results

/-- A result conflicts exactly where it reports a conflict, which is one between two values of an attribute with a source for one
    of them alone, and refers to evidence that it was given and that is not dated ahead. -/
theorem conflicts_sound (classificationIdFor : String → String → String) (siteId assetId : String)
    (evidence : List ClassificationEvidence) (now : Time) (previous : Option Time) :
    let result := classifyAsset classificationIdFor siteId assetId evidence now previous
    (result.status = .conflicting ↔ result.conflicts ≠ []) ∧
      (∀ conflict ∈ result.conflicts, ∃ attr, IsConflict evidence now attr conflict) ∧
      ((∀ a ∈ evidence, ∀ b ∈ evidence, a.sourceKey = b.sourceKey) → result.conflicts = []) ∧
      (∀ evidenceId ∈ result.supportingEvidenceIds ++ result.conflictingEvidenceIds, IsCurrent evidence now evidenceId) ∧
      ∀ conflict ∈ result.conflicts, ∀ evidenceId ∈ conflict.supportingEvidenceIds ++ conflict.conflictingEvidenceIds,
        IsCurrent evidence now evidenceId := by
  refine ⟨?_, fun _ => isConflict_of_reported, conflicts_of_one_source, ?_, ?_⟩
  · rw [status_classifyAsset, conflicts_classifyAsset, ne_eq, ne_eq, List.take_eq_nil_iff]
    exact not_congr ⟨.inr, fun none_ => none_.resolve_left (by decide)⟩
  · intro evidenceId member
    exact (List.mem_append.mp member).elim isCurrent_supporting isCurrent_conflicting
  · intro conflict found evidenceId member
    obtain ⟨attr, sound⟩ := isConflict_of_reported found
    exact sound.isCurrent member

end OpenAssetWatch.Classification
