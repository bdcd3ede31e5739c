import OpenAssetWatch.Library.Dict

namespace Library

theorem Dict.values_perm {κ ν : Type*} [DecidableEq κ] {d e : Dict κ ν} (same : ∀ k, d.get? k = e.get? k) :
    d.values.Perm e.values := by
  have entries : d.entries.Perm e.entries := by
    apply (List.perm_ext_iff_of_nodup (List.Nodup.of_map _ d.nodup) (List.Nodup.of_map _ e.nodup)).mpr
    rintro ⟨k, v⟩
    rw [← get?_eq_some, ← get?_eq_some, same]
  exact entries.map _

variable {α β γ : Type*} [LinearOrder β] [DecidableEq γ] (key : α → β) (group : α → γ)

/-- The items with the greatest keys first, and items of one key in their order. -/
def sortedDescending (items : List α) : List α := items.insertionSort fun a b => key b ≤ key a

/-- How many items of the group rank above an item, which is its row number less one. -/
def standing (items : List α) (a : α) : Nat := items.countP fun b => group b = group a && key a < key b

/-- The loop that keeps up to `most` items of each group, of which it has seen some. -/
def keepPerGroup (most : Nat) (seen : γ → Nat) : List α → List α
  | [] => []
  | a :: rest =>
    if most ≤ seen (group a) then keepPerGroup most seen rest
    else a :: keepPerGroup most (fun g => if g = group a then seen g + 1 else seen g) rest

variable {key group} {items other : List α} {most : Nat} {a : α}

theorem sortedDescending_perm (items : List α) : (sortedDescending key items).Perm items := List.perm_insertionSort _ _

theorem mem_sortedDescending : a ∈ sortedDescending key items ↔ a ∈ items := (sortedDescending_perm items).mem_iff

theorem sortedDescending_pairwise (items : List α) : (sortedDescending key items).Pairwise fun a b => key b ≤ key a := by
  have total : Std.Total fun a b : α => key b ≤ key a := ⟨fun a b => le_total (key b) (key a)⟩
  have trans : IsTrans α fun a b => key b ≤ key a := ⟨fun _ _ _ first second => le_trans second first⟩
  exact List.pairwise_insertionSort _ items

theorem key_le_head_sortedDescending {first : α} (head : (sortedDescending key items).head? = some first) (member : a ∈ items) :
    key a ≤ key first := by
  have sorted : (sortedDescending key items).Pairwise fun a b => key b ≤ key a := sortedDescending_pairwise items
  have listed : a ∈ sortedDescending key items := mem_sortedDescending.mpr member
  cases order : sortedDescending key items with
  | nil =>
    rw [order] at listed
    cases listed
  | cons x rest =>
    rw [order] at sorted listed head
    cases Option.some.inj head
    rcases List.mem_cons.mp listed with rfl | later
    · exact le_rfl
    · exact (List.pairwise_cons.mp sorted).1 a later

theorem head_sortedDescending (member : a ∈ items) (greatest : ∀ b ∈ items, key a ≤ key b → b = a) :
    (sortedDescending key items).head? = some a := by
  cases head : (sortedDescending key items).head? with
  | none =>
    rw [List.head?_eq_none_iff] at head
    have listed : a ∈ sortedDescending key items := mem_sortedDescending.mpr member
    rw [head] at listed
    cases listed
  | some first =>
    have present : first ∈ items := mem_sortedDescending.mp (List.mem_of_mem_head? head)
    rw [greatest first present (key_le_head_sortedDescending head member)]

theorem sortedDescending_eq_of_perm (distinct : ∀ a ∈ items, ∀ b ∈ items, key a = key b → a = b) (perm : items.Perm other) :
    sortedDescending key items = sortedDescending key other := by
  apply List.Perm.eq_of_pairwise _ (sortedDescending_pairwise items) (sortedDescending_pairwise other)
  · exact (sortedDescending_perm items).trans (perm.trans (sortedDescending_perm other).symm)
  · intro a b here there above below
    exact distinct a (mem_sortedDescending.mp here) b (perm.mem_iff.mpr (mem_sortedDescending.mp there)) (le_antisymm below above)

theorem sortedDescending_strict (distinct : ∀ a ∈ items, ∀ b ∈ items, key a = key b → a = b) (nodup : items.Nodup) :
    (sortedDescending key items).Pairwise fun a b => key b < key a := by
  have sorted : (sortedDescending key items).Pairwise fun a b => key b ≤ key a := sortedDescending_pairwise items
  have apart : (sortedDescending key items).Pairwise (· ≠ ·) := (sortedDescending_perm items).nodup_iff.mpr nodup
  refine (sorted.and apart).imp_of_mem ?_
  intro a b here there both
  refine lt_of_le_of_ne both.1 fun same => both.2 ?_
  exact (distinct b (mem_sortedDescending.mp there) a (mem_sortedDescending.mp here) same).symm

theorem standing_perm (perm : items.Perm other) (a : α) : standing key group items a = standing key group other a :=
  perm.countP_eq _

theorem keepPerGroup_eq_filter (sorted : items.Pairwise fun a b => key b < key a) (seen : γ → Nat) :
    keepPerGroup group most seen items = items.filter fun a => decide (seen (group a) + standing key group items a < most) := by
  induction items generalizing seen with
  | nil => rfl
  | cons x rest ih =>
    obtain ⟨first, sorted⟩ := List.pairwise_cons.mp sorted
    have alone : standing key group (x :: rest) x = 0 := by
      rw [standing, List.countP_eq_zero]
      intro b member
      rcases List.mem_cons.mp member with rfl | later
      · simp
      · simp [(first b later).le]
    have below : ∀ b ∈ rest, standing key group (x :: rest) b = (if group x = group b then 1 else 0) + standing key group rest b := by
      intro b member
      rw [standing, List.countP_cons, Nat.add_comm, standing]
      congr 1
      simp [first b member]
    rw [keepPerGroup]
    by_cases full : most ≤ seen (group x)
    · rw [if_pos full, ih sorted, List.filter_cons_of_neg (by rw [alone]; simpa using full)]
      apply List.filter_congr
      intro b member
      rw [below b member]
      by_cases same : group x = group b
      · rw [if_pos same, ← same, decide_eq_false, decide_eq_false]
        · omega
        · omega
      · rw [if_neg same, Nat.zero_add]
    · rw [if_neg full, ih sorted, List.filter_cons_of_pos (by rw [alone]; simpa using full)]
      congr 1
      apply List.filter_congr
      intro b member
      rw [below b member]
      by_cases same : group x = group b
      · rw [if_pos same, if_pos same.symm, Nat.add_assoc]
      · rw [if_neg same, if_neg (Ne.symm same), Nat.zero_add]

theorem take_eq_filter (sorted : items.Pairwise fun a b => key b < key a) (most : Nat) :
    items.take most = items.filter fun a => decide (standing key (fun _ => ()) items a < most) := by
  induction items generalizing most with
  | nil => rw [List.take_nil, List.filter_nil]
  | cons x rest ih =>
    obtain ⟨first, sorted⟩ := List.pairwise_cons.mp sorted
    have alone : standing key (fun _ => ()) (x :: rest) x = 0 := by
      rw [standing, List.countP_eq_zero]
      intro b member
      rcases List.mem_cons.mp member with rfl | later
      · simp
      · simp [(first b later).le]
    have below : ∀ b ∈ rest, standing key (fun _ => ()) (x :: rest) b = standing key (fun _ => ()) rest b + 1 := by
      intro b member
      rw [standing, List.countP_cons, standing]
      simp [first b member]
    cases most with
    | zero => simp
    | succ most =>
      rw [List.take_succ_cons, ih sorted, List.filter_cons_of_pos (by rw [alone]; simp)]
      congr 1
      apply List.filter_congr
      intro b member
      rw [below b member]
      simp

theorem mem_take_sortedDescending (distinct : ∀ a ∈ items, ∀ b ∈ items, key a = key b → a = b) (nodup : items.Nodup) (most : Nat)
    (a : α) : a ∈ (sortedDescending key items).take most ↔ a ∈ items ∧ standing key (fun _ => ()) items a < most := by
  rw [take_eq_filter (sortedDescending_strict distinct nodup), List.mem_filter, mem_sortedDescending, decide_eq_true_eq,
    standing_perm (sortedDescending_perm items)]

theorem length_filter_standing_le (distinct : ∀ a ∈ items, ∀ b ∈ items, key a = key b → a = b) (nodup : items.Nodup) (most : Nat) :
    (items.filter fun a => decide (standing key (fun _ => ()) items a < most)).length ≤ most := by
  have sorted := sortedDescending_strict distinct nodup
  have perm : (sortedDescending key items).Perm items := sortedDescending_perm items
  have first := take_eq_filter sorted most
  have same : (items.filter fun a => decide (standing key (fun _ => ()) items a < most)).Perm
      ((sortedDescending key items).take most) := by
    rw [first]
    refine (perm.symm.filter _).trans (List.Perm.of_eq ?_)
    apply List.filter_congr
    intro b _
    rw [standing_perm perm]
  rw [same.length_eq]
  exact List.length_take_le _ _

/-- How many items of the group rank at least as high as an item, itself among them. -/
def peers (key : α → β) (group : α → γ) (items : List α) (a : α) : Nat := items.countP fun b => group b = group a && key a ≤ key b

theorem countP_lt_countP {p q : α → Bool} (implies : ∀ b ∈ items, p b = true → q b = true) (member : a ∈ items)
    (only : q a = true ∧ p a = false) : items.countP p < items.countP q := by
  induction items with
  | nil => cases member
  | cons x rest ih =>
    have rest_le : rest.countP p ≤ rest.countP q := by
      apply List.countP_mono_left
      exact fun b later => implies b (List.mem_cons_of_mem _ later)
    rw [List.countP_cons, List.countP_cons]
    rcases List.mem_cons.mp member with rfl | later
    · rw [only.1, only.2, if_pos rfl, if_neg Bool.false_ne_true]
      omega
    · have less := ih (fun b there => implies b (List.mem_cons_of_mem _ there)) later
      have here := implies x List.mem_cons_self
      by_cases first : p x = true
      · rw [if_pos first, if_pos (here first)]
        omega
      · rw [if_neg first]
        omega

theorem standing_lt_count (member : a ∈ items) : standing key group items a < items.countP fun b => group b = group a := by
  apply countP_lt_countP _ member
  · simp
  · intro b _
    simp only [Bool.and_eq_true, decide_eq_true_eq]
    exact fun both => both.1

theorem countP_filter_standing_le (distinct : ∀ a ∈ items, ∀ b ∈ items, key a = key b → a = b) (nodup : items.Nodup) (most : Nat)
    (g : γ) : (items.filter fun a => decide (standing key group items a < most)).countP (fun a => decide (group a = g)) ≤ most := by
  have distinct_inside : ∀ a ∈ items.filter (fun a => decide (group a = g)), ∀ b ∈ items.filter (fun a => decide (group a = g)),
      key a = key b → a = b :=
    fun a here b there => distinct a (List.mem_of_mem_filter here) b (List.mem_of_mem_filter there)
  have within := length_filter_standing_le distinct_inside (nodup.filter _) most
  have inside : ∀ a ∈ items, group a = g →
      standing key (fun _ => ()) (items.filter fun a => decide (group a = g)) a = standing key group items a := by
    rintro a - rfl
    unfold standing
    rw [List.countP_filter]
    apply List.countP_congr
    intro b _
    simp [and_comm]
  rw [List.countP_eq_length_filter, List.filter_filter]
  rw [List.filter_filter] at within
  refine le_trans (le_of_eq ?_) within
  congr 1
  apply List.filter_congr
  intro a member
  by_cases own : group a = g
  · rw [inside a member own, Bool.and_comm]
  · rw [decide_eq_false own, Bool.false_and, Bool.and_false]

section Grades

variable {δ : Type*} [LinearOrder δ] {grade : α → δ} {kept : α → Bool}

theorem standing_grade_le (refines : ∀ a b, grade a < grade b → key a < key b) (items : List α) (a : α) :
    standing grade group items a ≤ standing key group items a := by
  apply List.countP_mono_left
  intro b _
  simp only [Bool.and_eq_true, decide_eq_true_eq]
  exact fun both => ⟨both.1, refines a b both.2⟩

theorem standing_lt_peers (coarse : ∀ a b, key a < key b → grade a ≤ grade b) (member : a ∈ items) :
    standing key group items a < peers grade group items a := by
  apply countP_lt_countP _ member
  · simp
  · intro b _
    simp only [Bool.and_eq_true, decide_eq_true_eq]
    exact fun both => ⟨both.1, coarse a b both.2⟩

theorem standing_filter_le (items : List α) (a : α) : standing key group (items.filter kept) a ≤ standing key group items a := by
  unfold standing
  rw [List.countP_filter]
  apply List.countP_mono_left
  intro b _ both
  exact (Bool.and_eq_true _ _ ▸ both).1

/-- Two keys that tell apart items of one grade put the same items within a limit, one among all items and one among those kept,
    where no item that few enough of those kept are better than shares the limit with too many. -/
theorem within_limit_iff {β' : Type*} [LinearOrder β'] {key' : α → β'} (refines : ∀ a b, grade a < grade b → key a < key b)
    (coarse : ∀ a b, key a < key b → grade a ≤ grade b) (refines' : ∀ a b, grade a < grade b → key' a < key' b)
    (coarse' : ∀ a b, key' a < key' b → grade a ≤ grade b) (member : a ∈ items)
    (together : standing grade group (items.filter kept) a < most → peers grade group items a ≤ most) :
    standing key' group (items.filter kept) a < most ↔ standing key group items a < most := by
  constructor
  · intro within
    have better : standing grade group (items.filter kept) a ≤ standing key' group (items.filter kept) a :=
      standing_grade_le refines' _ a
    have above : standing key group items a < peers grade group items a := standing_lt_peers coarse member
    exact above.trans_le (together (better.trans_lt within))
  · intro within
    have better : standing grade group items a ≤ standing key group items a := standing_grade_le refines items a
    have better_kept : standing grade group (items.filter kept) a ≤ standing grade group items a := standing_filter_le items a
    have fewer : standing key' group (items.filter kept) a ≤ standing key' group items a := standing_filter_le items a
    have above : standing key' group items a < peers grade group items a := standing_lt_peers coarse' member
    exact fewer.trans_lt (above.trans_le (together ((better_kept.trans better).trans_lt within)))

end Grades

end Library

namespace Library

section Weights

variable {K : Type*} [CommRing K] [LinearOrder K] [IsStrictOrderedRing K]

/-- Each value times the factor of its place. -/
def placed (factor : Nat → K) : Nat → List K → List K
  | _, [] => []
  | index, value :: rest => value * factor index :: placed factor (index + 1) rest

/-- What a running limit leaves of each weight, after a total. -/
def clip (limit : K) : K → List K → List K
  | _, [] => []
  | total, weight :: rest =>
    let left := min weight (max 0 (limit - total))
    left :: clip limit (total + left) rest

variable {factor : Nat → K} {limit total : K} {weights values more : List K}

theorem placed_nonneg (factors : ∀ i, 0 ≤ factor i) (nonneg : ∀ value ∈ values, 0 ≤ value) (index : Nat) :
    ∀ weight ∈ placed factor index values, 0 ≤ weight := by
  induction values generalizing index with
  | nil =>
    intro weight member
    cases member
  | cons value rest ih =>
    intro weight member
    rcases List.mem_cons.mp member with rfl | later
    · exact mul_nonneg (nonneg value List.mem_cons_self) (factors index)
    · exact ih (fun other member => nonneg other (List.mem_cons_of_mem _ member)) (index + 1) weight later

theorem clip_step (weight : K) (within : total ≤ limit) :
    total + min weight (max 0 (limit - total)) = min limit (total + weight) := by
  rw [max_eq_right (sub_nonneg.mpr within), ← min_add_add_left, add_sub_cancel, min_comm]

theorem sum_clip (nonneg : ∀ weight ∈ weights, 0 ≤ weight) (within : total ≤ limit) :
    total + (clip limit total weights).sum = min limit (total + weights.sum) := by
  induction weights generalizing total with
  | nil => simp [clip, within]
  | cons weight rest ih =>
    have first : 0 ≤ weight := nonneg weight List.mem_cons_self
    have others : ∀ other ∈ rest, 0 ≤ other := fun other member => nonneg other (List.mem_cons_of_mem _ member)
    have next := clip_step weight within
    rw [clip, List.sum_cons, ← add_assoc, ih others (by rw [next]; exact min_le_left _ _), next, List.sum_cons]
    have restNonneg : 0 ≤ rest.sum := List.sum_nonneg others
    rcases le_total limit (total + weight) with reached | under
    · rw [min_eq_left reached, min_eq_left (le_add_of_nonneg_right restNonneg), min_eq_left]
      linarith
    · rw [min_eq_right under, add_assoc]

theorem sum_placed_le (factors : ∀ i, 0 ≤ factor i) (sorted : values.Pairwise (· ≥ ·)) (sorted' : more.Pairwise (· ≥ ·))
    (nonneg : ∀ value ∈ more, 0 ≤ value)
    (levels : ∀ level, values.countP (level ≤ ·) ≤ more.countP (level ≤ ·)) (index : Nat) :
    (placed factor index values).sum ≤ (placed factor index more).sum := by
  induction values generalizing more index with
  | nil => exact List.sum_nonneg (placed_nonneg factors nonneg index)
  | cons value rest ih =>
    obtain ⟨greatest, sortedRest⟩ := List.pairwise_cons.mp sorted
    have above : 0 < more.countP (value ≤ ·) := by
      apply lt_of_lt_of_le _ (levels value)
      exact List.countP_pos_iff.mpr ⟨value, List.mem_cons_self, decide_eq_true le_rfl⟩
    cases more with
    | nil => cases above
    | cons first others =>
      obtain ⟨greatest', sortedOthers⟩ := List.pairwise_cons.mp sorted'
      have head : value ≤ first := by
        obtain ⟨found, member, least⟩ := List.countP_pos_iff.mp above
        have least : value ≤ found := of_decide_eq_true least
        rcases List.mem_cons.mp member with rfl | later
        · exact least
        · exact least.trans (greatest' found later)
      have tail (level : K) : rest.countP (level ≤ ·) ≤ others.countP (level ≤ ·) := by
        rcases le_or_gt level value with low | high
        · have counts := levels level
          rw [List.countP_cons_of_pos (by simpa using low), List.countP_cons_of_pos (by simpa using low.trans head)] at counts
          omega
        · rw [List.countP_eq_zero.mpr fun other member => by simpa using (greatest other member).trans_lt high]
          exact Nat.zero_le _
      have remaining := ih sortedRest sortedOthers (fun other member => nonneg other (List.mem_cons_of_mem _ member)) tail (index + 1)
      exact add_le_add (mul_le_mul_of_nonneg_right head (factors index)) remaining

omit [CommRing K] [IsStrictOrderedRing K] in
theorem countP_le_of_forall₂ {values more : List K} (rise : List.Forall₂ (· ≤ ·) values more) (level : K) :
    values.countP (level ≤ ·) ≤ more.countP (level ≤ ·) := by
  induction rise with
  | nil => exact le_rfl
  | cons head _ ih =>
    rw [List.countP_cons, List.countP_cons]
    apply Nat.add_le_add ih
    split_ifs with low high
    · exact le_rfl
    · exact (high (decide_eq_true ((of_decide_eq_true low).trans head))).elim
    · exact Nat.zero_le _
    · exact le_rfl

end Weights

section Sorting

variable {α β : Type*} {R : α → β → Prop} {r : α → α → Prop} {s : β → β → Prop} [DecidableRel r] [DecidableRel s]

theorem forall₂_orderedInsert (agree : ∀ a a' b b', R a b → R a' b' → (r a a' ↔ s b b')) {items : List α} {others : List β}
    (related : List.Forall₂ R items others) {a : α} {b : β} (head : R a b) :
    List.Forall₂ R (items.orderedInsert r a) (others.orderedInsert s b) := by
  induction related with
  | nil => exact .cons head .nil
  | cons first rest ih =>
    rename_i a' b' _ _
    have same := agree a a' b b' head first
    by_cases before : r a a'
    · rw [List.orderedInsert_cons_of_le r _ before, List.orderedInsert_cons_of_le s _ (same.mp before)]
      exact .cons head (.cons first rest)
    · rw [List.orderedInsert_of_not_le r _ before, List.orderedInsert_of_not_le s _ (mt same.mpr before)]
      exact .cons first ih

theorem forall₂_insertionSort (agree : ∀ a a' b b', R a b → R a' b' → (r a a' ↔ s b b')) {items : List α} {others : List β}
    (related : List.Forall₂ R items others) : List.Forall₂ R (items.insertionSort r) (others.insertionSort s) := by
  induction related with
  | nil => exact .nil
  | cons first _ ih => exact forall₂_orderedInsert agree ih first

end Sorting

section Pointwise

variable {α : Type*} [LinearOrder α]

theorem orderedInsert_least {a : α} {items : List α} (least : ∀ b ∈ items, a ≤ b) : items.orderedInsert (· ≤ ·) a = a :: items := by
  cases items with
  | nil => rfl
  | cons b rest => exact List.orderedInsert_cons_of_le _ _ (least b List.mem_cons_self)

theorem forall₂_le_orderedInsert {items others : List α} (sorted : items.Pairwise (· ≤ ·)) (sorted' : others.Pairwise (· ≤ ·))
    (rise : List.Forall₂ (· ≤ ·) items others) {a b : α} (le : a ≤ b) :
    List.Forall₂ (· ≤ ·) (items.orderedInsert (· ≤ ·) a) (others.orderedInsert (· ≤ ·) b) := by
  induction rise generalizing a b with
  | nil => exact .cons le .nil
  | cons head rest ih =>
    rename_i x y items others
    obtain ⟨least, sortedItems⟩ := List.pairwise_cons.mp sorted
    obtain ⟨least', sortedOthers⟩ := List.pairwise_cons.mp sorted'
    have next {a b : α} (le : a ≤ b) := ih sortedItems sortedOthers le
    rcases le_or_gt a x with before | after <;> rcases le_or_gt b y with before' | after'
    · rw [List.orderedInsert_cons_of_le _ _ before, List.orderedInsert_cons_of_le _ _ before']
      exact .cons le (.cons head rest)
    · rw [List.orderedInsert_cons_of_le _ _ before, List.orderedInsert_of_not_le _ _ after'.not_ge]
      apply List.Forall₂.cons (before.trans head)
      rw [← orderedInsert_least least]
      exact next (head.trans after'.le)
    · rw [List.orderedInsert_of_not_le _ _ after.not_ge, List.orderedInsert_cons_of_le _ _ before']
      apply List.Forall₂.cons (after.le.trans le)
      rw [← orderedInsert_least least']
      exact next (le.trans before')
    · rw [List.orderedInsert_of_not_le _ _ after.not_ge, List.orderedInsert_of_not_le _ _ after'.not_ge]
      exact .cons head (next le)

theorem forall₂_le_insertionSort {items others : List α} (rise : List.Forall₂ (· ≤ ·) items others) :
    List.Forall₂ (· ≤ ·) (items.insertionSort (· ≤ ·)) (others.insertionSort (· ≤ ·)) := by
  induction rise with
  | nil => exact .nil
  | cons head _ ih =>
    exact forall₂_le_orderedInsert (List.pairwise_insertionSort _ _) (List.pairwise_insertionSort _ _) ih head

theorem forall₂_le_sort_descending {items others : List α} (rise : List.Forall₂ (· ≤ ·) items others) :
    List.Forall₂ (· ≤ ·) (items.insertionSort (· ≥ ·)) (others.insertionSort (· ≥ ·)) :=
  (forall₂_le_insertionSort (α := αᵒᵈ) rise.flip).flip

end Pointwise

end Library
