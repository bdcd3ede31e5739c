import OpenAssetWatch.Library.Dict

namespace Library

variable {κ α ε : Type*} [DecidableEq κ]

namespace DictEntries

theorem countP_update {ν : Type*} (k : κ) (f : Option ν → ν) (p : ν → Bool) (entries : List (κ × ν)) :
    ((update k f entries).map Prod.snd).countP p + (entries.lookup k).toList.countP p =
      (entries.map Prod.snd).countP p + [f (entries.lookup k)].countP p := by
  induction entries with
  | nil => simp [update]
  | cons entry rest ih =>
    obtain ⟨l, v⟩ := entry
    rw [lookup_cons]
    by_cases here : k = l
    · rw [update, if_pos here, if_pos here]
      simp only [List.map_cons, List.countP_cons, List.countP_nil, Option.toList]
      omega
    · rw [update, if_neg here, if_neg here]
      simp only [List.map_cons, List.countP_cons] at ih ⊢
      omega

end DictEntries

theorem Dict.countP_set {ν : Type*} (d : Dict κ ν) (k : κ) (v : ν) (p : ν → Bool) :
    (d.set k v).values.countP p + (d.get? k).toList.countP p = d.values.countP p + [v].countP p :=
  DictEntries.countP_update k (fun _ => v) p d.entries

variable (key : α → κ) (better : α → α → Bool)

/-- One turn of a loop that keeps the best item of each key, the first one of equals. -/
def keepBetter (best : Dict κ α) (item : α) : Dict κ α :=
  match best.get? (key item) with
  | none => best.set (key item) item
  | some current => if better item current then best.set (key item) item else best

def bestByKey (items : List α) : Dict κ α := items.foldl (keepBetter key better) .empty

variable (normalize : ε → Option α) (counted : ε → Bool) (shown : α → Bool)

/-- The entry between `before` and `after` is shown, and it is the one that its key keeps. -/
def Survives (before : List ε) (entry : ε) (after : List ε) : Prop :=
  ∃ item, normalize entry = some item ∧ shown item = true ∧
    (∀ other ∈ before, ∀ rival, normalize other = some rival → key rival = key item → better item rival = true) ∧
    ∀ other ∈ after, ∀ rival, normalize other = some rival → key rival = key item → better rival item = false

def AllSurvive (entries : List ε) : Prop :=
  ∀ before entry after, entries = before ++ entry :: after → counted entry = true →
    Survives key better normalize shown before entry after

variable {key better normalize counted shown} {entries : List ε} {entry : ε} {best : Dict κ α} {item current : α} {k : κ}

theorem get?_keepBetter_ne (different : k ≠ key item) : (keepBetter key better best item).get? k = best.get? k := by
  rw [keepBetter]
  split
  · exact best.get?_update_ne different _
  · split
    · exact best.get?_update_ne different _
    · rfl

theorem get?_keepBetter_self (beats : ∀ rival, best.get? (key item) = some rival → better item rival = true) :
    (keepBetter key better best item).get? (key item) = some item := by
  rw [keepBetter]
  split
  · exact best.get?_update_self _ _
  · rename_i rival stored
    rw [if_pos (beats rival stored)]
    exact best.get?_update_self _ _

theorem get?_keepBetter_worse (stored : best.get? k = some current)
    (worse : key item = k → better item current = false) : (keepBetter key better best item).get? k = some current := by
  by_cases same : key item = k
  · rw [keepBetter, same, stored]
    simp only
    rw [if_neg (by rw [worse same]; exact Bool.false_ne_true)]
    exact stored
  · rw [get?_keepBetter_ne fun here => same here.symm]
    exact stored

theorem bestByKey_snoc (items : List α) (item : α) :
    bestByKey key better (items ++ [item]) = keepBetter key better (bestByKey key better items) item :=
  List.foldl_append

theorem bestByKey_mem {items : List α} (stored : (bestByKey key better items).get? k = some current) :
    current ∈ items ∧ key current = k := by
  induction items using List.reverseRecOn with
  | nil => cases stored
  | append_singleton items item ih =>
    rw [bestByKey_snoc] at stored
    have before (kept : (bestByKey key better items).get? k = some current) : current ∈ items ++ [item] ∧ key current = k :=
      ⟨List.mem_append_left _ (ih kept).1, (ih kept).2⟩
    by_cases same : k = key item
    · rw [keepBetter] at stored
      split at stored
      · rw [same, Dict.set, Dict.get?_update_self] at stored
        cases stored
        exact ⟨List.mem_append_right _ (List.mem_singleton_self _), same.symm⟩
      · split at stored
        · rw [same, Dict.set, Dict.get?_update_self] at stored
          cases stored
          exact ⟨List.mem_append_right _ (List.mem_singleton_self _), same.symm⟩
        · exact before stored
    · rw [get?_keepBetter_ne same] at stored
      exact before stored

theorem get?_of_survives {before after : List α} (beats : ∀ rival ∈ before, key rival = key item → better item rival = true)
    (unbeaten : ∀ rival ∈ after, key rival = key item → better rival item = false) :
    (bestByKey key better (before ++ item :: after)).get? (key item) = some item := by
  induction after using List.reverseRecOn with
  | nil =>
    rw [bestByKey_snoc]
    apply get?_keepBetter_self
    intro rival stored
    obtain ⟨member, same⟩ := bestByKey_mem stored
    exact beats rival member same
  | append_singleton after last ih =>
    rw [← List.cons_append, ← List.append_assoc, bestByKey_snoc]
    apply get?_keepBetter_worse (ih fun rival member => unbeaten rival (List.mem_append_left _ member))
    exact unbeaten last (List.mem_append_right _ (List.mem_singleton_self _))

section

variable (asymmetric : ∀ a b, better a b = true → better b a = false)
  (split_better : ∀ a b c, better a c = true → better a b = true ∨ better b c = true)

include asymmetric split_better

theorem bestByKey_maximal (items : List α) {rival : α} (member : rival ∈ items) :
    ∃ current, (bestByKey key better items).get? (key rival) = some current ∧ better rival current = false := by
  induction items using List.reverseRecOn with
  | nil => cases member
  | append_singleton items item ih =>
    rw [bestByKey_snoc]
    have irreflexive : better item item = false := by
      by_contra own
      have own := Bool.eq_true_of_not_eq_false own
      exact absurd own (Bool.eq_false_iff.mp (asymmetric _ _ own))
    by_cases same : key rival = key item
    · rw [same] at ih ⊢
      rw [keepBetter]
      cases stored : (bestByKey key better items).get? (key item) with
      | none =>
        refine ⟨item, Dict.get?_update_self .., ?_⟩
        rcases List.mem_append.mp member with earlier | last
        · obtain ⟨current, kept, -⟩ := ih earlier
          rw [stored] at kept
          cases kept
        · rw [List.mem_singleton.mp last]
          exact irreflexive
      | some current =>
        simp only
        by_cases replaced : better item current = true
        · rw [if_pos replaced]
          refine ⟨item, Dict.get?_update_self .., ?_⟩
          rcases List.mem_append.mp member with earlier | last
          · obtain ⟨other, kept, below⟩ := ih earlier
            rw [stored] at kept
            cases kept
            by_contra above
            rcases split_better rival current item (Bool.eq_true_of_not_eq_false above) with first | second
            · exact absurd first (Bool.eq_false_iff.mp below)
            · exact absurd replaced (Bool.eq_false_iff.mp (asymmetric _ _ second))
          · rw [List.mem_singleton.mp last]
            exact irreflexive
        · rw [if_neg replaced]
          refine ⟨current, stored, ?_⟩
          rcases List.mem_append.mp member with earlier | last
          · obtain ⟨other, kept, below⟩ := ih earlier
            rw [stored] at kept
            cases kept
            exact below
          · rw [List.mem_singleton.mp last]
            exact Bool.eq_false_iff.mpr replaced
    · rw [get?_keepBetter_ne same]
      rcases List.mem_append.mp member with earlier | last
      · exact ih earlier
      · exact absurd (congrArg key (List.mem_singleton.mp last)) same

end

omit [DecidableEq κ] in
theorem Survives.unbeaten {before after : List ε} {x : ε} (survives : Survives key better normalize shown before x (after ++ [entry]))
    (shows : normalize x = some item) {rival : α} (last : normalize entry = some rival) (same : key rival = key item) :
    better rival item = false := by
  obtain ⟨own, normal, -, -, unbeaten⟩ := survives
  rw [shows] at normal
  cases normal
  exact unbeaten entry (List.mem_append_right _ (List.mem_singleton_self _)) rival last same

omit [DecidableEq κ] in
theorem allSurvive_snoc : AllSurvive key better normalize counted shown (entries ++ [entry]) ↔
    (AllSurvive key better normalize counted shown entries ∧
      ∀ x ∈ entries, counted x = true → ∀ item, normalize x = some item → ∀ rival, normalize entry = some rival →
        key rival = key item → better rival item = false) ∧
    (counted entry = true → Survives key better normalize shown entries entry []) := by
  constructor
  · intro all
    refine ⟨⟨fun before x after split counts => ?_, fun x member counts item shows rival last same => ?_⟩, ?_⟩
    · obtain ⟨item, shows, isShown, beats, unbeaten⟩ := all before x (after ++ [entry]) (by rw [split]; simp) counts
      exact ⟨item, shows, isShown, beats, fun other later => unbeaten other (List.mem_append_left _ later)⟩
    · obtain ⟨before, after, split⟩ := List.append_of_mem member
      exact (all before x (after ++ [entry]) (by rw [split]; simp) counts).unbeaten shows last same
    · exact fun counts => all entries entry [] rfl counts
  · intro ⟨⟨earlier, unbeaten⟩, last⟩ before x after split counts
    rcases List.eq_nil_or_concat after with rfl | ⟨rest, final, rfl⟩
    · obtain ⟨rfl, same⟩ := List.append_inj' split rfl
      cases same
      exact last counts
    · rw [List.concat_eq_append, ← List.cons_append, ← List.append_assoc] at split
      obtain ⟨rfl, same⟩ := List.append_inj' split rfl
      cases same
      obtain ⟨item, shows, isShown, beats, stays⟩ := earlier before x rest rfl counts
      refine ⟨item, shows, isShown, beats, fun other later rival normal same => ?_⟩
      rw [List.concat_eq_append] at later
      rcases List.mem_append.mp later with later | final
      · exact stays other later rival normal same
      · rw [List.mem_singleton.mp final] at normal
        exact unbeaten x (List.mem_append_right _ List.mem_cons_self) counts item shows rival normal same

section

variable (asymmetric : ∀ a b, better a b = true → better b a = false)
  (split_better : ∀ a b c, better a c = true → better a b = true ∨ better b c = true)

theorem AllSurvive.stored (all : AllSurvive key better normalize counted shown entries) {x : ε} (member : x ∈ entries)
    (counts : counted x = true) : ∃ item, normalize x = some item ∧ shown item = true ∧
      (bestByKey key better (entries.filterMap normalize)).get? (key item) = some item := by
  obtain ⟨before, after, rfl⟩ := List.append_of_mem member
  obtain ⟨item, shows, isShown, beats, unbeaten⟩ := all before x after rfl counts
  refine ⟨item, shows, isShown, ?_⟩
  rw [List.filterMap_append, List.filterMap_cons_some shows]
  apply get?_of_survives
  · intro rival earlier same
    obtain ⟨other, listed, normal⟩ := List.mem_filterMap.mp earlier
    exact beats other listed rival normal same
  · intro rival later same
    obtain ⟨other, listed, normal⟩ := List.mem_filterMap.mp later
    exact unbeaten other listed rival normal same

include asymmetric split_better

theorem survives_last (normal : normalize entry = some item) :
    Survives key better normalize shown entries entry [] ↔ shown item = true ∧
      ∀ current, (bestByKey key better (entries.filterMap normalize)).get? (key item) = some current →
        better item current = true := by
  constructor
  · rintro ⟨own, shows, isShown, beats, -⟩
    rw [normal] at shows
    cases shows
    refine ⟨isShown, fun current stored => ?_⟩
    obtain ⟨member, same⟩ := bestByKey_mem stored
    obtain ⟨other, listed, shows⟩ := List.mem_filterMap.mp member
    exact beats other listed current shows same
  · intro ⟨isShown, beats⟩
    refine ⟨item, normal, isShown, fun other member rival shows same => ?_, nofun⟩
    obtain ⟨current, stored, below⟩ : ∃ current,
        (bestByKey key better (entries.filterMap normalize)).get? (key rival) = some current ∧ better rival current = false :=
      bestByKey_maximal asymmetric split_better _ (List.mem_filterMap.mpr ⟨other, member, shows⟩)
    rw [same] at stored
    rcases split_better item rival current (beats current stored) with above | above
    · exact above
    · exact absurd above (Bool.eq_false_iff.mp below)

omit asymmetric split_better in
theorem unbeaten_last (shown_counted : ∀ x item, normalize x = some item → shown item = true → counted x = true)
    (all : AllSurvive key better normalize counted shown entries) (normal : normalize entry = some item) :
    (∀ x ∈ entries, counted x = true → ∀ own, normalize x = some own → ∀ rival, normalize entry = some rival →
        key rival = key own → better rival own = false) ↔
      ∀ current, (bestByKey key better (entries.filterMap normalize)).get? (key item) = some current →
        shown current = true → better item current = false := by
  constructor
  · intro unbeaten current stored isShown
    obtain ⟨member, same⟩ := bestByKey_mem stored
    obtain ⟨x, listed, shows⟩ := List.mem_filterMap.mp member
    exact unbeaten x listed (shown_counted x current shows isShown) current shows item normal same.symm
  · intro unbeaten x member counts own shows rival last same
    rw [normal] at last
    cases last
    obtain ⟨kept, shows', isShown, stored⟩ := all.stored member counts
    rw [shows] at shows'
    cases shows'
    rw [← same] at stored
    exact unbeaten own stored isShown

variable (key) in
theorem countP_bestByKey (shown_counted : ∀ x item, normalize x = some item → shown item = true → counted x = true)
    (entries : List ε) :
    (bestByKey key better (entries.filterMap normalize)).values.countP shown ≤ entries.countP counted ∧
      ((bestByKey key better (entries.filterMap normalize)).values.countP shown = entries.countP counted ↔
        AllSurvive key better normalize counted shown entries) := by
  induction entries using List.reverseRecOn with
  | nil =>
    refine ⟨le_refl _, fun _ before entry after split => ?_, fun _ => rfl⟩
    simp at split
  | append_singleton entries entry ih =>
    obtain ⟨bound, iff⟩ := ih
    rw [List.filterMap_append, List.countP_append, allSurvive_snoc]
    cases normal : normalize entry with
    | none =>
      have dropped : [entry].filterMap normalize = [] := by simp [normal]
      have lost : ¬ Survives key better normalize shown entries entry [] := by
        rintro ⟨item, shows, -⟩
        rw [normal] at shows
        cases shows
      rw [dropped, List.append_nil, List.countP_singleton]
      refine ⟨bound.trans (Nat.le_add_right _ _), ?_⟩
      rw [← iff, imp_iff_not lost]
      cases counts : counted entry
      · simp
      · simp
        omega
    | some item =>
      have kept : [entry].filterMap normalize = [item] := by simp [normal]
      have within : shown item = true → counted entry = true := shown_counted entry item normal
      rw [kept, bestByKey_snoc, survives_last asymmetric split_better normal, List.countP_singleton]
      have merge : AllSurvive key better normalize counted shown entries ∧
          (∀ x ∈ entries, counted x = true → ∀ own, normalize x = some own → ∀ rival, some item = some rival →
            key rival = key own → better rival own = false) ↔
          AllSurvive key better normalize counted shown entries ∧
            ∀ current, (bestByKey key better (entries.filterMap normalize)).get? (key item) = some current →
              shown current = true → better item current = false := by
        rw [← normal]
        exact and_congr_right fun all => unbeaten_last shown_counted all normal
      rw [merge, ← iff, keepBetter]
      have total := (bestByKey key better (entries.filterMap normalize)).countP_set (key item) item shown
      cases stored : (bestByKey key better (entries.filterMap normalize)).get? (key item) with
      | none =>
        rw [stored, Option.toList_none, List.countP_nil, Nat.add_zero, List.countP_singleton] at total
        simp only [reduceCtorEq, false_implies, implies_true, and_true]
        rw [total]
        cases isShown : shown item <;> cases counts : counted entry <;> grind
      | some current =>
        rw [stored, Option.toList_some, List.countP_singleton, List.countP_singleton] at total
        simp only [Option.some.injEq, forall_eq']
        cases replaced : better item current with
        | true =>
          simp only [if_true]
          cases isShown : shown item <;> cases counts : counted entry <;> cases was : shown current <;> grind
        | false =>
          simp only [Bool.false_eq_true, if_false]
          cases counts : counted entry <;> grind

end

section

variable {cmp : α → α → Ordering} {a b c : α}

theorem gt_asymm [Std.OrientedCmp cmp] (above : (cmp a b == .gt) = true) : (cmp b a == .gt) = false := by
  have swapped : cmp b a = (cmp a b).swap := Std.OrientedCmp.eq_swap
  rw [swapped, eq_of_beq above]
  rfl

theorem gt_split [Std.TransCmp cmp] (above : (cmp a c == .gt) = true) : (cmp a b == .gt) = true ∨ (cmp b c == .gt) = true := by
  by_contra neither
  simp only [not_or, Bool.not_eq_true, beq_eq_false_iff_ne] at neither
  have first : (cmp a b).isLE := Ordering.isLE_iff_ne_gt.mpr neither.1
  have second : (cmp b c).isLE := Ordering.isLE_iff_ne_gt.mpr neither.2
  exact Ordering.isLE_iff_ne_gt.mp (Std.TransCmp.isLE_trans first second) (eq_of_beq above)

end

theorem bestByKey_keys {items : List α} {entry : κ × α} (member : entry ∈ (bestByKey key better items).entries) :
    key entry.2 = entry.1 := (bestByKey_mem ((Dict.get?_eq_some _ entry.1 entry.2).mpr member)).2

theorem nodup_bestByKey (items : List α) : ((bestByKey key better items).values.map key).Nodup := by
  have keys : (bestByKey key better items).values.map key = (bestByKey key better items).entries.map Prod.fst := by
    rw [Dict.values, List.map_map]
    exact List.map_congr_left fun entry member => bestByKey_keys member
  rw [keys]
  exact (bestByKey key better items).nodup

end Library

namespace Library

variable {κ α β : Type*} [DecidableEq κ] {key : α → κ} {better : α → α → Bool} {items order : List α}

/-- Nothing with the key is better than an item. -/
def Unbeaten (key : α → κ) (better : α → α → Bool) (items : List α) (a : α) : Prop :=
  ∀ b ∈ items, key b = key a → better b a = false

theorem exists_order_kept {a : α} (member : a ∈ items) (unbeaten : Unbeaten key better items a) :
    ∃ order : List α, order.Perm items ∧ a ∈ (bestByKey key better order).values := by
  obtain ⟨before, after, rfl⟩ := List.append_of_mem member
  refine ⟨a :: (before ++ after), List.perm_middle.symm, ?_⟩
  rw [Dict.mem_values]
  have first (rival : α) (absent : rival ∈ []) : key rival = key a → better a rival = true := by
    cases absent
  have rest (rival : α) (later : rival ∈ before ++ after) : key rival = key a → better rival a = false := by
    apply unbeaten
    rw [List.mem_append] at later ⊢
    exact later.imp id (List.mem_cons_of_mem _)
  exact ⟨key a, get?_of_survives first rest⟩

section

variable (asymmetric : ∀ a b, better a b = true → better b a = false)
  (split_better : ∀ a b c, better a c = true → better a b = true ∨ better b c = true)

include asymmetric split_better

theorem unbeaten_of_kept {a : α} (kept : a ∈ (bestByKey key better items).values) : a ∈ items ∧ Unbeaten key better items a := by
  obtain ⟨k, stored⟩ := (Dict.mem_values _ a).mp kept
  obtain ⟨member, own⟩ := bestByKey_mem stored
  refine ⟨member, ?_⟩
  intro b there same
  obtain ⟨current, held, below⟩ : ∃ current, (bestByKey key better items).get? (key b) = some current ∧ better b current = false :=
    bestByKey_maximal asymmetric split_better items there
  rw [same, own, stored] at held
  rw [Option.some.inj held]
  exact below

theorem exists_kept {a : α} (member : a ∈ items) :
    ∃ b ∈ (bestByKey key better items).values, key b = key a ∧ better a b = false := by
  obtain ⟨current, stored, below⟩ : ∃ current, (bestByKey key better items).get? (key a) = some current ∧ better a current = false :=
    bestByKey_maximal asymmetric split_better items member
  exact ⟨current, (Dict.mem_values _ current).mpr ⟨_, stored⟩, (bestByKey_mem stored).2, below⟩

theorem facts_order_iff (fact : α → β) (keyed : ∀ a b, fact a = fact b → key a = key b) :
    (∀ order : List α, order.Perm items → ∀ f, f ∈ (bestByKey key better order).values.map fact ↔
        f ∈ (bestByKey key better items).values.map fact) ↔
      ∀ a ∈ items, ∀ b ∈ items, key a = key b → Unbeaten key better items a → Unbeaten key better items b → fact a = fact b := by
  constructor
  · intro independent a here b there same above above'
    obtain ⟨order, perm, kept⟩ := exists_order_kept here above
    obtain ⟨order', perm', kept'⟩ := exists_order_kept there above'
    obtain ⟨x, kept_x, fact_x⟩ := List.mem_map.mp ((independent order perm (fact a)).mp (List.mem_map_of_mem kept))
    obtain ⟨y, kept_y, fact_y⟩ := List.mem_map.mp ((independent order' perm' (fact b)).mp (List.mem_map_of_mem kept'))
    have keys : key x = key y := (keyed x a fact_x).trans (same.trans (keyed y b fact_y).symm)
    have distinct : ((bestByKey key better items).values.map key).Nodup := nodup_bestByKey items
    have equal : x = y := List.inj_on_of_nodup_map distinct kept_x kept_y keys
    rw [← fact_x, ← fact_y, equal]
  · intro agree
    have covered : ∀ some_ other : List α, some_.Perm other → other.Perm items → ∀ f,
        f ∈ (bestByKey key better some_).values.map fact → f ∈ (bestByKey key better other).values.map fact := by
      intro some_ other perm perm' f listed
      obtain ⟨x, kept, rfl⟩ := List.mem_map.mp listed
      obtain ⟨member, above⟩ := unbeaten_of_kept asymmetric split_better kept
      obtain ⟨y, kept', same, -⟩ : ∃ y ∈ (bestByKey key better other).values, key y = key x ∧ better x y = false :=
        exists_kept asymmetric split_better (perm.mem_iff.mp member)
      obtain ⟨member', above'⟩ := unbeaten_of_kept asymmetric split_better kept'
      refine List.mem_map.mpr ⟨y, kept', ?_⟩
      apply agree y (perm'.mem_iff.mp member') x (perm'.mem_iff.mp (perm.mem_iff.mp member)) same
      · exact fun b there => above' b (perm'.mem_iff.mpr there)
      · exact fun b there => above b (perm.mem_iff.mpr (perm'.mem_iff.mpr there))
    intro order perm f
    exact ⟨covered order items perm (List.Perm.refl _) f, covered items order perm.symm perm f⟩

end

end Library
