import Mathlib

namespace Library

variable {κ ν α β S P : Type*} [DecidableEq κ]

namespace DictEntries

/-- Replace the value of `k` in place, or append it when the key is new. -/
def update (k : κ) (f : Option ν → ν) : List (κ × ν) → List (κ × ν)
  | [] => [(k, f none)]
  | (k', v) :: rest => if k = k' then (k', f (some v)) :: rest else (k', v) :: update k f rest

theorem keys_update (k : κ) (f : Option ν → ν) (entries : List (κ × ν)) :
    (update k f entries).map Prod.fst =
      if k ∈ entries.map Prod.fst then entries.map Prod.fst else entries.map Prod.fst ++ [k] := by
  induction entries with
  | nil => rfl
  | cons entry rest ih =>
    obtain ⟨k', v⟩ := entry
    by_cases same : k = k'
    · subst same
      simp [update]
    · rw [update, if_neg same, List.map_cons, ih]
      simp only [List.map_cons, List.mem_cons, same, false_or]
      split <;> rfl

theorem nodup_update (k : κ) (f : Option ν → ν) {entries : List (κ × ν)}
    (nodup : (entries.map Prod.fst).Nodup) : ((update k f entries).map Prod.fst).Nodup := by
  rw [keys_update]
  split
  · exact nodup
  · rename_i absent
    exact List.Nodup.append nodup (List.nodup_singleton k)
      (List.disjoint_singleton.mpr absent)

theorem lookup_cons (k l : κ) (v : ν) (rest : List (κ × ν)) :
    ((l, v) :: rest).lookup k = if k = l then some v else rest.lookup k := by
  by_cases same : k = l
  · rw [if_pos same, same, List.lookup_cons_self]
  · rw [if_neg same, List.lookup_cons, beq_eq_false_iff_ne.mpr same]

theorem lookup_update (k k' : κ) (f : Option ν → ν) (entries : List (κ × ν)) :
    (update k f entries).lookup k' =
      if k' = k then some (f (entries.lookup k)) else entries.lookup k' := by
  induction entries with
  | nil =>
    rw [update, lookup_cons]
    rfl
  | cons entry rest ih =>
    obtain ⟨l, v⟩ := entry
    by_cases here : k = l
    · subst here
      rw [update, if_pos rfl, lookup_cons, lookup_cons, lookup_cons, if_pos rfl]
      split <;> rfl
    · rw [update, if_neg here, lookup_cons, lookup_cons, lookup_cons, if_neg here, ih]
      by_cases same : k' = k
      · rw [same, if_neg here, if_pos rfl, if_pos rfl]
      · rw [if_neg same, if_neg same]

theorem lookup_mapValues (f : κ → ν → β) (k : κ) (entries : List (κ × ν)) :
    (entries.map fun entry => (entry.1, f entry.1 entry.2)).lookup k = (entries.lookup k).map (f k) := by
  induction entries with
  | nil => rfl
  | cons entry rest ih =>
    rw [List.map_cons, lookup_cons, ih]
    obtain ⟨l, v⟩ := entry
    rw [lookup_cons]
    split
    · rename_i same
      rw [same]
      rfl
    · rfl

theorem lookup_eq_some {entries : List (κ × ν)} (nodup : (entries.map Prod.fst).Nodup) (k : κ) (v : ν) :
    entries.lookup k = some v ↔ (k, v) ∈ entries := by
  induction entries with
  | nil => simp
  | cons entry rest ih =>
    obtain ⟨l, w⟩ := entry
    obtain ⟨fresh, nodup⟩ := List.nodup_cons.mp nodup
    by_cases here : k = l
    · subst here
      have absent : (k, v) ∉ rest := fun member => fresh (List.mem_map.mpr ⟨_, member, rfl⟩)
      simp [absent, eq_comm]
    · rw [lookup_cons, if_neg here, ih nodup]
      simp [here]

end DictEntries

/-- A dictionary in insertion order, each key once. -/
structure Dict (κ ν : Type*) where
  entries : List (κ × ν)
  nodup : (entries.map Prod.fst).Nodup

namespace Dict

instance [DecidableEq ν] : DecidableEq (Dict κ ν) := fun d e =>
  decidable_of_iff (d.entries = e.entries) (by cases d; cases e; simp)

def empty : Dict κ ν := ⟨[], List.nodup_nil⟩

def get? (d : Dict κ ν) (k : κ) : Option ν := d.entries.lookup k

def values (d : Dict κ ν) : List ν := d.entries.map Prod.snd

def size (d : Dict κ ν) : Nat := d.entries.length

def update (d : Dict κ ν) (k : κ) (f : Option ν → ν) : Dict κ ν :=
  ⟨DictEntries.update k f d.entries, DictEntries.nodup_update k f d.nodup⟩

def set (d : Dict κ ν) (k : κ) (v : ν) : Dict κ ν := d.update k fun _ => v

def append (d : Dict κ (List ν)) (k : κ) (v : ν) : Dict κ (List ν) := d.update k fun old => old.getD [] ++ [v]

@[simp] theorem get?_empty (k : κ) : (empty : Dict κ ν).get? k = none := rfl

theorem get?_update (d : Dict κ ν) (k k' : κ) (f : Option ν → ν) :
    (d.update k f).get? k' = if k' = k then some (f (d.get? k)) else d.get? k' :=
  DictEntries.lookup_update k k' f d.entries

@[simp] theorem get?_update_self (d : Dict κ ν) (k : κ) (f : Option ν → ν) :
    (d.update k f).get? k = some (f (d.get? k)) := by rw [get?_update, if_pos rfl]

theorem get?_update_ne (d : Dict κ ν) {k k' : κ} (different : k' ≠ k) (f : Option ν → ν) :
    (d.update k f).get? k' = d.get? k' := by rw [get?_update, if_neg different]

/-- Change every value in place. -/
def mapValues (d : Dict κ ν) (f : κ → ν → ν) : Dict κ ν :=
  ⟨d.entries.map fun entry => (entry.1, f entry.1 entry.2), by
    rw [List.map_map]
    exact d.nodup⟩

@[simp] theorem get?_mapValues (d : Dict κ ν) (f : κ → ν → ν) (k : κ) : (d.mapValues f).get? k = (d.get? k).map (f k) :=
  DictEntries.lookup_mapValues f k d.entries

theorem get?_set (d : Dict κ ν) (k k' : κ) (v : ν) : (d.set k v).get? k' = if k' = k then some v else d.get? k' := get?_update _ _ _ _

theorem mapValues_set (d : Dict κ ν) (f : κ → ν → ν) (k : κ) (v : ν) : (d.set k v).mapValues f = (d.mapValues f).set k (f k v) := by
  obtain ⟨entries, nodup⟩ := d
  simp only [set, update, mapValues, Dict.mk.injEq]
  clear nodup
  induction entries with
  | nil => rfl
  | cons entry rest ih =>
    obtain ⟨l, w⟩ := entry
    rw [DictEntries.update]
    by_cases same : k = l
    · rw [if_pos same, List.map_cons, List.map_cons, DictEntries.update, if_pos same, same]
    · rw [if_neg same, List.map_cons, ih, List.map_cons, DictEntries.update, if_neg same]

theorem get?_eq_some (d : Dict κ ν) (k : κ) (v : ν) : d.get? k = some v ↔ (k, v) ∈ d.entries :=
  DictEntries.lookup_eq_some d.nodup k v

theorem mem_values (d : Dict κ ν) (v : ν) : v ∈ d.values ↔ ∃ k, d.get? k = some v := by
  simp only [values, List.mem_map, Prod.exists, exists_eq_right, get?_eq_some]

/-- Selecting the entries that satisfy `p` and then looking for a key. -/
theorem find?_filter_entries (d : Dict κ ν) (p : κ × ν → Bool) (k : κ) :
    (d.entries.filter p).find? (·.1 = k) = (d.get? k).bind fun v => if p (k, v) then some (k, v) else none := by
  cases stored : d.get? k with
  | none =>
    rw [Option.bind_none, List.find?_eq_none]
    intro entry member same
    have here : d.get? entry.1 = some entry.2 := (d.get?_eq_some _ _).mpr (List.mem_of_mem_filter member)
    rw [of_decide_eq_true same, stored] at here
    cases here
  | some v =>
    have member : (k, v) ∈ d.entries := (d.get?_eq_some k v).mp stored
    have unique (entry : κ × ν) (h : entry ∈ d.entries) (same : entry.1 = k) : entry = (k, v) := by
      have here : d.get? entry.1 = some entry.2 := (d.get?_eq_some _ _).mpr h
      rw [same, stored] at here
      exact Prod.ext same (Option.some.inj here).symm
    rw [Option.bind_some]
    split
    · rename_i selected
      cases found : (d.entries.filter p).find? (·.1 = k) with
      | none =>
        rw [List.find?_eq_none] at found
        exact absurd (decide_eq_true rfl) (found (k, v) (List.mem_filter.mpr ⟨member, selected⟩))
      | some entry =>
        have same : entry.1 = k := by simpa using List.find?_some found
        rw [unique entry (List.mem_of_mem_filter (List.mem_of_find?_eq_some found)) same]
    · rename_i dropped
      rw [List.find?_eq_none]
      intro entry h same
      have here := unique entry (List.mem_of_mem_filter h) (of_decide_eq_true same)
      rw [here] at h
      exact dropped (List.of_mem_filter h)

omit [DecidableEq κ] in
theorem nodup_filter_keys (d : Dict κ ν) (p : κ × ν → Bool) : ((d.entries.filter p).map Prod.fst).Nodup :=
  d.nodup.sublist (List.filter_sublist.map Prod.fst)

theorem find?_entries (d : Dict κ ν) (k : κ) : d.entries.find? (·.1 = k) = (d.get? k).map fun v => (k, v) := by
  have selected := d.find?_filter_entries (fun _ => true) k
  rw [List.filter_true] at selected
  rw [selected]
  cases d.get? k <;> rfl

/-- Selecting entries that another dictionary holds too selects no more of them. -/
theorem countP_entries_le (d e : Dict κ ν) (p : κ × ν → Bool)
    (held : ∀ k v, p (k, v) = true → d.get? k = some v → e.get? k = some v) :
    d.entries.countP p ≤ e.entries.countP p := by
  have distinct : (d.entries.filter p).Nodup := List.Nodup.of_map Prod.fst (d.nodup_filter_keys p)
  have inside : d.entries.filter p ⊆ e.entries.filter p := by
    intro entry member
    obtain ⟨stored, selected⟩ := List.mem_filter.mp member
    rw [← d.get?_eq_some] at stored
    exact List.mem_filter.mpr ⟨(e.get?_eq_some _ _).mp (held _ _ selected stored), selected⟩
  rw [List.countP_eq_length_filter, List.countP_eq_length_filter]
  exact (distinct.subperm inside).length_le

/-- Selecting entries that two dictionaries agree on selects equally many in both. -/
theorem countP_entries_congr (d e : Dict κ ν) (p : κ × ν → Bool)
    (agree : ∀ k v, p (k, v) = true → (d.get? k = some v ↔ e.get? k = some v)) :
    d.entries.countP p = e.entries.countP p :=
  le_antisymm (countP_entries_le d e p fun k v selected => (agree k v selected).mp)
    (countP_entries_le e d p fun k v selected => (agree k v selected).mpr)

/-- The values of a dictionary, each changed by itself. -/
def map (f : ν → α) (d : Dict κ ν) : Dict κ α where
  entries := d.entries.map fun (k, v) => (k, f v)
  nodup := by
    rw [List.map_map]
    exact d.nodup

theorem get?_map (f : ν → α) (d : Dict κ ν) (k : κ) : (d.map f).get? k = (d.get? k).map f := by
  obtain ⟨entries, nodup⟩ := d
  simp only [map, get?]
  clear nodup
  induction entries with
  | nil => rfl
  | cons entry rest ih =>
    obtain ⟨l, v⟩ := entry
    rw [List.map_cons, DictEntries.lookup_cons, DictEntries.lookup_cons, ih]
    split <;> rfl

/-- The entries whose keys are kept. -/
def filter (p : κ → Bool) (d : Dict κ ν) : Dict κ ν := ⟨d.entries.filter (p ·.1), d.nodup_filter_keys _⟩

theorem get?_filter (p : κ → Bool) (d : Dict κ ν) (k : κ) :
    (d.filter p).get? k = if p k then d.get? k else none := by
  apply Option.ext
  intro v
  rw [get?_eq_some, filter, List.mem_filter, ← get?_eq_some]
  split
  · rename_i kept
    exact and_iff_left kept
  · rename_i dropped
    simp [dropped]

omit [DecidableEq κ] in
/-- Results that keep the key of their entry have no key twice. -/
theorem sublist_filterMap_keys (f : κ × ν → Option α) (key : α → κ) {entries : List (κ × ν)}
    (keyed : ∀ entry ∈ entries, ∀ a, f entry = some a → key a = entry.1) :
    ((entries.filterMap f).map key).Sublist (entries.map Prod.fst) := by
  induction entries with
  | nil => exact List.Sublist.refl _
  | cons entry rest ih =>
    have tail := ih fun other member => keyed other (List.mem_cons_of_mem _ member)
    rw [List.filterMap_cons]
    cases result : f entry with
    | none => exact tail.cons _
    | some a =>
      rw [List.map_cons, List.map_cons, keyed entry List.mem_cons_self a result]
      exact tail.cons_cons _

/-- Grouping a list by key: each key holds its members in the list's order, and no key is empty. -/
theorem get?_foldl_append (key : α → κ) (items : List α) (d : Dict κ (List α)) (k : κ) :
    (items.foldl (fun d item => d.append (key item) item) d).get? k =
      if (items.filter (key · = k)) = [] then d.get? k
      else some ((d.get? k).getD [] ++ items.filter (key · = k)) := by
  induction items generalizing d with
  | nil => simp
  | cons item rest ih =>
    rw [List.foldl_cons, ih, append, get?_update]
    by_cases here : k = key item
    · subst here
      simp only [List.filter_cons, decide_true, if_true, Option.getD_some, List.append_assoc,
        List.singleton_append, reduceCtorEq, if_false]
      split
      · rename_i last; rw [last]
      · rfl
    · have there : ¬ key item = k := fun h => here h.symm
      simp [there, here]

theorem get?_foldl_set (key : α → κ) (items : List α) (d : Dict κ α) (k : κ) :
    (items.foldl (fun d item => d.set (key item) item) d).get? k =
      ((items.filter (key · = k)).getLast?).or (d.get? k) := by
  induction items generalizing d with
  | nil => simp
  | cons item rest ih =>
    rw [List.foldl_cons, ih, set, get?_update]
    by_cases here : key item = k
    · subst here
      simp only [List.filter_cons, decide_true, if_true, List.getLast?_cons]
      cases ((List.filter (fun x => key x = key item) rest).getLast?) <;> simp
    · have there : ¬ k = key item := fun h => here h.symm
      simp [here, there]

end Dict

/-- A loop whose turns each touch one key, seen from key `k`: only the turns of `k` count. -/
theorem foldl_turns_at_key (proj : κ → S → P) (key : α → κ) (step : S → α → S) (turn : α → P → P)
    (touched : ∀ s x, proj (key x) (step s x) = turn x (proj (key x) s))
    (untouched : ∀ s x k, k ≠ key x → proj k (step s x) = proj k s) (items : List α) (s : S) (k : κ) :
    proj k (items.foldl step s) = (items.filter (key · = k)).foldl (fun p x => turn x p) (proj k s) := by
  induction items generalizing s with
  | nil => rfl
  | cons item rest ih =>
    rw [List.foldl_cons, ih]
    by_cases here : key item = k
    · rw [List.filter_cons_of_pos (by simpa using here), List.foldl_cons, ← here, touched]
    · rw [List.filter_cons_of_neg (by simpa using here), untouched s item k fun h => here h.symm]

theorem filter_key_eq_find? (key : α → κ) {items : List α} (nodup : (items.map key).Nodup) (k : κ) :
    items.filter (key · = k) = (items.find? (key · = k)).toList := by
  induction items with
  | nil => rfl
  | cons item rest ih =>
    obtain ⟨fresh, nodup⟩ := List.nodup_cons.mp nodup
    by_cases here : key item = k
    · have absent : rest.filter (key · = k) = [] := by
        rw [List.filter_eq_nil_iff]
        intro x member same
        exact fresh (List.mem_map.mpr ⟨x, member, (of_decide_eq_true same).trans here.symm⟩)
      simp [here, absent]
    · simp [here, ih nodup]

/-- When each key has one turn at most. -/
theorem foldl_at_key (proj : κ → S → P) (key : α → κ) (step : S → α → S) (turn : α → P → P)
    (touched : ∀ s x, proj (key x) (step s x) = turn x (proj (key x) s))
    (untouched : ∀ s x k, k ≠ key x → proj k (step s x) = proj k s)
    (items : List α) (nodup : (items.map key).Nodup) (s : S) (k : κ) :
    proj k (items.foldl step s) = (items.find? (key · = k)).elim (proj k s) (turn · (proj k s)) := by
  rw [foldl_turns_at_key proj key step turn touched untouched, filter_key_eq_find? key nodup]
  cases items.find? (key · = k) <;> rfl

end Library

namespace Library.Dict

variable {κ ν α : Type*} [DecidableEq κ]

theorem get?_foldl_update (key : α → κ) (f : α → Option ν → ν) (items : List α) (d : Dict κ ν) (k : κ) :
    (items.foldl (fun d item => d.update (key item) (f item)) d).get? k =
      (items.filter (key · = k)).foldl (fun old item => some (f item old)) (d.get? k) := by
  apply foldl_turns_at_key (fun k (d : Dict κ ν) => d.get? k) key _ fun item old => some (f item old)
  · intro d item
    exact get?_update_self d _ _
  · intro d item k different
    exact get?_update_ne d different _

/-- Upserts leave the other keys alone. -/
theorem get?_foldl_update_of_absent {key : α → κ} (f : α → Option ν → ν) {items : List α} (d : Dict κ ν) {k : κ}
    (absent : ∀ item ∈ items, key item ≠ k) :
    (items.foldl (fun d item => d.update (key item) (f item)) d).get? k = d.get? k := by
  rw [get?_foldl_update, List.filter_eq_nil_iff.mpr, List.foldl_nil]
  intro item member same
  exact absent item member (of_decide_eq_true same)

/-- After upserts a key holds what its last one wrote. -/
theorem get?_foldl_update_of_present (key : α → κ) (f : α → Option ν → ν) {items : List α} (d : Dict κ ν) {item : α}
    (member : item ∈ items) :
    ∃ last ∈ items, key last = key item ∧
      ∃ old, (items.foldl (fun d item => d.update (key item) (f item)) d).get? (key item) = some (f last old) := by
  rw [get?_foldl_update]
  have here : item ∈ items.filter (key · = key item) := List.mem_filter.mpr ⟨member, decide_eq_true rfl⟩
  rcases List.eq_nil_or_concat (items.filter (key · = key item)) with none | ⟨earlier, last, all⟩
  · rw [none] at here
    cases here
  · rw [List.concat_eq_append] at all
    have inside : last ∈ items.filter (key · = key item) := by
      rw [all]
      exact List.mem_append_right _ (List.mem_singleton_self last)
    obtain ⟨listed, same⟩ := List.mem_filter.mp inside
    rw [all, List.foldl_append]
    exact ⟨last, listed, of_decide_eq_true same, _, rfl⟩

/-- What each upsert establishes of its own row and keeps of the others holds of every row. -/
theorem foldl_update_invariant {key : α → κ} {f : α → Option ν → ν} {items : List α} {d : Dict κ ν} (P : κ → ν → Prop)
    (start : ∀ k v, d.get? k = some v → P k v)
    (new : ∀ item ∈ items, P (key item) (f item none))
    (old : ∀ item ∈ items, ∀ v, P (key item) v → P (key item) (f item (some v))) {k : κ} {v : ν}
    (held : (items.foldl (fun d item => d.update (key item) (f item)) d).get? k = some v) : P k v := by
  induction items generalizing d with
  | nil => exact start k v held
  | cons item items ih =>
    apply ih _ (fun other member => new other (List.mem_cons_of_mem _ member))
      (fun other member => old other (List.mem_cons_of_mem _ member)) held
    intro k v here
    by_cases same : k = key item
    · subst same
      rw [get?_update_self] at here
      cases before : d.get? (key item) with
      | none =>
        rw [before] at here
        cases here
        exact new item List.mem_cons_self
      | some w =>
        rw [before] at here
        cases here
        exact old item List.mem_cons_self w (start _ w before)
    · rw [get?_update_ne d same] at here
      exact start k v here

end Library.Dict
