import OpenAssetWatch.Library.Dict

namespace Library.Dict

variable {κ ν : Type*}

/-- The weights of the entries of a dictionary, taken together. -/
def total (weight : κ → ν → Nat) (d : Dict κ ν) : Nat := (d.entries.map fun entry => weight entry.1 entry.2).sum

theorem total_mono {weight weight' : κ → ν → Nat} (le : ∀ k v, weight k v ≤ weight' k v) (d : Dict κ ν) :
    d.total weight ≤ d.total weight' := by
  unfold total
  apply List.sum_le_sum
  intro entry _
  exact le entry.1 entry.2

theorem countP_keys (p : κ → Bool) (d : Dict κ ν) :
    (d.entries.map Prod.fst).countP p = d.total fun k _ => if p k then 1 else 0 := by
  unfold total
  rw [List.countP_map]
  induction d.entries with
  | nil => rfl
  | cons entry rest ih =>
    rw [List.countP_cons, ih, List.map_cons, List.sum_cons, Nat.add_comm]
    rfl

variable [DecidableEq κ]

/-- The weight under a key, which is nothing when the key is absent. -/
def weightAt (weight : κ → ν → Nat) (d : Dict κ ν) (k : κ) : Nat := (d.get? k).elim 0 (weight k)

theorem total_set (weight : κ → ν → Nat) (d : Dict κ ν) (k : κ) (v : ν) :
    (d.set k v).total weight + d.weightAt weight k = d.total weight + weight k v := by
  obtain ⟨entries, nodup⟩ := d
  simp only [total, weightAt, set, update, get?]
  clear nodup
  induction entries with
  | nil => simp [DictEntries.update]
  | cons entry rest ih =>
    obtain ⟨l, w⟩ := entry
    rw [DictEntries.lookup_cons, DictEntries.update]
    by_cases here : k = l
    · subst here
      rw [if_pos rfl, if_pos rfl]
      simp only [List.map_cons, List.sum_cons, Option.elim_some]
      omega
    · rw [if_neg here, if_neg here]
      simp only [List.map_cons, List.sum_cons]
      omega

theorem total_congr (weight : κ → ν → Nat) {d e : Dict κ ν} (same : ∀ k, d.get? k = e.get? k) : d.total weight = e.total weight := by
  have perm : d.entries.Perm e.entries := by
    apply (List.perm_ext_iff_of_nodup (List.Nodup.of_map _ d.nodup) (List.Nodup.of_map _ e.nodup)).mpr
    rintro ⟨k, v⟩
    rw [← get?_eq_some, ← get?_eq_some, same]
  exact (perm.map _).sum_eq

/-- The entries but the one under `k`. -/
def erase (d : Dict κ ν) (k : κ) : Dict κ ν := d.filter (· ≠ k)

theorem get?_erase (d : Dict κ ν) (k k' : κ) : (d.erase k).get? k' = if k' = k then none else d.get? k' := by
  rw [erase, get?_filter]
  by_cases same : k' = k
  · simp [same]
  · simp [same]

theorem total_erase (weight : κ → ν → Nat) (d : Dict κ ν) (k : κ) :
    (d.erase k).total weight + d.weightAt weight k = d.total weight := by
  obtain ⟨entries, nodup⟩ := d
  simp only [total, weightAt, erase, filter, get?]
  induction entries with
  | nil => rfl
  | cons entry rest ih =>
    obtain ⟨l, w⟩ := entry
    obtain ⟨fresh, nodup⟩ := List.nodup_cons.mp nodup
    rw [DictEntries.lookup_cons]
    by_cases here : k = l
    · subst here
      have kept : rest.filter (fun entry => entry.1 ≠ k) = rest := by
        rw [List.filter_eq_self]
        intro entry member
        apply decide_eq_true
        rintro rfl
        exact fresh (List.mem_map.mpr ⟨entry, member, rfl⟩)
      rw [List.filter_cons_of_neg (by simp), kept, if_pos rfl]
      simp only [List.map_cons, List.sum_cons, Option.elim_some]
      omega
    · rw [List.filter_cons_of_pos (by simpa using Ne.symm here), if_neg here]
      have tail := ih nodup
      simp only [List.map_cons, List.sum_cons]
      omega

/-- Move the value under one key to another, whose own value is lost. -/
def rename (d : Dict κ ν) (old new : κ) : Dict κ ν :=
  match d.get? old with
  | none => d
  | some v => (d.erase old).set new v

theorem get?_rename (d : Dict κ ν) {old new : κ} {v : ν} (present : d.get? old = some v) (k : κ) :
    (d.rename old new).get? k = if k = new then some v else if k = old then none else d.get? k := by
  rw [rename, present]
  show ((d.erase old).update new fun _ => v).get? k = _
  rw [get?_update, get?_erase]

theorem total_rename (weight : κ → ν → Nat) (d : Dict κ ν) {old new : κ} {v : ν} (present : d.get? old = some v)
    (apart : new ≠ old) :
    (d.rename old new).total weight + weight old v + d.weightAt weight new = d.total weight + weight new v := by
  have gone := total_erase weight d old
  have put := total_set weight (d.erase old) new v
  have same : (d.erase old).weightAt weight new = d.weightAt weight new := by
    rw [weightAt, get?_erase, if_neg apart]
    rfl
  have here : d.weightAt weight old = weight old v := by
    rw [weightAt, present]
    rfl
  have step : d.rename old new = (d.erase old).set new v := by
    rw [rename, present]
  rw [step]
  omega

theorem get?_eq_none (d : Dict κ ν) (k : κ) : d.get? k = none ↔ ∀ entry ∈ d.entries, entry.1 ≠ k := by
  constructor
  · rintro absent ⟨l, v⟩ member rfl
    rw [(get?_eq_some d l v).mpr member] at absent
    cases absent
  · intro others
    cases found : d.get? k with
    | none => rfl
    | some v => exact absurd rfl (others (k, v) ((get?_eq_some d k v).mp found))

theorem update_append {front rest : List (κ × ν)} {k : κ} (absent : ∀ entry ∈ front, entry.1 ≠ k) (f : Option ν → ν) :
    DictEntries.update k f (front ++ rest) = front ++ DictEntries.update k f rest := by
  induction front with
  | nil => rfl
  | cons entry front ih =>
    have other : k ≠ entry.1 := (absent entry List.mem_cons_self).symm
    rw [List.cons_append, DictEntries.update, if_neg other, ih fun entry member => absent entry (List.mem_cons_of_mem _ member),
      List.cons_append]

theorem entries_set_fresh {d : Dict κ ν} {k : κ} (absent : d.get? k = none) (v : ν) : (d.set k v).entries = d.entries ++ [(k, v)] := by
  have others := (get?_eq_none d k).mp absent
  show DictEntries.update k _ d.entries = _
  rw [← List.append_nil d.entries, update_append others, List.append_nil]
  rfl

omit [DecidableEq κ] in
theorem absent_of_last {d : Dict κ ν} {front : List (κ × ν)} {k : κ} {v : ν} (last : d.entries = front ++ [(k, v)]) :
    ∀ entry ∈ front, entry.1 ≠ k := by
  have nodup := d.nodup
  rw [last, List.map_append, List.nodup_append] at nodup
  intro entry member same
  exact nodup.2.2 _ (List.mem_map_of_mem member) k (by simp) same

theorem entries_set_last {d : Dict κ ν} {front : List (κ × ν)} {k : κ} {v : ν} (last : d.entries = front ++ [(k, v)]) (w : ν) :
    (d.set k w).entries = front ++ [(k, w)] := by
  show DictEntries.update k _ d.entries = _
  rw [last, update_append (absent_of_last last), DictEntries.update, if_pos rfl]

theorem entries_rename_last {d : Dict κ ν} {front : List (κ × ν)} {old new : κ} {v : ν} (last : d.entries = front ++ [(old, v)])
    (absent : d.get? new = none) : (d.rename old new).entries = front ++ [(new, v)] := by
  have others := absent_of_last last
  have found : d.get? old = some v := by
    rw [get?_eq_some, last]
    simp
  have fresh : (d.erase old).get? new = none := by
    rw [get?_erase, absent, ite_self]
  have erased : (d.erase old).entries = front := by
    show d.entries.filter _ = front
    rw [last, List.filter_append, List.filter_eq_self.mpr fun entry member => decide_eq_true (others entry member)]
    simp
  rw [rename, found]
  show ((d.erase old).set new v).entries = _
  rw [entries_set_fresh fresh, erased]

end Library.Dict
