import OpenAssetWatch.Library.Dict

namespace Library

variable {κ ν : Type*} [DecidableEq κ]

namespace DictEntries

/-- Drop entries from the front until at most `most` are left. -/
def evict (most : Nat) : List (κ × ν) → List (κ × ν)
  | [] => []
  | entry :: rest => if most < (entry :: rest).length then evict most rest else entry :: rest

omit [DecidableEq κ]

theorem evict_eq_drop (most : Nat) (entries : List (κ × ν)) :
    evict most entries = entries.drop (entries.length - most) := by
  induction entries with
  | nil => exact List.drop_nil.symm
  | cons entry rest ih =>
    rw [evict]
    split
    · rename_i full
      have more : (entry :: rest).length - most = rest.length - most + 1 := by
        rw [List.length_cons] at full ⊢
        omega
      rw [ih, more, List.drop_succ_cons]
    · rename_i fits
      rw [Nat.sub_eq_zero_of_le (Nat.le_of_not_lt fits), List.drop_zero]

theorem evict_suffix (most : Nat) (entries : List (κ × ν)) : evict most entries <:+ entries := by
  rw [evict_eq_drop]
  exact List.drop_suffix _ _

theorem length_evict_le (most : Nat) (entries : List (κ × ν)) : (evict most entries).length ≤ most := by
  rw [evict_eq_drop, List.length_drop]
  omega

theorem mem_evict {most : Nat} {front back : List (κ × ν)} {entry : κ × ν} (few : back.length < most) :
    entry ∈ evict most (front ++ entry :: back) := by
  have short : (front ++ entry :: back).length - most ≤ front.length := by
    rw [List.length_append, List.length_cons]
    omega
  rw [evict_eq_drop, List.drop_append_of_le_length short]
  exact List.mem_append_right _ List.mem_cons_self

end DictEntries

namespace Dict

/-- The key moves to the end. -/
def moveToEnd (d : Dict κ ν) (k : κ) (v : ν) : Dict κ ν := (d.filter (· ≠ k)).set k v

/-- Drop the entries at the front until at most `most` are left. -/
def evict (most : Nat) (d : Dict κ ν) : Dict κ ν :=
  ⟨DictEntries.evict most d.entries, d.nodup.sublist ((DictEntries.evict_suffix most d.entries).sublist.map Prod.fst)⟩

/-- Use a key of a dict kept in order of use, which holds `most` keys at most. -/
def touch (most : Nat) (d : Dict κ ν) (k : κ) (v : ν) : Dict κ ν := (d.moveToEnd k v).evict most

theorem entries_moveToEnd (d : Dict κ ν) (k : κ) (v : ν) :
    (d.moveToEnd k v).entries = d.entries.filter (·.1 ≠ k) ++ [(k, v)] := by
  have absent : ∀ entries : List (κ × ν), (∀ entry ∈ entries, entry.1 ≠ k) →
      DictEntries.update k (fun _ => v) entries = entries ++ [(k, v)] := by
    intro entries
    induction entries with
    | nil => exact fun _ => rfl
    | cons entry rest ih =>
      intro different
      rw [DictEntries.update, if_neg (different entry List.mem_cons_self).symm,
        ih fun other member => different other (List.mem_cons_of_mem _ member)]
      rfl
  apply absent
  intro entry member
  exact of_decide_eq_true (List.mem_filter.mp member).2

theorem size_touch_le (most : Nat) (d : Dict κ ν) (k : κ) (v : ν) : (d.touch most k v).size ≤ most :=
  DictEntries.length_evict_le most _

theorem get?_of_evict {most : Nat} {d : Dict κ ν} {k : κ} {v : ν} (held : (d.evict most).get? k = some v) :
    d.get? k = some v := by
  rw [get?_eq_some] at held ⊢
  exact (DictEntries.evict_suffix most d.entries).subset held

theorem get?_moveToEnd (d : Dict κ ν) (k k' : κ) (v : ν) :
    (d.moveToEnd k v).get? k' = if k' = k then some v else d.get? k' := by
  rw [moveToEnd, get?_set, get?_filter]
  split
  · rfl
  · rename_i different
    exact if_pos (decide_eq_true different)

theorem get?_of_touch {most : Nat} {d : Dict κ ν} {k k' : κ} {v w : ν} (held : (d.touch most k v).get? k' = some w) :
    (if k' = k then some v else d.get? k') = some w := by
  rw [← get?_moveToEnd]
  exact get?_of_evict held

/-- The keys behind an entry were used after every use of its key. -/
def InOrderOfUse (uses : List κ) (d : Dict κ ν) : Prop :=
  ∀ front entry back, d.entries = front ++ entry :: back →
    ∀ earlier later, uses = earlier ++ entry.1 :: later → ∀ other ∈ back, other.1 ∈ later

omit [DecidableEq κ] in
theorem inOrderOfUse_empty : InOrderOfUse [] (empty : Dict κ ν) := by
  intro front entry back split
  exact absurd split.symm (by simp [empty])

theorem InOrderOfUse.moveToEnd {uses : List κ} {d : Dict κ ν} (ordered : InOrderOfUse uses d) (k : κ) (v : ν) :
    InOrderOfUse (uses ++ [k]) (d.moveToEnd k v) := by
  intro front entry back split earlier later used other member
  rw [entries_moveToEnd] at split
  rcases List.eq_nil_or_concat back with rfl | ⟨rest, last, rfl⟩
  · cases member
  rw [List.concat_eq_append, ← List.cons_append, ← List.append_assoc] at split
  obtain ⟨kept, same⟩ := List.append_inj' split rfl
  obtain ⟨front', tail, whole, -, rest_eq⟩ := List.filter_eq_append_iff.mp kept
  obtain ⟨skipped, back', tail_eq, -, different, rest_eq⟩ := List.filter_eq_cons_iff.mp rest_eq
  have different : entry.1 ≠ k := of_decide_eq_true different
  rcases List.eq_nil_or_concat later with rfl | ⟨later, newest, rfl⟩
  · have ends := (List.append_inj' used rfl).2
    exact absurd (List.singleton_inj.mp ends).symm different
  rw [List.concat_eq_append, ← List.cons_append, ← List.append_assoc] at used
  obtain ⟨used, newest_eq⟩ := List.append_inj' used rfl
  rw [List.concat_eq_append] at member ⊢
  rcases List.mem_append.mp member with inside | isLast
  · have before : other ∈ back' := List.mem_of_mem_filter (rest_eq ▸ inside)
    have split' : d.entries = (front' ++ skipped) ++ entry :: back' := by
      rw [whole, tail_eq, List.append_assoc]
    exact List.mem_append_left _ (ordered _ entry back' split' earlier later used other before)
  · rw [← same] at isLast
    rw [List.mem_singleton.mp isLast, ← newest_eq]
    exact List.mem_append_right _ (List.mem_singleton_self k)

omit [DecidableEq κ] in
theorem InOrderOfUse.evict {uses : List κ} {d : Dict κ ν} (ordered : InOrderOfUse uses d) (most : Nat) :
    InOrderOfUse uses (d.evict most) := by
  intro front entry back split
  obtain ⟨dropped, whole⟩ := DictEntries.evict_suffix most d.entries
  apply ordered (dropped ++ front)
  rw [← whole, List.append_assoc]
  exact congrArg (dropped ++ ·) split

theorem InOrderOfUse.touch {uses : List κ} {d : Dict κ ν} (ordered : InOrderOfUse uses d) (most : Nat) (k : κ) (v : ν) :
    InOrderOfUse (uses ++ [k]) (d.touch most k v) :=
  (ordered.moveToEnd k v).evict most

/-- The keys other than `k` among the uses. -/
def othersUsed (k : κ) (uses : List κ) : Nat := (uses.filter (· ≠ k)).dedup.length

theorem othersUsed_mono (k : κ) {few many : List κ} (sub : few ⊆ many) : othersUsed k few ≤ othersUsed k many := by
  apply List.Subperm.length_le
  apply (List.nodup_dedup _).subperm
  intro other member
  rw [List.mem_dedup, List.mem_filter] at member ⊢
  exact ⟨sub member.1, member.2⟩

theorem InOrderOfUse.get?_touch {uses : List κ} {d : Dict κ ν} (ordered : InOrderOfUse uses d) {most : Nat} {k k' : κ}
    {v w : ν} (held : (if k' = k then some v else d.get? k') = some w) {earlier later : List κ}
    (used : uses ++ [k] = earlier ++ k' :: later) (few : othersUsed k' later < most) :
    (d.touch most k v).get? k' = some w := by
  rw [← get?_moveToEnd, get?_eq_some] at held
  obtain ⟨front, back, split⟩ := List.append_of_mem held
  have short : back.length ≤ othersUsed k' later := by
    have distinct := (d.moveToEnd k v).nodup
    rw [split, List.map_append, List.map_cons] at distinct
    have behind := (List.nodup_append.mp distinct).2.1
    rw [List.nodup_cons] at behind
    rw [← List.length_map (f := Prod.fst)]
    apply (behind.2.subperm _).length_le
    intro other member
    rw [List.mem_dedup, List.mem_filter]
    obtain ⟨entry, inside, rfl⟩ := List.mem_map.mp member
    refine ⟨ordered.moveToEnd k v front (k', w) back split earlier later used entry inside, ?_⟩
    apply decide_eq_true
    intro same
    exact behind.1 (same ▸ member)
  rw [get?_eq_some]
  show (k', w) ∈ DictEntries.evict most (d.moveToEnd k v).entries
  rw [split]
  exact DictEntries.mem_evict (short.trans_lt few)

end Dict

end Library
