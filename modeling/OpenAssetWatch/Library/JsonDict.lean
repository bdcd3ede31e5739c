import OpenAssetWatch.Library.JsonMeasure

namespace Library.JsonText

section Dicts

variable {α : Type}

/-- A key is given a value; the keys stay in order, and each is there once. -/
def insertKey (key : List Char) (value : α) : List (List Char × α) → List (List Char × α)
  | [] => [(key, value)]
  | entry :: entries =>
    if key = entry.1 then (key, value) :: entries
    else if key < entry.1 then (key, value) :: entry :: entries
    else entry :: insertKey key value entries

/-- The last value of each key, in the order of the keys. -/
def dictOf (entries : List (List Char × α)) : List (List Char × α) :=
  entries.foldl (fun dict entry => insertKey entry.1 entry.2 dict) []

theorem insertKey_last {key : List Char} {value : α} {entries : List (List Char × α)} (above : ∀ entry ∈ entries, entry.1 < key) :
    insertKey key value entries = entries ++ [(key, value)] := by
  induction entries with
  | nil => rfl
  | cons entry entries hypothesis =>
    have less := above entry List.mem_cons_self
    rw [insertKey, if_neg (ne_of_gt less), if_neg (lt_asymm less), List.cons_append,
      hypothesis fun other member => above other (List.mem_cons_of_mem _ member)]

theorem foldl_insertKey {entries dict : List (List Char × α)} (sorted : (dict ++ entries).Pairwise fun a b => a.1 < b.1) :
    entries.foldl (fun dict entry => insertKey entry.1 entry.2 dict) dict = dict ++ entries := by
  induction entries generalizing dict with
  | nil => rw [List.foldl_nil, List.append_nil]
  | cons entry entries hypothesis =>
    have below : ∀ other ∈ dict, other.1 < entry.1 := by
      intro other member
      exact (List.pairwise_append.mp sorted).2.2 other member entry List.mem_cons_self
    rw [List.foldl_cons, insertKey_last below, hypothesis (by rwa [List.append_assoc]), List.append_assoc]
    rfl

/-- Entries in the order of their keys are kept as they are. -/
theorem dictOf_sorted {entries : List (List Char × α)} (sorted : entries.Pairwise fun a b => a.1 < b.1) : dictOf entries = entries :=
  foldl_insertKey (by rwa [List.nil_append])

end Dicts

/-- A document as dicts and lists: objects keep the last value of each key, in the order of the keys, and `number` says what is
written for the number that a literal stands for. -/
def settle (number : List Char → List Char) : JsonDoc → JsonDoc :=
  fold (fun | .number literal => .number (number literal) | doc => doc) .array fun entries => .object (dictOf entries)

variable (number : List Char → List Char)

theorem settle_array (items : List JsonDoc) : settle number (.array items) = .array (items.map (settle number)) := fold_array ..

theorem settle_object (entries : List (List Char × JsonDoc)) :
    settle number (.object entries) = .object (dictOf (entries.map fun entry => (entry.1, settle number entry.2))) := fold_object ..

theorem settle_string (text : List Char) : settle number (.string text) = .string text := rfl

/-- What the compact layout prints tells documents apart. -/
theorem print_injective {first second : JsonDoc} (firstNumbers : NumbersRead first) (secondNumbers : NumbersRead second)
    (same : print compact 0 first = print compact 0 second) : first = second := by
  have left := loads_print compact first firstNumbers (by simp : ∀ c ∈ ([] : List Char), isBlank c = true)
  have right := loads_print compact second secondNumbers (by simp : ∀ c ∈ ([] : List Char), isBlank c = true)
  rw [same] at left
  exact Option.some_inj.mp (left.symm.trans right)

/-- A printed string ends where it ends, whatever follows. -/
theorem printString_append_inj {first second rest others : List Char}
    (same : printString first ++ rest = printString second ++ others) : first = second ∧ rest = others := by
  have left := readString_printString first rest
  have right := readString_printString second others
  have inside : first.flatMap escape ++ '"' :: rest = second.flatMap escape ++ '"' :: others := by
    simp only [printString, List.cons_append, List.append_assoc, List.nil_append, List.cons.injEq, true_and] at same
    exact same
  rw [inside] at left
  exact Prod.mk.inj (Option.some_inj.mp (left.symm.trans right))

/-- So does a printed document in front of a delimiter. -/
theorem print_append_inj (layout : Layout) (depth : Nat) {first second : JsonDoc} {rest others : List Char}
    (firstNumbers : NumbersRead first) (secondNumbers : NumbersRead second) (firstEnds : Delimited rest)
    (secondEnds : Delimited others) (same : print layout depth first ++ rest = print layout depth second ++ others) :
    first = second ∧ rest = others := by
  have left := readValue_print layout (max (turns first) (turns second)) first firstNumbers (le_max_left _ _) depth rest firstEnds
  have right := readValue_print layout (max (turns first) (turns second)) second secondNumbers (le_max_right _ _) depth others
    secondEnds
  rw [same] at left
  exact Prod.mk.inj (Option.some_inj.mp (left.symm.trans right))

section Numbers

theorem mem_insertKey {α : Type} {key : List Char} {value : α} {entries : List (List Char × α)} {entry : List Char × α}
    (member : entry ∈ insertKey key value entries) : entry = (key, value) ∨ entry ∈ entries := by
  induction entries with
  | nil => exact .inl (List.mem_singleton.mp member)
  | cons first entries hypothesis =>
    rw [insertKey] at member
    split at member
    · rcases List.mem_cons.mp member with same | later
      · exact .inl same
      · exact .inr (List.mem_cons_of_mem _ later)
    split at member
    · rcases List.mem_cons.mp member with same | later
      · exact .inl same
      · exact .inr later
    · rcases List.mem_cons.mp member with same | later
      · exact .inr (same ▸ List.mem_cons_self)
      · exact (hypothesis later).imp_right (List.mem_cons_of_mem _)

theorem mem_dictOf {α : Type} {entries : List (List Char × α)} {entry : List Char × α} (member : entry ∈ dictOf entries) :
    entry ∈ entries := by
  have general : ∀ dict : List (List Char × α),
      entry ∈ entries.foldl (fun dict entry => insertKey entry.1 entry.2 dict) dict → entry ∈ dict ∨ entry ∈ entries := by
    clear member
    induction entries with
    | nil => exact fun _ member => .inl member
    | cons first entries hypothesis =>
      intro dict member
      rcases hypothesis _ member with held | later
      · rcases mem_insertKey held with rfl | before
        · exact .inr List.mem_cons_self
        · exact .inl before
      · exact .inr (List.mem_cons_of_mem _ later)
  rcases general [] member with impossible | listed
  · cases impossible
  · exact listed

theorem itemsRead_iff {items : List JsonDoc} : ItemsRead items ↔ ∀ item ∈ items, NumbersRead item := by
  induction items with
  | nil => exact iff_of_true trivial (by simp)
  | cons item items hypothesis => rw [ItemsRead, hypothesis, List.forall_mem_cons]

theorem entriesRead_iff {entries : List (List Char × JsonDoc)} : EntriesRead entries ↔ ∀ entry ∈ entries, NumbersRead entry.2 := by
  induction entries with
  | nil => exact iff_of_true trivial (by simp)
  | cons entry entries hypothesis => rw [EntriesRead, hypothesis, List.forall_mem_cons]

end Numbers

end Library.JsonText
