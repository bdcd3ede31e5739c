import OpenAssetWatch.Library.JsonDict

namespace Library

open JsonText

/-- A field of a record: how its value is read from a document, and the value of an absent one. -/
structure RecordField (α : Type) where
  name : List Char
  read : JsonDoc → Option α
  default : Option α

/-- The values of the fields, in the order of the fields. -/
abbrev Record (α : Type) := List (List Char × α)

section Reading

variable {α : Type}

def RecordField.take (field : RecordField α) (entries : List (List Char × JsonDoc)) : Option α :=
  match entries.lookup field.name with
  | some doc => field.read doc
  | none => field.default

def readRecord (fields : List (RecordField α)) (entries : List (List Char × JsonDoc)) : Option (Record α) :=
  fields.mapM fun field => (field.take entries).map fun value => (field.name, value)

/-- What a record is written as. -/
def writeRecord (write : α → JsonDoc) (record : Record α) : List (List Char × JsonDoc) :=
  record.map fun entry => (entry.1, write entry.2)

theorem readRecord_eq_some {fields : List (RecordField α)} {entries : List (List Char × JsonDoc)} {record : Record α} :
    readRecord fields entries = some record ↔
      List.Forall₂ (fun field entry => entry.1 = field.name ∧ field.take entries = some entry.2) fields record := by
  induction fields generalizing record with
  | nil =>
    rw [readRecord, List.mapM_nil, List.forall₂_nil_left_iff]
    exact ⟨fun same => (Option.some_inj.mp same).symm, fun empty => congrArg some empty.symm⟩
  | cons field fields hypothesis =>
    rw [readRecord, List.mapM_cons, Option.bind_eq_bind, Option.bind_eq_some_iff, List.forall₂_cons_left_iff]
    constructor
    · rintro ⟨first, given, rest⟩
      obtain ⟨others, all, same⟩ := Option.bind_eq_some_iff.mp rest
      obtain ⟨value, taken, rfl⟩ := Option.map_eq_some_iff.mp given
      cases same
      exact ⟨_, _, ⟨rfl, taken⟩, hypothesis.mp all, rfl⟩
    · rintro ⟨⟨name, value⟩, others, ⟨rfl, taken⟩, all, rfl⟩
      exact ⟨_, Option.map_eq_some_iff.mpr ⟨_, taken, rfl⟩, Option.bind_eq_some_iff.mpr ⟨_, hypothesis.mpr all, rfl⟩⟩

theorem names_of_forall₂ {fields : List (RecordField α)} {record : Record α} {relation : RecordField α → α → Prop}
    (related : List.Forall₂ (fun field entry => entry.1 = field.name ∧ relation field entry.2) fields record) :
    record.map (·.1) = fields.map (·.name) := by
  induction related with
  | nil => rfl
  | cons here _ hypothesis => rw [List.map_cons, List.map_cons, here.1, hypothesis]

theorem exists_zip_of_mem_right {β : Type} {first : List α} {second : List β} (length : first.length = second.length) {b : β}
    (member : b ∈ second) : ∃ a, (a, b) ∈ first.zip second := by
  have same : (first.zip second).map Prod.snd = second := List.map_snd_zip length.ge
  rw [← same] at member
  obtain ⟨⟨a, _⟩, inside, rfl⟩ := List.mem_map.mp member
  exact ⟨a, inside⟩

theorem exists_zip_of_mem_left {β : Type} {first : List α} {second : List β} (length : first.length = second.length) {a : α}
    (member : a ∈ first) : ∃ b, (a, b) ∈ first.zip second := by
  have same : (first.zip second).map Prod.fst = first := List.map_fst_zip length.le
  rw [← same] at member
  obtain ⟨⟨_, b⟩, inside, rfl⟩ := List.mem_map.mp member
  exact ⟨b, inside⟩

theorem lookup_of_mem {β : Type} {entries : List (List Char × β)} (distinct : (entries.map (·.1)).Nodup) {key : List Char}
    {value : β} (member : (key, value) ∈ entries) : entries.lookup key = some value := by
  induction entries with
  | nil => cases member
  | cons entry entries hypothesis =>
    rw [List.map_cons, List.nodup_cons] at distinct
    rw [List.lookup_cons]
    rcases List.mem_cons.mp member with rfl | later
    · rw [beq_self_eq_true]
    · have other : key ≠ entry.1 := by
        rintro rfl
        exact distinct.1 (List.mem_map_of_mem (f := (·.1)) later)
      rw [beq_false_of_ne other]
      exact hypothesis distinct.2 later

/-- What a field takes of a record that was written, with other entries behind it. -/
theorem take_writeRecord {fields : List (RecordField α)} (distinct : (fields.map (·.name)).Nodup) {record : Record α}
    (named : record.map (·.1) = fields.map (·.name)) (write : α → JsonDoc) (others : List (List Char × JsonDoc))
    {pair : RecordField α × List Char × α} (member : pair ∈ fields.zip record) :
    pair.2.1 = pair.1.name ∧ pair.1.take (writeRecord write record ++ others) = pair.1.read (write pair.2.2) := by
  have keys : ((writeRecord write record).map (·.1)).Nodup := by
    rw [writeRecord, List.map_map]
    show (record.map (·.1)).Nodup
    rw [named]
    exact distinct
  have same : pair.2.1 = pair.1.name := by
    have both : (fields.map (·.name)).zip (record.map (·.1)) = (fields.map (·.name)).zip (fields.map (·.name)) := by rw [named]
    have inside : (pair.1.name, pair.2.1) ∈ (fields.map (·.name)).zip (record.map (·.1)) := by
      rw [List.zip_map]
      exact List.mem_map_of_mem (f := Prod.map (·.name) (·.1)) member
    rw [both, List.zip_eq_zipWith, List.zipWith_self] at inside
    obtain ⟨name, -, same⟩ := List.mem_map.mp inside
    exact (Prod.mk.inj same).2.symm.trans (Prod.mk.inj same).1
  have listed : (pair.1.name, write pair.2.2) ∈ writeRecord write record := by
    rw [← same]
    exact List.mem_map_of_mem (f := fun entry => (entry.1, write entry.2)) (List.of_mem_zip member).2
  rw [RecordField.take, List.lookup_append, lookup_of_mem keys listed]
  exact ⟨same, rfl⟩

/-- A record comes back from what it is written as exactly when each of its values does. -/
theorem readRecord_writeRecord {fields : List (RecordField α)} (distinct : (fields.map (·.name)).Nodup) {record : Record α}
    (named : record.map (·.1) = fields.map (·.name)) (write : α → JsonDoc) (others : List (List Char × JsonDoc)) :
    readRecord fields (writeRecord write record ++ others) = some record ↔
      ∀ pair ∈ fields.zip record, pair.1.read (write pair.2.2) = some pair.2.2 := by
  have length : fields.length = record.length := by
    rw [← List.length_map (f := (·.name)), ← named, List.length_map]
  rw [readRecord_eq_some, List.forall₂_iff_zip]
  constructor
  · rintro ⟨-, all⟩ pair member
    have read := (all (a := pair.1) (b := pair.2) member).2
    rwa [(take_writeRecord distinct named write others member).2] at read
  · intro all
    apply And.intro length
    intro field entry member
    obtain ⟨same, read⟩ := take_writeRecord distinct named write others member
    exact ⟨same, read.trans (all (field, entry) member)⟩

/-- Where anything is read of a record that was written, something is read of each of its values. -/
theorem isSome_of_readRecord {fields : List (RecordField α)} (distinct : (fields.map (·.name)).Nodup) {record again : Record α}
    (named : record.map (·.1) = fields.map (·.name)) (write : α → JsonDoc) (others : List (List Char × JsonDoc))
    (read : readRecord fields (writeRecord write record ++ others) = some again) :
    ∀ pair ∈ fields.zip record, (pair.1.read (write pair.2.2)).isSome = true := by
  intro pair member
  have taken := readRecord_eq_some.mp read
  obtain ⟨entry, inside⟩ := exists_zip_of_mem_left taken.length_eq (List.of_mem_zip member).1
  have found := ((List.forall₂_iff_zip.mp taken).2 inside).2
  rw [(take_writeRecord distinct named write others member).2] at found
  rw [found]
  rfl

end Reading

section Sorting

variable {β : Type}

theorem insertKey_perm {key : List Char} {value : β} {entries : List (List Char × β)} (absent : key ∉ entries.map (·.1)) :
    (insertKey key value entries).Perm ((key, value) :: entries) := by
  induction entries with
  | nil => exact List.Perm.refl _
  | cons entry entries hypothesis =>
    rw [List.map_cons, List.mem_cons, not_or] at absent
    rw [insertKey, if_neg absent.1]
    by_cases less : key < entry.1
    · rw [if_pos less]
    · rw [if_neg less]
      exact ((hypothesis absent.2).cons entry).trans (List.Perm.swap _ _ _)

theorem dictOf_perm {entries : List (List Char × β)} (distinct : (entries.map (·.1)).Nodup) : (dictOf entries).Perm entries := by
  have general : ∀ dict : List (List Char × β), (entries.map (·.1)).Disjoint (dict.map (·.1)) →
      (entries.foldl (fun dict entry => insertKey entry.1 entry.2 dict) dict).Perm (entries ++ dict) := by
    induction entries with
    | nil => exact fun dict _ => List.Perm.refl _
    | cons entry entries hypothesis =>
      intro dict apart
      rw [List.map_cons, List.nodup_cons] at distinct
      rw [List.map_cons, List.disjoint_cons_left] at apart
      have inserted : (insertKey entry.1 entry.2 dict).Perm ((entry.1, entry.2) :: dict) := insertKey_perm apart.1
      have disjoint : (entries.map (·.1)).Disjoint ((insertKey entry.1 entry.2 dict).map (·.1)) := by
        intro key here there
        rcases List.mem_cons.mp ((inserted.map (·.1)).mem_iff.mp there) with rfl | before
        · exact distinct.1 here
        · exact apart.2 here before
      rw [List.foldl_cons]
      exact ((hypothesis distinct.2 _ disjoint).trans (inserted.append_left entries)).trans List.perm_middle
  have whole := general [] (fun key _ impossible => by cases impossible)
  rwa [List.append_nil] at whole

/-- Entries with the same distinct keys in the same order are told apart by what they hold, in whatever order. -/
theorem eq_of_perm_of_keys {entries others : List (List Char × β)} (keys : entries.map (·.1) = others.map (·.1))
    (distinct : (entries.map (·.1)).Nodup) (same : entries.Perm others) : entries = others := by
  induction entries generalizing others with
  | nil => exact same.nil_eq
  | cons entry entries hypothesis =>
    cases others with
    | nil => cases keys
    | cons other others =>
      rw [List.map_cons, List.map_cons, List.cons.injEq] at keys
      have first : entry = other := by
        have listed := same.mem_iff.mp List.mem_cons_self
        rcases List.mem_cons.mp listed with equal | later
        · exact equal
        · rw [List.map_cons, List.nodup_cons, keys.2] at distinct
          exact absurd (List.mem_map_of_mem (f := (·.1)) later) distinct.1
      rw [List.map_cons, List.nodup_cons] at distinct
      rw [first] at same ⊢
      rw [hypothesis keys.2 distinct.2 same.cons_inv]

theorem dictOf_inj {entries others : List (List Char × β)} (keys : entries.map (·.1) = others.map (·.1))
    (distinct : (entries.map (·.1)).Nodup) (same : dictOf entries = dictOf others) : entries = others := by
  have first := dictOf_perm distinct
  have second : (dictOf others).Perm others := dictOf_perm (keys ▸ distinct)
  rw [same] at first
  exact eq_of_perm_of_keys keys distinct (first.symm.trans second)

end Sorting

end Library
