import OpenAssetWatch.Text.Unicode

namespace OpenAssetWatch.Text

/-- Words as `words` gives them: not empty and without whitespace. -/
def AreWords (parts : List (List Char)) : Prop := ∀ part ∈ parts, part ≠ [] ∧ ∀ c ∈ part, isSpace c = false

theorem mem_of_mem_splitOnP {p : Char → Bool} (text : List Char) :
    ∀ part ∈ text.splitOnP p, ∀ c ∈ part, c ∈ text ∧ p c = false := by
  induction text with
  | nil =>
    intro part member c inside
    rw [List.splitOnP_nil, List.mem_singleton] at member
    rw [member] at inside
    cases inside
  | cons d text hypothesis =>
    have later : ∀ part ∈ text.splitOnP p, ∀ c ∈ part, c ∈ d :: text ∧ p c = false := fun part member c inside =>
      (hypothesis part member c inside).imp_left (List.mem_cons_of_mem _)
    rw [List.splitOnP_cons_eq_if_modifyHead]
    intro part member c inside
    split at member
    · rcases List.mem_cons.mp member with rfl | further
      · cases inside
      · exact later part further c inside
    · rename_i kept
      obtain ⟨first, others, split⟩ := List.exists_cons_of_ne_nil (List.splitOnP_ne_nil p text)
      rw [split, List.modifyHead_cons] at member
      rcases List.mem_cons.mp member with rfl | further
      · rcases List.mem_cons.mp inside with rfl | here
        · exact ⟨List.mem_cons_self, eq_false_of_ne_true kept⟩
        · exact later first (by rw [split]; exact List.mem_cons_self) c here
      · exact later part (by rw [split]; exact List.mem_cons_of_mem _ further) c inside

theorem areWords_words (text : List Char) : AreWords (words text) := by
  intro part member
  obtain ⟨listed, nonempty⟩ := List.mem_filter.mp member
  refine ⟨fun empty => ?_, fun c inside => (mem_of_mem_splitOnP text part listed c inside).2⟩
  rw [empty] at nonempty
  cases nonempty

theorem AreWords.tail {part : List Char} {parts : List (List Char)} (all : AreWords (part :: parts)) : AreWords parts :=
  fun other member => all other (List.mem_cons_of_mem _ member)

theorem words_append_blank {part : List Char} (solid : ∀ c ∈ part, isSpace c = false) (nonempty : part ≠ []) (rest : List Char) :
    words (part ++ ' ' :: rest) = part :: words rest := by
  rw [words, List.splitOnP_append_cons_of_forall_mem solid ' ' rfl, List.filter_cons_of_pos]
  · rfl
  · rw [Bool.not_eq_true', List.isEmpty_eq_false_iff]
    exact nonempty

theorem words_nil : words [] = [] := rfl

theorem words_of_solid {part : List Char} (solid : ∀ c ∈ part, isSpace c = false) (nonempty : part ≠ []) : words part = [part] := by
  rw [words, List.splitOnP_eq_singleton solid, List.filter_cons_of_pos]
  · rfl
  · rw [Bool.not_eq_true', List.isEmpty_eq_false_iff]
    exact nonempty

theorem joinWords_cons_cons (part next : List Char) (parts : List (List Char)) :
    joinWords (part :: next :: parts) = part ++ ' ' :: joinWords (next :: parts) := by
  rw [joinWords, List.intercalate_cons_cons, List.append_assoc]
  rfl

theorem joinWords_singleton (part : List Char) : joinWords [part] = part := List.intercalate_singleton

theorem words_joinWords {parts : List (List Char)} (all : AreWords parts) : words (joinWords parts) = parts := by
  induction parts with
  | nil => rfl
  | cons part parts hypothesis =>
    obtain ⟨nonempty, solid⟩ := all part List.mem_cons_self
    cases parts with
    | nil => rw [joinWords_singleton, words_of_solid solid nonempty]
    | cons next parts => rw [joinWords_cons_cons, words_append_blank solid nonempty, hypothesis all.tail]

theorem words_joinWords_blank {parts : List (List Char)} (all : AreWords parts) : words (joinWords parts ++ [' ']) = parts := by
  induction parts with
  | nil => rfl
  | cons part parts hypothesis =>
    obtain ⟨nonempty, solid⟩ := all part List.mem_cons_self
    cases parts with
    | nil => rw [joinWords_singleton, words_append_blank solid nonempty, words_nil]
    | cons next parts =>
      rw [joinWords_cons_cons, List.append_assoc, List.cons_append, words_append_blank solid nonempty, hypothesis all.tail]

theorem joinWords_head {part : List Char} {parts : List (List Char)} (all : AreWords (part :: parts)) :
    ∃ c tail, joinWords (part :: parts) = c :: tail ∧ isSpace c = false := by
  obtain ⟨nonempty, solid⟩ := all part List.mem_cons_self
  obtain ⟨c, tail, rfl⟩ := List.exists_cons_of_ne_nil nonempty
  cases parts with
  | nil => exact ⟨c, tail, joinWords_singleton _, solid c List.mem_cons_self⟩
  | cons next parts =>
    rw [joinWords_cons_cons]
    exact ⟨c, _, rfl, solid c List.mem_cons_self⟩

theorem getLast?_joinWords {parts : List (List Char)} (all : AreWords parts) : (joinWords parts).getLast? ≠ some ' ' := by
  induction parts with
  | nil =>
    intro last
    cases last
  | cons part parts hypothesis =>
    cases parts with
    | nil =>
      obtain ⟨nonempty, solid⟩ := all part List.mem_cons_self
      rw [joinWords_singleton]
      intro last
      exact absurd (solid ' ' (List.mem_of_getLast? last)) (by decide)
    | cons next parts =>
      have before := hypothesis all.tail
      obtain ⟨c, tail, begins, -⟩ := joinWords_head all.tail
      rw [joinWords_cons_cons, List.getLast?_append_of_ne_nil _ (List.cons_ne_nil _ _)]
      rw [begins] at before ⊢
      exact before

theorem take_joinWords {parts : List (List Char)} (all : AreWords parts) (n : Nat) :
    ∃ kept, AreWords kept ∧ ((joinWords parts).take n = joinWords kept ∨ (joinWords parts).take n = joinWords kept ++ [' ']) := by
  induction parts generalizing n with
  | nil => exact ⟨[], by simp [AreWords], .inl (List.take_nil)⟩
  | cons part parts hypothesis =>
    obtain ⟨nonempty, solid⟩ := all part List.mem_cons_self
    have short : n ≤ part.length → ∃ kept, AreWords kept ∧ part.take n = joinWords kept := by
      intro small
      cases taken : part.take n with
      | nil => exact ⟨[], by simp [AreWords], rfl⟩
      | cons c rest =>
        refine ⟨[c :: rest], ?_, (joinWords_singleton _).symm⟩
        intro other member
        rw [List.mem_singleton.mp member]
        refine ⟨List.cons_ne_nil _ _, fun d inside => solid d ?_⟩
        rw [← taken] at inside
        exact List.mem_of_mem_take inside
    cases parts with
    | nil =>
      rw [joinWords_singleton]
      by_cases small : n ≤ part.length
      · obtain ⟨kept, words, same⟩ := short small
        exact ⟨kept, words, .inl same⟩
      · rw [List.take_of_length_le (by omega)]
        exact ⟨[part], all, .inl (joinWords_singleton _).symm⟩
    | cons next parts =>
      rw [joinWords_cons_cons]
      by_cases small : n ≤ part.length
      · obtain ⟨kept, words, same⟩ := short small
        rw [List.take_append_of_le_length small]
        exact ⟨kept, words, .inl same⟩
      · obtain ⟨m, rfl⟩ : ∃ m, n = part.length + (m + 1) := ⟨n - part.length - 1, by omega⟩
        rw [List.take_length_add_append, List.take_succ_cons]
        obtain ⟨kept, words, same⟩ := hypothesis all.tail m
        cases kept with
        | nil =>
          refine ⟨[part], fun other member => ?_, .inr ?_⟩
          · rw [List.mem_singleton.mp member]
            exact ⟨nonempty, solid⟩
          · rcases same with same | same
            · rw [same, joinWords_singleton]
              rfl
            · obtain ⟨c, tail, begins, letter⟩ := joinWords_head all.tail
              rw [begins] at same
              cases m with
              | zero => cases same
              | succ m =>
                rw [List.take_succ_cons] at same
                rw [(List.cons.inj same).1] at letter
                exact absurd letter (by decide)
        | cons first others =>
          refine ⟨part :: first :: others, fun other member => ?_, ?_⟩
          · rcases List.mem_cons.mp member with rfl | later
            · exact ⟨nonempty, solid⟩
            · exact words other later
          · rw [joinWords_cons_cons]
            rcases same with same | same
            · exact .inl (by rw [same])
            · exact .inr (by rw [same, List.append_assoc, List.cons_append])

theorem joinWords_words_take (text : List Char) (n : Nat) :
    joinWords (words ((joinWords (words text)).take n)) = (joinWords (words text)).take n ↔
      ((joinWords (words text)).take n).getLast? ≠ some ' ' := by
  obtain ⟨kept, all, same⟩ := take_joinWords (areWords_words text) n
  have clean := getLast?_joinWords all
  rcases same with same | same
  · rw [same, words_joinWords all]
    exact iff_of_true rfl clean
  · rw [same, words_joinWords_blank all]
    apply iff_of_false
    · intro equal
      rw [equal, List.getLast?_concat] at clean
      exact clean rfl
    · rw [List.getLast?_concat]
      exact fun different => different rfl

theorem mem_joinWords {parts : List (List Char)} {c : Char} (inside : c ∈ joinWords parts) : c = ' ' ∨ ∃ part ∈ parts, c ∈ part := by
  induction parts with
  | nil => cases inside
  | cons part parts hypothesis =>
    cases parts with
    | nil =>
      rw [joinWords_singleton] at inside
      exact .inr ⟨part, List.mem_cons_self, inside⟩
    | cons next parts =>
      rw [joinWords_cons_cons, List.mem_append, List.mem_cons] at inside
      rcases inside with here | blank | later
      · exact .inr ⟨part, List.mem_cons_self, here⟩
      · exact .inl blank
      · rcases hypothesis later with blank | ⟨other, listed, here⟩
        · exact .inl blank
        · exact .inr ⟨other, List.mem_cons_of_mem _ listed, here⟩

end OpenAssetWatch.Text
