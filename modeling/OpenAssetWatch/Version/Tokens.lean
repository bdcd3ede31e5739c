import OpenAssetWatch.Version.Compare

namespace OpenAssetWatch.Version

/-- `[epoch:]rest`; a missing epoch is zero. -/
def WritesEpoch (value : List Char) (epoch : Nat) (rest : List Char) : Prop :=
  (∃ digits, isNumeric digits ∧ value = digits ++ ':' :: rest ∧ epoch = number digits) ∨
    (':' ∉ value ∧ epoch = 0 ∧ rest = value)

theorem safeVersion_length {value : List Char} (h : safeVersion value) : value.length ≤ 160 := by
  simp only [safeVersion, Bool.and_eq_true, decide_eq_true_eq] at h
  exact h.1.2

theorem colon_not_digit {digits : List Char} (h : isNumeric digits) : ∀ c ∈ digits, (c != ':') = true := by
  intro c member
  simp only [isNumeric, Bool.and_eq_true, List.all_eq_true] at h
  have digit := h.2 c member
  rw [bne_iff_ne]
  intro colon
  rw [colon] at digit
  exact absurd digit (by decide)

theorem splitEpoch_writes {value rest : List Char} {epoch : Nat} (h : WritesEpoch value epoch rest) :
    splitEpoch value = .ok (epoch, rest) := by
  rcases h with ⟨digits, numeric, rfl, rfl⟩ | ⟨none, rfl, rfl⟩
  · have before : (digits ++ ':' :: rest).takeWhile (· != ':') = digits := by
      rw [List.takeWhile_append_of_pos (colon_not_digit numeric), List.takeWhile_cons_of_neg (by decide), List.append_nil]
    have after : (digits ++ ':' :: rest).dropWhile (· != ':') = ':' :: rest := by
      rw [List.dropWhile_append_of_pos (colon_not_digit numeric), List.dropWhile_cons_of_neg (by decide)]
    have colon : (digits ++ ':' :: rest).contains ':' = true := by
      rw [List.contains_iff_mem]
      exact List.mem_append_right _ List.mem_cons_self
    simp only [splitEpoch, colon, if_true, before, after, numeric, List.tail_cons]
  · have colon : rest.contains ':' = false := by
      rw [← Bool.not_eq_true, List.contains_iff_mem]
      exact none
    simp only [splitEpoch, colon, Bool.false_eq_true, if_false]

theorem writes_splitEpoch {value rest : List Char} {epoch : Nat} (h : splitEpoch value = .ok (epoch, rest)) :
    WritesEpoch value epoch rest := by
  unfold splitEpoch at h
  split at h
  · rename_i colon
    dsimp only at h
    split at h
    · rename_i numeric
      cases h
      refine Or.inl ⟨_, numeric, ?_, rfl⟩
      cases shape : value.dropWhile (· != ':') with
      | nil =>
        rw [List.dropWhile_eq_nil_iff] at shape
        exact absurd (shape ':' (List.contains_iff_mem.mp colon)) (by decide)
      | cons c rest =>
        have stops := List.head?_dropWhile_not (· != ':') value
        rw [shape, List.head?_cons] at stops
        have first : c = ':' := by simpa using stops
        rw [List.tail_cons]
        calc value = value.takeWhile (· != ':') ++ value.dropWhile (· != ':') := List.takeWhile_append_dropWhile.symm
          _ = value.takeWhile (· != ':') ++ ':' :: rest := by rw [shape, first]
    · cases h
  · rename_i colon
    cases h
    exact Or.inr ⟨fun member => colon (List.contains_iff_mem.mpr member), rfl, rfl⟩

theorem splitEpoch_error {value : List Char} {error : Raised} (h : splitEpoch value = .error error) :
    error = .valueError "invalid epoch" := by
  unfold splitEpoch at h
  split at h
  · dsimp only at h
    split at h
    · cases h
    · cases h
      rfl
  · cases h

theorem splitEpoch_length {value rest : List Char} {epoch : Nat} (h : WritesEpoch value epoch rest) :
    rest.length ≤ value.length := by
  rcases h with ⟨digits, -, rfl, -⟩ | ⟨-, -, rfl⟩
  · rw [List.length_append, List.length_cons]
    omega
  · exact Nat.le_refl _

variable {alone : Char → Bool}

theorem findTokens_nil : findTokens alone [] = [] := rfl

theorem findTokens_append {left right : List Char}
    (cut : ∀ a ∈ left.getLast?, ∀ b ∈ right.head?, sameRun a b = false) :
    findTokens alone (left ++ right) = findTokens alone left ++ findTokens alone right := by
  rw [findTokens, List.splitBy_append cut, List.filter_append]
  rfl

section Run

variable {c : Char} {rest : List Char} {inRun : Char → Bool}

theorem splitBy_run (together : ∀ a b, inRun a → inRun b → sameRun a b) {run : List Char} (some : run ≠ [])
    (all : ∀ a ∈ run, inRun a) : run.splitBy sameRun = [run] := by
  apply List.splitBy_of_isChain some
  apply List.Pairwise.isChain
  exact List.pairwise_of_forall_mem_list fun a ha b hb => together a b (all a ha) (all b hb)

theorem findTokens_run (together : ∀ a b, inRun a → inRun b → sameRun a b)
    (apart : ∀ a b, inRun a → inRun b = false → sameRun a b = false) (kept : ∀ a, inRun a → a.isAlphanum)
    (starts : inRun c) :
    findTokens alone (c :: rest) = (c :: rest.takeWhile inRun) :: findTokens alone (rest.dropWhile inRun) := by
  have all : ∀ a ∈ c :: rest.takeWhile inRun, inRun a := by
    intro a member
    rcases List.mem_cons.mp member with rfl | later
    · exact starts
    · exact List.mem_takeWhile_imp later
  have whole : c :: rest = (c :: rest.takeWhile inRun) ++ rest.dropWhile inRun := by
    rw [List.cons_append, List.takeWhile_append_dropWhile]
  have single : findTokens alone (c :: rest.takeWhile inRun) = [c :: rest.takeWhile inRun] := by
    rw [findTokens, splitBy_run together (List.cons_ne_nil _ _) all, List.filter_cons_of_pos]
    · rfl
    · rw [List.all_eq_true]
      intro a member
      rw [kept a (all a member), Bool.true_or]
  rw [whole, findTokens_append, single]
  · rfl
  · intro a last b first
    apply apart a b (all a (List.mem_of_getLast? last))
    have stops := List.head?_dropWhile_not inRun rest
    rw [Option.mem_def.mp first] at stops
    exact stops

end Run

theorem isAlpha_range {c : Char} (h : c.isAlpha) : 65 ≤ c.toNat ∧ c.toNat ≤ 122 := by
  simp only [Char.isAlpha, Char.isUpper, Char.isLower, Bool.or_eq_true, Bool.and_eq_true, decide_eq_true_eq] at h
  have bounds : ∀ {low high : Char}, c.val ≥ low.val → c.val ≤ high.val → low.toNat ≤ c.toNat ∧ c.toNat ≤ high.toNat :=
    fun h h' => ⟨UInt32.le_iff_toNat_le.mp h, UInt32.le_iff_toNat_le.mp h'⟩
  have marks : 'A'.toNat = 65 ∧ 'Z'.toNat = 90 ∧ 'a'.toNat = 97 ∧ 'z'.toNat = 122 := by decide
  rcases h with h | h <;> have := bounds h.1 h.2 <;> omega

theorem digit_not_alpha {c : Char} (digit : c.isDigit) : c.isAlpha = false := by
  rw [← Bool.not_eq_true]
  intro alpha
  have letter := isAlpha_range alpha
  simp only [Char.isDigit, Bool.and_eq_true, decide_eq_true_eq] at digit
  have high : c.toNat ≤ '9'.toNat := UInt32.le_iff_toNat_le.mp digit.2
  have mark : '9'.toNat = 57 := rfl
  omega

theorem findTokens_digit {c : Char} {rest : List Char} (digit : c.isDigit) :
    findTokens alone (c :: rest) =
      (c :: rest.takeWhile Char.isDigit) :: findTokens alone (rest.dropWhile Char.isDigit) := by
  apply findTokens_run
  · intro a b ha hb
    rw [sameRun, ha, hb]
    rfl
  · intro a b ha hb
    rw [sameRun, hb, digit_not_alpha ha, Bool.and_false, Bool.false_and]
    rfl
  · intro a ha
    rw [Char.isAlphanum, ha, Bool.or_true]
  · exact digit

theorem findTokens_alpha {c : Char} {rest : List Char} (alpha : c.isAlpha) :
    findTokens alone (c :: rest) =
      (c :: rest.takeWhile Char.isAlpha) :: findTokens alone (rest.dropWhile Char.isAlpha) := by
  have notDigit : ∀ {a : Char}, a.isAlpha → a.isDigit = false := by
    intro a letter
    rw [← Bool.not_eq_true]
    intro digit
    rw [digit_not_alpha digit] at letter
    cases letter
  apply findTokens_run
  · intro a b ha hb
    rw [sameRun, ha, hb, Bool.and_true, Bool.or_true]
  · intro a b ha hb
    rw [sameRun, hb, notDigit ha, Bool.and_false, Bool.false_and]
    rfl
  · intro a ha
    rw [Char.isAlphanum, ha, Bool.true_or]
  · exact alpha

theorem findTokens_other {c : Char} {rest : List Char} (digit : c.isDigit = false) (alpha : c.isAlpha = false) :
    findTokens alone (c :: rest) =
      if alone c then [c] :: findTokens alone rest else findTokens alone rest := by
  have whole : c :: rest = [c] ++ rest := rfl
  have single : findTokens alone [c] = if alone c then [[c]] else [] := by
    have group : [c].splitBy sameRun = [[c]] := List.splitBy_of_isChain (List.cons_ne_nil _ _) (List.isChain_singleton _)
    rw [findTokens, group, List.filter_singleton]
    simp only [List.all_cons, List.all_nil, Bool.and_true, Char.isAlphanum, digit, alpha, Bool.or_false, Bool.false_or]
    cases alone c <;> rfl
  rw [whole, findTokens_append, single]
  · split <;> rfl
  · intro a last b _
    have same : a = c := (Option.some.inj last).symm
    rw [same, sameRun, digit, alpha]
    rfl

end OpenAssetWatch.Version
