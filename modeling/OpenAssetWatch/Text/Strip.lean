import OpenAssetWatch.Text.Unicode

namespace OpenAssetWatch.Text

variable {p q : Char → Bool} {c : Char} {text rest : List Char}

theorem stripChars_isPrefix (p : Char → Bool) (text : List Char) : stripChars p text <+: text.dropWhile p := by
  unfold stripChars
  have suffix := List.dropWhile_suffix p (l := (text.dropWhile p).reverse)
  have reversed := List.reverse_prefix.mpr suffix
  rwa [List.reverse_reverse] at reversed

theorem length_stripChars_le (p : Char → Bool) (text : List Char) : (stripChars p text).length ≤ text.length :=
  (stripChars_isPrefix p text).length_le.trans (List.dropWhile_suffix p).length_le

theorem mem_of_mem_stripChars (member : c ∈ stripChars p text) : c ∈ text :=
  (List.dropWhile_suffix p).subset ((stripChars_isPrefix p text).subset member)

/-- What is stripped does not begin with what is stripped off. -/
theorem head_stripChars (stripped : stripChars p text = c :: rest) : p c = false := by
  obtain ⟨last, whole⟩ := stripped ▸ stripChars_isPrefix p text
  have head : (text.dropWhile p).head? = some c := by rw [← whole]; rfl
  by_contra holds
  have stop := List.head?_dropWhile_not p text
  rw [head] at stop
  exact holds stop

theorem dropWhile_append_kept (kept : p c = false) (text : List Char) :
    (text ++ [c]).dropWhile p = text.dropWhile p ++ [c] := by
  induction text with
  | nil => rw [List.nil_append, List.dropWhile_cons_of_neg (by rw [kept]; exact Bool.noConfusion)]; rfl
  | cons d text ih =>
    cases dropped : p d with
    | true => rw [List.cons_append, List.dropWhile_cons_of_pos dropped, List.dropWhile_cons_of_pos dropped, ih]
    | false =>
      have stays : ¬ p d = true := by rw [dropped]; exact Bool.noConfusion
      rw [List.cons_append, List.dropWhile_cons_of_neg stays, List.dropWhile_cons_of_neg stays, List.cons_append]

/-- A first character that is kept stays the first one. -/
theorem stripChars_cons (kept : p c = false) (rest : List Char) : ∃ others, stripChars p (c :: rest) = c :: others := by
  unfold stripChars
  rw [List.dropWhile_cons_of_neg (by rw [kept]; exact Bool.noConfusion), List.reverse_cons, dropWhile_append_kept kept,
    List.reverse_append]
  exact ⟨_, rfl⟩

theorem getLast_stripChars (stripped : stripChars p text = rest ++ [c]) : p c = false := by
  unfold stripChars at stripped
  have reversed := congrArg List.reverse stripped
  rw [List.reverse_reverse, List.reverse_append] at reversed
  have stop := List.head?_dropWhile_not p (text.dropWhile p).reverse
  rw [reversed] at stop
  by_contra holds
  exact holds stop

/-- A text that neither begins nor ends with what is stripped off is left as it is. -/
theorem stripChars_eq_self (first : ∀ c ∈ text.head?, p c = false) (last : ∀ c ∈ text.getLast?, p c = false) :
    stripChars p text = text := by
  have front : text.dropWhile p = text := by
    cases text with
    | nil => rfl
    | cons c rest =>
      apply List.dropWhile_cons_of_neg
      rw [first c rfl]
      exact Bool.noConfusion
  have back : text.reverse.dropWhile p = text.reverse := by
    cases reversed : text.reverse with
    | nil => rfl
    | cons c rest =>
      apply List.dropWhile_cons_of_neg
      rw [last c (by rw [List.getLast?_eq_head?_reverse, reversed]; rfl)]
      exact Bool.noConfusion
  unfold stripChars
  rw [front, back, List.reverse_reverse]

theorem head?_stripChars : ∀ c ∈ (stripChars p text).head?, p c = false := by
  intro c found
  cases stripped : stripChars p text with
  | nil =>
    rw [stripped] at found
    cases found
  | cons d rest =>
    rw [stripped] at found
    cases found
    exact head_stripChars stripped

theorem getLast?_stripChars : ∀ c ∈ (stripChars p text).getLast?, p c = false := by
  intro c found
  obtain ⟨rest, whole⟩ := List.getLast?_eq_some_iff.mp found
  exact getLast_stripChars whole

theorem stripChars_stripChars (p : Char → Bool) (text : List Char) : stripChars p (stripChars p text) = stripChars p text :=
  stripChars_eq_self head?_stripChars getLast?_stripChars

end OpenAssetWatch.Text
