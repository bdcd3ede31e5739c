import OpenAssetWatch.Library.JsonText

namespace Library.JsonText

section Strings

theorem hexValue_hexDigit {n : Nat} (small : n < 16) : hexValue (hexDigit n) = some n := by
  revert n
  decide

theorem readUnit_unicodeEscape {codeUnit : Nat} (small : codeUnit < 65536) :
    readUnit (hexDigit (codeUnit / 4096 % 16)) (hexDigit (codeUnit / 256 % 16)) (hexDigit (codeUnit / 16 % 16))
      (hexDigit (codeUnit % 16)) = some codeUnit := by
  have digit (n : Nat) : hexValue (hexDigit (n % 16)) = some (n % 16) := hexValue_hexDigit (Nat.mod_lt n (by decide))
  have whole : codeUnit / 4096 % 16 * 4096 + codeUnit / 256 % 16 * 256 + codeUnit / 16 % 16 * 16 + codeUnit % 16 = codeUnit := by
    omega
  simp only [readUnit, digit, Option.bind_eq_bind, Option.bind_some, Option.pure_def, whole]

theorem units_unicodeEscape {codeUnit : Nat} (small : codeUnit < 65536) (rest : List Char) :
    units (unicodeEscape codeUnit ++ rest) = (units rest).map fun read => (codeUnit :: read.1, read.2) := by
  show units ('\\' :: 'u' :: _ :: _ :: _ :: _ :: rest) = _
  rw [units, readUnit_unicodeEscape small, Option.bind_some]

/-- The code units of a character. -/
def unitsOf (c : Char) : List Nat :=
  if c.toNat < 0x10000 then [c.toNat] else [(surrogates c.toNat).1, (surrogates c.toNat).2]

theorem toNat_lt (c : Char) : c.toNat < 0x110000 := by
  rcases c.valid with low | high
  · exact low.trans (by decide)
  · exact high.2

theorem units_escape (c : Char) (rest : List Char) :
    units (escape c ++ rest) = (units rest).map fun read => (unitsOf c ++ read.1, read.2) := by
  unfold escape
  split
  case h_8 quote backslash _ _ _ _ _ =>
    split
    · rename_i printable
      have small : c.toNat < 0x10000 := by omega
      rw [List.singleton_append, units.eq_def]
      split
      · rename_i impossible
        cases impossible
      · rename_i same
        exact absurd (List.cons.inj same).1 quote
      · rename_i same
        exact absurd (List.cons.inj same).1 backslash
      · rename_i same
        exact absurd (List.cons.inj same).1 backslash
      · rename_i same
        obtain ⟨rfl, rfl⟩ := List.cons.inj same
        rw [if_neg (by omega), unitsOf, if_pos small]
        rfl
    · split
      · rename_i small
        rw [units_unicodeEscape small, unitsOf, if_pos small]
        rfl
      · rename_i astral
        have bound := toNat_lt c
        rw [List.append_assoc, units_unicodeEscape (by simp only [surrogates]; omega),
          units_unicodeEscape (by simp only [surrogates]; omega), Option.map_map, unitsOf, if_neg astral]
        rfl
  all_goals
    show units ('\\' :: _ :: rest) = _
    rw [units.eq_def]
    rfl

theorem joinUnits_unitsOf (c : Char) (codes : List Nat) :
    joinUnits (unitsOf c ++ codes) = (joinUnits codes).map (c :: ·) := by
  have valid : c.toNat < 0xD800 ∨ 0xDFFF < c.toNat ∧ c.toNat < 0x110000 := c.valid
  unfold unitsOf
  split
  · have plain : (isHigh c.toNat || isLow c.toNat) = false := by
      simp only [isHigh, isLow, Bool.or_eq_false_iff, Bool.and_eq_false_iff, decide_eq_false_iff_not]
      omega
    cases codes with
    | nil =>
      show (if (isHigh c.toNat || isLow c.toNat) = true then none else some [Char.ofNat c.toNat]) = _
      rw [plain, Char.ofNat_toNat]
      rfl
    | cons second codes =>
      have first : isHigh c.toNat = false := (Bool.or_eq_false_iff.mp plain).1
      rw [List.singleton_append, joinUnits, first, Bool.false_and, if_neg Bool.false_ne_true,
        if_neg (by rw [← first, plain]; exact Bool.false_ne_true), Char.ofNat_toNat]
  · rename_i astral
    have high : isHigh (surrogates c.toNat).1 = true := by
      rw [isHigh, Bool.and_eq_true, decide_eq_true_eq, decide_eq_true_eq]
      simp only [surrogates]
      omega
    have low : isLow (surrogates c.toNat).2 = true := by
      rw [isLow, Bool.and_eq_true, decide_eq_true_eq, decide_eq_true_eq]
      simp only [surrogates]
      omega
    have whole : 0x10000 + ((surrogates c.toNat).1 - 0xD800) * 1024 + ((surrogates c.toNat).2 - 0xDC00) = c.toNat := by
      simp only [surrogates]
      omega
    show joinUnits ((surrogates c.toNat).1 :: (surrogates c.toNat).2 :: codes) = _
    rw [joinUnits.eq_def]
    dsimp only
    rw [high, low, Bool.and_true, if_pos rfl, whole, Char.ofNat_toNat]

theorem units_flatMap (text rest : List Char) :
    units (text.flatMap escape ++ '"' :: rest) = some (text.flatMap unitsOf, rest) := by
  induction text with
  | nil => rfl
  | cons c text ih =>
    rw [List.flatMap_cons, List.append_assoc, units_escape, ih]
    rfl

theorem joinUnits_flatMap (text : List Char) : joinUnits (text.flatMap unitsOf) = some text := by
  induction text with
  | nil => rfl
  | cons c text ih =>
    rw [List.flatMap_cons, joinUnits_unitsOf, ih]
    rfl

/-- A printed string is read back. -/
theorem readString_printString (text rest : List Char) :
    readString (text.flatMap escape ++ '"' :: rest) = some (text, rest) := by
  rw [readString, units_flatMap, Option.bind_some, joinUnits_flatMap]
  rfl

end Strings

section Blanks

theorem skip_append {blanks : List Char} (blank : ∀ c ∈ blanks, isBlank c = true) (rest : List Char) :
    skip (blanks ++ rest) = skip rest :=
  List.dropWhile_append_of_pos blank

theorem skip_cons {c : Char} (solid : isBlank c = false) (rest : List Char) : skip (c :: rest) = c :: rest := by
  rw [skip, List.dropWhile_cons_of_neg]
  rw [solid]
  exact Bool.false_ne_true

end Blanks

/-- What may follow a number: the end, a blank, a comma or a closing bracket. -/
def Delimited (rest : List Char) : Prop := ∀ c ∈ rest.head?, isBlank c = true ∨ c = ',' ∨ c = ']' ∨ c = '}'

/-- A literal that the reader takes for a number, whatever delimiter follows. -/
structure IsNumber (literal : List Char) : Prop where
  begins : ∃ c tail, literal = c :: tail ∧ (c = '-' ∨ isDigit c = true ∨ c = 'N' ∨ c = 'I')
  reads : ∀ rest, Delimited rest → readScalar (literal ++ rest) = some (.number literal, rest)

theorem Delimited.head_ne {rest : List Char} (delimited : Delimited rest) {c : Char} (head : rest.head? = some c) :
    isDigit c = false ∧ c ≠ '.' ∧ c ≠ 'e' ∧ c ≠ 'E' := by
  rcases delimited c head with blank | rfl | rfl | rfl
  · simp only [isBlank, Bool.or_eq_true, decide_eq_true_eq] at blank
    rcases blank with ((rfl | rfl) | rfl) | rfl <;> exact ⟨rfl, by decide, by decide, by decide⟩
  all_goals exact ⟨rfl, by decide, by decide, by decide⟩

/-- A literal is a number when it is read as a natural number in front of every delimiter. -/
theorem isNumber_of_natural {c : Char} {tail : List Char} (lead : isDigit c = true)
    (natural : ∀ rest, Delimited rest → readNatural (c :: (tail ++ rest)) = some (c :: tail, rest)) : IsNumber (c :: tail) := by
  refine ⟨⟨c, tail, rfl, .inr (.inl lead)⟩, ?_⟩
  intro rest delimited
  have fraction : readFraction rest = ([], rest) := by
    unfold readFraction
    split
    · exact absurd rfl (delimited.head_ne rfl).2.1
    · rfl
  have power : readExponent rest = ([], rest) := by
    unfold readExponent
    split
    · obtain ⟨-, -, lower, upper⟩ := delimited.head_ne rfl
      exact if_neg fun either => either.elim lower upper
    · rfl
  have unsigned : readUnsigned (c :: (tail ++ rest)) = some (c :: tail, rest) := by
    rw [readUnsigned, natural rest delimited, Option.map_some]
    simp only [fraction, power, List.append_nil]
  rw [List.cons_append]
  unfold readScalar
  split
  all_goals try
    rename_i same
    rw [(List.cons.inj same).1] at lead
    exact absurd lead (by decide)
  rw [unsigned]
  rfl

theorem isNumber_zero : IsNumber ['0'] := isNumber_of_natural rfl fun _ _ => rfl

/-- Digits that do not start with a zero are a number. -/
theorem isNumber_of_digits {c : Char} {tail : List Char} (lead : isDigit c = true) (nonzero : c ≠ '0')
    (digits : ∀ d ∈ tail, isDigit d = true) : IsNumber (c :: tail) := by
  apply isNumber_of_natural lead
  intro rest delimited
  have taken : (tail ++ rest).takeWhile isDigit = tail := by
    rw [List.takeWhile_append_of_pos digits]
    cases rest with
    | nil => exact List.append_nil _
    | cons d rest => rw [List.takeWhile_cons_of_neg (by rw [(delimited.head_ne rfl).1]; exact Bool.false_ne_true),
      List.append_nil]
  have left : (tail ++ rest).dropWhile isDigit = rest := by
    rw [List.dropWhile_append_of_pos digits]
    cases rest with
    | nil => rfl
    | cons d rest => exact List.dropWhile_cons_of_neg (by rw [(delimited.head_ne rfl).1]; exact Bool.false_ne_true)
  unfold readNatural
  split
  · rename_i same
    exact absurd (List.cons.inj same).1 nonzero
  · rename_i same
    obtain ⟨rfl, rfl⟩ := List.cons.inj same
    rw [if_pos lead, taken, left]
  · rename_i same
    cases same

mutual

/-- The numbers of a document are literals. -/
def NumbersRead : JsonDoc → Prop
  | .number literal => IsNumber literal
  | .array items => ItemsRead items
  | .object entries => EntriesRead entries
  | _ => True

def ItemsRead : List JsonDoc → Prop
  | [] => True
  | item :: items => NumbersRead item ∧ ItemsRead items

def EntriesRead : List (List Char × JsonDoc) → Prop
  | [] => True
  | (_, value) :: entries => NumbersRead value ∧ EntriesRead entries

end

mutual

/-- The turns that the reader takes for a document. -/
def turns : JsonDoc → Nat
  | .array items => 1 + itemTurns items
  | .object entries => 1 + entryTurns entries
  | _ => 1

def itemTurns : List JsonDoc → Nat
  | [] => 0
  | item :: items => 1 + turns item + itemTurns items

def entryTurns : List (List Char × JsonDoc) → Nat
  | [] => 0
  | (_, value) :: entries => 1 + turns value + entryTurns entries

end

section RoundTrip

variable (layout : Layout)

theorem print_head {doc : JsonDoc} (numbers : NumbersRead doc) (depth : Nat) :
    ∃ c tail, print layout depth doc = c :: tail ∧ isBlank c = false ∧ c ≠ ']' := by
  cases doc with
  | null => exact ⟨_, _, rfl, rfl, by decide⟩
  | bool value => cases value <;> exact ⟨_, _, rfl, rfl, by decide⟩
  | number literal =>
    obtain ⟨c, tail, rfl, first⟩ := numbers.begins
    refine ⟨c, tail, rfl, ?_, ?_⟩
    · rcases first with rfl | digit | rfl | rfl
      · rfl
      · rw [Bool.eq_false_iff]
        intro blank
        simp only [isBlank, Bool.or_eq_true, decide_eq_true_eq] at blank
        rcases blank with ((rfl | rfl) | rfl) | rfl <;> exact absurd digit (by decide)
      · rfl
      · rfl
    · rcases first with rfl | digit | rfl | rfl
      · decide
      · rintro rfl
        exact absurd digit (by decide)
      · decide
      · decide
  | string text => exact ⟨_, _, rfl, rfl, by decide⟩
  | array items => cases items <;> exact ⟨_, _, rfl, rfl, by decide⟩
  | object entries => rcases entries with _ | ⟨⟨key, value⟩, entries⟩ <;> exact ⟨_, _, rfl, rfl, by decide⟩

theorem skip_line {doc : JsonDoc} (numbers : NumbersRead doc) {blanks : List Char} (blank : ∀ c ∈ blanks, isBlank c = true)
    (depth : Nat) (rest : List Char) :
    skip (blanks ++ (print layout depth doc ++ rest)) = print layout depth doc ++ rest := by
  obtain ⟨c, tail, begins, solid, -⟩ := print_head layout numbers depth
  rw [skip_append blank, begins, List.cons_append, skip_cons solid]

theorem delimited_line {c : Char} (closes : c = ']' ∨ c = '}') (depth : Nat) (rest : List Char) :
    Delimited (layout.line depth ++ c :: rest) := by
  intro first head
  cases blanks : layout.line depth with
  | nil =>
    rw [blanks] at head
    rw [← Option.mem_some_iff.mp head]
    exact .inr (.inr closes)
  | cons blank line =>
    rw [blanks] at head
    rw [← Option.mem_some_iff.mp head]
    exact .inl (layout.line_blank depth blank (by rw [blanks]; exact List.mem_cons_self))

theorem skip_closing {c : Char} (closes : c = ']' ∨ c = '}') (depth : Nat) (rest : List Char) :
    skip (layout.line depth ++ c :: rest) = c :: rest := by
  rw [skip_append (layout.line_blank depth), skip_cons]
  rcases closes with rfl | rfl <;> rfl

variable {value : List Char → Option (JsonDoc × List Char)}

theorem readItems_print {depth : Nat} (outer : Nat) (items : List JsonDoc) (item : JsonDoc) (numbers : ItemsRead (item :: items))
    (reads : ∀ doc ∈ item :: items, ∀ rest, Delimited rest → value (print layout depth doc ++ rest) = some (doc, rest))
    {fuel : Nat} (enough : items.length < fuel) (rest : List Char) :
    readItems value fuel (print layout depth item ++ printItems layout depth items ++ layout.line outer ++ ']' :: rest) =
      some (item :: items, rest) := by
  induction items generalizing item fuel with
  | nil =>
    obtain ⟨fuel, rfl⟩ := Nat.exists_eq_add_one.mpr enough
    rw [printItems, List.append_nil, List.append_assoc, readItems,
      reads item List.mem_cons_self _ (delimited_line layout (.inl rfl) outer rest), Option.bind_some]
    dsimp only
    rw [skip_closing layout (.inl rfl)]
    exact if_pos rfl
  | cons next items ih =>
    obtain ⟨fuel, rfl⟩ := Nat.exists_eq_add_one.mpr (Nat.zero_lt_of_lt enough)
    have delimited (tail : List Char) : Delimited (',' :: tail) := by
      intro c head
      rw [← Option.mem_some_iff.mp head]
      exact .inr (.inl rfl)
    rw [printItems]
    simp only [List.append_assoc, List.cons_append]
    rw [readItems, reads item List.mem_cons_self _ (delimited _), Option.bind_some]
    dsimp only
    rw [skip_cons (by rfl)]
    dsimp only
    rw [if_neg (by decide), if_pos rfl, skip_line layout numbers.2.1 (layout.line_blank depth)]
    have tail := ih next numbers.2 (fun doc member => reads doc (List.mem_cons_of_mem _ member)) (Nat.lt_of_succ_lt_succ enough)
    simp only [List.append_assoc] at tail
    rw [tail]
    rfl

theorem readEntries_print {depth : Nat} (outer : Nat) (entries : List (List Char × JsonDoc)) (key : List Char) (doc : JsonDoc)
    (numbers : EntriesRead ((key, doc) :: entries))
    (reads : ∀ entry ∈ (key, doc) :: entries, ∀ rest, Delimited rest →
      value (print layout depth entry.2 ++ rest) = some (entry.2, rest))
    {fuel : Nat} (enough : entries.length < fuel) (rest : List Char) :
    readEntries value fuel (printString key ++ ':' :: (layout.colon ++ print layout depth doc) ++
      printEntries layout depth entries ++ layout.line outer ++ '}' :: rest) = some ((key, doc) :: entries, rest) := by
  induction entries generalizing key doc fuel with
  | nil =>
    obtain ⟨fuel, rfl⟩ := Nat.exists_eq_add_one.mpr enough
    simp only [printEntries, printString, List.append_nil, List.append_assoc, List.cons_append, List.nil_append]
    rw [readEntries, if_neg (by simp), readString_printString, Option.bind_some]
    dsimp only
    rw [skip_cons (by rfl)]
    dsimp only
    rw [if_neg (by simp), skip_line layout numbers.1 layout.colon_blank,
      reads (key, doc) List.mem_cons_self _ (delimited_line layout (.inr rfl) outer rest), Option.bind_some]
    dsimp only
    rw [skip_closing layout (.inr rfl)]
    exact if_pos rfl
  | cons next entries ih =>
    obtain ⟨nextKey, nextDoc⟩ := next
    obtain ⟨fuel, rfl⟩ := Nat.exists_eq_add_one.mpr (Nat.zero_lt_of_lt enough)
    have delimited (tail : List Char) : Delimited (',' :: tail) := by
      intro c head
      rw [← Option.mem_some_iff.mp head]
      exact .inr (.inl rfl)
    rw [printEntries]
    have tail := ih nextKey nextDoc numbers.2 (fun entry member => reads entry (List.mem_cons_of_mem _ member))
      (Nat.lt_of_succ_lt_succ enough)
    simp only [printString, List.append_assoc, List.cons_append, List.nil_append] at tail ⊢
    rw [readEntries, if_neg (by simp), readString_printString, Option.bind_some]
    dsimp only
    rw [skip_cons (by rfl)]
    dsimp only
    rw [if_neg (by simp), skip_line layout numbers.1 layout.colon_blank, reads (key, doc) List.mem_cons_self _ (delimited _),
      Option.bind_some]
    dsimp only
    rw [skip_cons (by rfl)]
    dsimp only
    rw [if_neg (by decide), if_pos rfl, skip_append (layout.line_blank depth), skip_cons (by rfl), tail]
    rfl

theorem turns_le_of_mem {item : JsonDoc} {items : List JsonDoc} (member : item ∈ items) : turns item < itemTurns items := by
  induction items with
  | nil => cases member
  | cons first items ih =>
    rw [itemTurns]
    rcases List.mem_cons.mp member with rfl | later
    · omega
    · have := ih later
      omega

theorem turns_le_of_mem_entries {entry : List Char × JsonDoc} {entries : List (List Char × JsonDoc)} (member : entry ∈ entries) :
    turns entry.2 < entryTurns entries := by
  induction entries with
  | nil => cases member
  | cons first entries ih =>
    rw [entryTurns]
    rcases List.mem_cons.mp member with rfl | later
    · omega
    · have := ih later
      omega

theorem length_le_itemTurns (items : List JsonDoc) : items.length ≤ itemTurns items := by
  induction items with
  | nil => exact Nat.le_refl 0
  | cons item items ih =>
    rw [itemTurns, List.length_cons]
    omega

theorem length_le_entryTurns (entries : List (List Char × JsonDoc)) : entries.length ≤ entryTurns entries := by
  induction entries with
  | nil => exact Nat.le_refl 0
  | cons entry entries ih =>
    rw [entryTurns, List.length_cons]
    omega

theorem numbersRead_of_mem {item : JsonDoc} {items : List JsonDoc} (numbers : ItemsRead items) (member : item ∈ items) :
    NumbersRead item := by
  induction items with
  | nil => cases member
  | cons first items ih =>
    rcases List.mem_cons.mp member with rfl | later
    · exact numbers.1
    · exact ih numbers.2 later

theorem numbersRead_of_mem_entries {entry : List Char × JsonDoc} {entries : List (List Char × JsonDoc)}
    (numbers : EntriesRead entries) (member : entry ∈ entries) : NumbersRead entry.2 := by
  induction entries with
  | nil => cases member
  | cons first entries ih =>
    rcases List.mem_cons.mp member with rfl | later
    · exact numbers.1
    · exact ih numbers.2 later

/-- A printed document is read back, in any layout. -/
theorem readValue_print (fuel : Nat) (doc : JsonDoc) (numbers : NumbersRead doc) (enough : turns doc ≤ fuel) (depth : Nat)
    (rest : List Char) (delimited : Delimited rest) :
    readValue fuel (print layout depth doc ++ rest) = some (doc, rest) := by
  induction fuel generalizing doc depth rest with
  | zero => exact absurd enough (by cases doc <;> simp [turns])
  | succ fuel ih =>
    cases doc with
    | null => rfl
    | bool value => cases value <;> rfl
    | number literal =>
      obtain ⟨c, tail, rfl, first⟩ := numbers.begins
      have reads := numbers.reads rest delimited
      have other (d : Char) (plain : ¬ (d = '-' ∨ isDigit d = true ∨ d = 'N' ∨ d = 'I')) : c ≠ d := by
        rintro rfl
        exact plain first
      rw [print, List.cons_append, readValue, if_neg (other '"' (by decide)), if_neg (other '[' (by decide)),
        if_neg (other '{' (by decide))]
      exact reads
    | string text =>
      rw [print, printString, List.cons_append, List.append_assoc, readValue, if_pos rfl, List.singleton_append,
        readString_printString]
      rfl
    | array items =>
      cases items with
      | nil => rfl
      | cons item items =>
        obtain ⟨c, tail, begins, solid, other⟩ := print_head layout numbers.1 (depth + 1)
        rw [turns] at enough
        rw [print]
        simp only [List.cons_append, List.append_assoc, List.nil_append]
        rw [readValue, if_neg (by decide), if_pos rfl, skip_line layout numbers.1 (layout.line_blank (depth + 1))]
        have short : items.length < fuel := by
          have := length_le_itemTurns (item :: items)
          rw [List.length_cons] at this
          omega
        have reads : ∀ doc ∈ item :: items, ∀ rest, Delimited rest →
            readValue fuel (print layout (depth + 1) doc ++ rest) = some (doc, rest) :=
          fun doc member rest delimited => ih doc (numbersRead_of_mem numbers member)
            (by have := turns_le_of_mem member; omega) _ _ delimited
        have read := readItems_print layout depth items item numbers reads short rest
        simp only [List.append_assoc] at read
        rw [if_neg, read]
        · rfl
        · rw [begins]
          exact fun same => other (Option.some_inj.mp same)
    | object entries =>
      rcases entries with _ | ⟨⟨key, value⟩, entries⟩
      · rfl
      · rw [turns] at enough
        rw [print]
        simp only [List.cons_append, List.append_assoc, List.nil_append]
        have short : entries.length < fuel := by
          have := length_le_entryTurns ((key, value) :: entries)
          rw [List.length_cons] at this
          omega
        have reads : ∀ entry ∈ (key, value) :: entries, ∀ rest, Delimited rest →
            readValue fuel (print layout (depth + 1) entry.2 ++ rest) = some (entry.2, rest) :=
          fun entry member rest delimited => ih entry.2 (numbersRead_of_mem_entries numbers member)
            (by have := turns_le_of_mem_entries member; omega) _ _ delimited
        have read := readEntries_print layout depth entries key value numbers reads short rest
        simp only [printString, List.cons_append, List.append_assoc, List.nil_append] at read ⊢
        rw [readValue, if_neg (by decide), if_neg (by decide), if_pos rfl, skip_append (layout.line_blank (depth + 1)),
          skip_cons (by rfl), if_neg (by simp), read]
        rfl

mutual

theorem turns_le_length (depth : Nat) : (doc : JsonDoc) → NumbersRead doc → turns doc ≤ (print layout depth doc).length
  | .null, _ => by simp [turns, print]
  | .bool value, _ => by cases value <;> simp [turns, print]
  | .number literal, numbers => by
    obtain ⟨c, tail, rfl, -⟩ := numbers.begins
    simp [turns, print]
  | .string text, _ => by simp [turns, print, printString]
  | .array [], _ => by simp [turns, itemTurns, print]
  | .array (item :: items), numbers => by
    have first := turns_le_length (depth + 1) item numbers.1
    have others := itemTurns_le_length (depth + 1) items numbers.2
    simp only [turns, itemTurns, print, List.length_cons, List.length_append]
    omega
  | .object [], _ => by simp [turns, entryTurns, print]
  | .object ((key, value) :: entries), numbers => by
    have first := turns_le_length (depth + 1) value numbers.1
    have others := entryTurns_le_length (depth + 1) entries numbers.2
    simp only [turns, entryTurns, print, List.length_cons, List.length_append]
    omega

theorem itemTurns_le_length (depth : Nat) :
    (items : List JsonDoc) → ItemsRead items → itemTurns items ≤ (printItems layout depth items).length
  | [], _ => Nat.zero_le _
  | item :: items, numbers => by
    have first := turns_le_length depth item numbers.1
    have others := itemTurns_le_length depth items numbers.2
    simp only [itemTurns, printItems, List.length_cons, List.length_append]
    omega

theorem entryTurns_le_length (depth : Nat) :
    (entries : List (List Char × JsonDoc)) → EntriesRead entries →
      entryTurns entries ≤ (printEntries layout depth entries).length
  | [], _ => Nat.zero_le _
  | (key, value) :: entries, numbers => by
    have first := turns_le_length depth value numbers.1
    have others := entryTurns_le_length depth entries numbers.2
    simp only [entryTurns, printEntries, List.length_cons, List.length_append]
    omega

end

/-- Reading undoes printing. -/
theorem loads_print (doc : JsonDoc) (numbers : NumbersRead doc) {trailing : List Char}
    (blank : ∀ c ∈ trailing, isBlank c = true) :
    loads (print layout 0 doc ++ trailing) = some doc := by
  have start : skip (print layout 0 doc ++ trailing) = print layout 0 doc ++ trailing :=
    skip_line layout numbers (by simp : ∀ c ∈ ([] : List Char), isBlank c = true) 0 trailing
  have delimited : Delimited trailing := by
    intro c head
    exact .inl (blank c (List.mem_of_mem_head? head))
  have enough : turns doc ≤ (print layout 0 doc ++ trailing).length + 1 := by
    have := turns_le_length layout 0 doc numbers
    rw [List.length_append]
    omega
  have none : skip trailing = [] := List.dropWhile_eq_nil_iff.mpr blank
  rw [loads, start, readValue_print layout _ doc numbers enough 0 trailing delimited]
  dsimp only
  rw [if_pos none]

end RoundTrip

end Library.JsonText
