import OpenAssetWatch.Library.JsonRoundTrip

namespace Library.JsonText

section Folding

variable {α : Type} (scalar : JsonDoc → α) (array : List α → α) (object : List (List Char × α) → α)

mutual

/-- A value computed from the values of the parts. -/
def fold : JsonDoc → α
  | .array items => array (foldItems items)
  | .object entries => object (foldEntries entries)
  | doc => scalar doc

def foldItems : List JsonDoc → List α
  | [] => []
  | item :: items => fold item :: foldItems items

def foldEntries : List (List Char × JsonDoc) → List (List Char × α)
  | [] => []
  | (key, value) :: entries => (key, fold value) :: foldEntries entries

end

theorem foldItems_eq_map (items : List JsonDoc) : foldItems scalar array object items = items.map (fold scalar array object) := by
  induction items with
  | nil => rfl
  | cons item items hypothesis => rw [foldItems, List.map_cons, hypothesis]

theorem foldEntries_eq_map (entries : List (List Char × JsonDoc)) :
    foldEntries scalar array object entries = entries.map fun entry => (entry.1, fold scalar array object entry.2) := by
  induction entries with
  | nil => rfl
  | cons entry entries hypothesis => rw [foldEntries, List.map_cons, hypothesis]

theorem fold_array (items : List JsonDoc) :
    fold scalar array object (.array items) = array (items.map (fold scalar array object)) := by
  rw [fold, foldItems_eq_map]

theorem fold_object (entries : List (List Char × JsonDoc)) :
    fold scalar array object (.object entries) = object (entries.map fun entry => (entry.1, fold scalar array object entry.2)) := by
  rw [fold, foldEntries_eq_map]

end Folding

/-- The values in a document, itself included. -/
def nodes : JsonDoc → Nat := fold (fun _ => 1) (fun items => 1 + items.sum) fun entries => 1 + (entries.map (·.2)).sum

/-- How deep the values of a document are nested. -/
def nesting : JsonDoc → Nat :=
  fold (fun _ => 1) (fun items => 1 + items.foldr max 0) fun entries => 1 + (entries.map (·.2)).foldr max 0

/-- The length of the longest string; the keys do not count. -/
def longest : JsonDoc → Nat :=
  fold (fun | .string text => text.length | _ => 0) (·.foldr max 0) fun entries => (entries.map (·.2)).foldr max 0

/-- No object has a key twice. -/
def distinctKeys : JsonDoc → Bool :=
  fold (fun _ => true) (·.all id) fun entries => decide (entries.map (·.1)).Nodup && entries.all (·.2)

/-- The length of a text once it is escaped. -/
def escapedLength (text : List Char) : Nat := (text.flatMap escape).length

/-- The length of what the compact layout prints. -/
def width : JsonDoc → Nat :=
  fold (fun | .string text => escapedLength text + 2 | doc => (print compact 0 doc).length)
    (fun items => 2 + items.sum + (items.length - 1))
    fun entries => 2 + (entries.map fun entry => escapedLength entry.1 + 3 + entry.2).sum + (entries.length - 1)

section Equations

@[simp] theorem nodes_array (items : List JsonDoc) : nodes (.array items) = 1 + (items.map nodes).sum := fold_array ..

@[simp] theorem nodes_object (entries : List (List Char × JsonDoc)) :
    nodes (.object entries) = 1 + (entries.map fun entry => nodes entry.2).sum := by
  unfold nodes
  rw [fold_object, List.map_map]
  rfl

@[simp] theorem nesting_array (items : List JsonDoc) : nesting (.array items) = 1 + (items.map nesting).foldr max 0 :=
  fold_array ..

@[simp] theorem nesting_object (entries : List (List Char × JsonDoc)) :
    nesting (.object entries) = 1 + (entries.map fun entry => nesting entry.2).foldr max 0 := by
  unfold nesting
  rw [fold_object, List.map_map]
  rfl

@[simp] theorem longest_array (items : List JsonDoc) : longest (.array items) = (items.map longest).foldr max 0 := fold_array ..

@[simp] theorem longest_object (entries : List (List Char × JsonDoc)) :
    longest (.object entries) = (entries.map fun entry => longest entry.2).foldr max 0 := by
  unfold longest
  rw [fold_object, List.map_map]
  rfl

@[simp] theorem distinctKeys_array (items : List JsonDoc) : distinctKeys (.array items) = items.all distinctKeys := by
  unfold distinctKeys
  rw [fold_array, List.all_map]
  rfl

@[simp] theorem distinctKeys_object (entries : List (List Char × JsonDoc)) :
    distinctKeys (.object entries) = (decide (entries.map (·.1)).Nodup && entries.all fun entry => distinctKeys entry.2) := by
  unfold distinctKeys
  rw [fold_object, List.all_map, List.map_map]
  rfl

@[simp] theorem width_array (items : List JsonDoc) : width (.array items) = 2 + (items.map width).sum + (items.length - 1) := by
  unfold width
  rw [fold_array, List.length_map]

@[simp] theorem width_object (entries : List (List Char × JsonDoc)) :
    width (.object entries) = 2 + (entries.map fun entry => escapedLength entry.1 + 3 + width entry.2).sum +
      (entries.length - 1) := by
  unfold width
  rw [fold_object, List.map_map, List.length_map]
  rfl

@[simp] theorem nodes_string (text : List Char) : nodes (.string text) = 1 := rfl

@[simp] theorem nodes_null : nodes .null = 1 := rfl

@[simp] theorem nodes_number (literal : List Char) : nodes (.number literal) = 1 := rfl

@[simp] theorem nesting_string (text : List Char) : nesting (.string text) = 1 := rfl

@[simp] theorem nesting_null : nesting .null = 1 := rfl

@[simp] theorem nesting_number (literal : List Char) : nesting (.number literal) = 1 := rfl

@[simp] theorem longest_string (text : List Char) : longest (.string text) = text.length := rfl

@[simp] theorem longest_null : longest .null = 0 := rfl

@[simp] theorem longest_number (literal : List Char) : longest (.number literal) = 0 := rfl

@[simp] theorem distinctKeys_string (text : List Char) : distinctKeys (.string text) = true := rfl

@[simp] theorem distinctKeys_null : distinctKeys .null = true := rfl

@[simp] theorem distinctKeys_number (literal : List Char) : distinctKeys (.number literal) = true := rfl

@[simp] theorem width_string (text : List Char) : width (.string text) = escapedLength text + 2 := rfl

@[simp] theorem width_null : width .null = 4 := rfl

@[simp] theorem width_number (literal : List Char) : width (.number literal) = literal.length := rfl

end Equations

section Numberless

/-- A document without numbers. -/
def numberless : JsonDoc → Bool := fold (fun | .number _ => false | _ => true) (·.all id) (·.all (·.2))

@[simp] theorem numberless_array (items : List JsonDoc) : numberless (.array items) = items.all numberless := by
  unfold numberless
  rw [fold_array, List.all_map]
  rfl

@[simp] theorem numberless_object (entries : List (List Char × JsonDoc)) :
    numberless (.object entries) = entries.all fun entry => numberless entry.2 := by
  unfold numberless
  rw [fold_object, List.all_map]
  rfl

@[simp] theorem numberless_string (text : List Char) : numberless (.string text) = true := rfl

@[simp] theorem numberless_null : numberless .null = true := rfl

mutual

theorem numbersRead_of_numberless : (doc : JsonDoc) → numberless doc = true → NumbersRead doc
  | .null, _ => trivial
  | .bool _, _ => trivial
  | .string _, _ => trivial
  | .array items, without => itemsRead_of_numberless items (by rwa [numberless_array] at without)
  | .object entries, without => entriesRead_of_numberless entries (by rwa [numberless_object] at without)

theorem itemsRead_of_numberless : (items : List JsonDoc) → items.all numberless = true → ItemsRead items
  | [], _ => trivial
  | item :: items, without => by
    rw [List.all_cons, Bool.and_eq_true] at without
    exact ⟨numbersRead_of_numberless item without.1, itemsRead_of_numberless items without.2⟩

theorem entriesRead_of_numberless : (entries : List (List Char × JsonDoc)) →
    (entries.all fun entry => numberless entry.2) = true → EntriesRead entries
  | [], _ => trivial
  | (_, value) :: entries, without => by
    rw [List.all_cons, Bool.and_eq_true] at without
    exact ⟨numbersRead_of_numberless value without.1, entriesRead_of_numberless entries without.2⟩

end

end Numberless

section Maxima

theorem foldr_max_le {bound : Nat} {values : List Nat} (small : ∀ value ∈ values, value ≤ bound) : values.foldr max 0 ≤ bound := by
  induction values with
  | nil => exact Nat.zero_le _
  | cons value values hypothesis =>
    apply max_le
    · exact small value List.mem_cons_self
    · exact hypothesis fun other member => small other (List.mem_cons_of_mem _ member)

end Maxima

section Width

theorem length_printString (text : List Char) : (printString text).length = escapedLength text + 2 := by
  rw [printString, List.length_cons, List.length_append]
  rfl

mutual

theorem length_print_compact (depth : Nat) : (doc : JsonDoc) → (print compact depth doc).length = width doc
  | .null => rfl
  | .bool true => rfl
  | .bool false => rfl
  | .number _ => rfl
  | .string text => length_printString text
  | .array [] => rfl
  | .array (item :: items) => by
    have first := length_print_compact (depth + 1) item
    have others := length_printItems_compact (depth + 1) items
    simp only [print, compact, List.nil_append, List.append_nil, List.length_cons, List.length_append, List.length_nil,
      width_array, List.map_cons, List.sum_cons] at first others ⊢
    omega
  | .object [] => rfl
  | .object ((key, value) :: entries) => by
    have first := length_print_compact (depth + 1) value
    have others := length_printEntries_compact (depth + 1) entries
    simp only [print, compact, List.nil_append, List.append_nil, List.length_cons, List.length_append, List.length_nil,
      length_printString, width_object, List.map_cons, List.sum_cons] at first others ⊢
    omega

theorem length_printItems_compact (depth : Nat) :
    (items : List JsonDoc) → (printItems compact depth items).length = (items.map width).sum + items.length
  | [] => rfl
  | item :: items => by
    have first := length_print_compact depth item
    have others := length_printItems_compact depth items
    simp only [printItems, compact, List.nil_append, List.length_cons, List.length_append, List.map_cons, List.sum_cons]
      at first others ⊢
    omega

theorem length_printEntries_compact (depth : Nat) : (entries : List (List Char × JsonDoc)) →
    (printEntries compact depth entries).length =
      (entries.map fun entry => escapedLength entry.1 + 3 + width entry.2).sum + entries.length
  | [] => rfl
  | (key, value) :: entries => by
    have first := length_print_compact depth value
    have others := length_printEntries_compact depth entries
    simp only [printEntries, compact, List.nil_append, List.length_cons, List.length_append, length_printString, List.map_cons,
      List.sum_cons] at first others ⊢
    omega

end

end Width

section Verbatim

/-- A character that stands for itself in a JSON string. -/
def isVerbatim (c : Char) : Bool := 32 ≤ c.toNat && c.toNat < 127 && c ≠ '"' && c ≠ '\\'

theorem escape_verbatim {c : Char} (verbatim : isVerbatim c = true) : escape c = [c] := by
  simp only [isVerbatim, Bool.and_eq_true, decide_eq_true_eq] at verbatim
  obtain ⟨⟨⟨low, high⟩, quote⟩, backslash⟩ := verbatim
  unfold escape
  split
  · exact absurd rfl quote
  · exact absurd rfl backslash
  · exact absurd low (by decide)
  · exact absurd low (by decide)
  · exact absurd low (by decide)
  · exact absurd low (by decide)
  · exact absurd low (by decide)
  · exact if_pos ⟨low, high⟩

theorem escapedLength_verbatim {text : List Char} (verbatim : ∀ c ∈ text, isVerbatim c = true) :
    escapedLength text = text.length := by
  induction text with
  | nil => rfl
  | cons c text hypothesis =>
    have rest := hypothesis fun d member => verbatim d (List.mem_cons_of_mem _ member)
    rw [escapedLength, List.flatMap_cons, escape_verbatim (verbatim c List.mem_cons_self), List.length_append]
    rw [escapedLength] at rest
    rw [rest, List.length_singleton, List.length_cons, Nat.add_comm]

end Verbatim

section Bytes

def isAscii (c : Char) : Bool := c.toNat < 128

def asciiNumbers : JsonDoc → Bool :=
  fold (fun | .number literal => literal.all isAscii | _ => true) (·.all id) (·.all (·.2))

@[simp] theorem asciiNumbers_array (items : List JsonDoc) : asciiNumbers (.array items) = items.all asciiNumbers := by
  unfold asciiNumbers
  rw [fold_array, List.all_map]
  rfl

@[simp] theorem asciiNumbers_object (entries : List (List Char × JsonDoc)) :
    asciiNumbers (.object entries) = entries.all fun entry => asciiNumbers entry.2 := by
  unfold asciiNumbers
  rw [fold_object, List.all_map]
  rfl

mutual

theorem asciiNumbers_of_numberless : (doc : JsonDoc) → numberless doc = true → asciiNumbers doc = true
  | .null, _ => rfl
  | .bool _, _ => rfl
  | .string _, _ => rfl
  | .array items, without => by
    rw [asciiNumbers_array]
    exact asciiItems_of_numberless items (by rwa [numberless_array] at without)
  | .object entries, without => by
    rw [asciiNumbers_object]
    exact asciiEntries_of_numberless entries (by rwa [numberless_object] at without)

theorem asciiItems_of_numberless : (items : List JsonDoc) → items.all numberless = true → items.all asciiNumbers = true
  | [], _ => rfl
  | item :: items, without => by
    rw [List.all_cons, Bool.and_eq_true] at without ⊢
    exact ⟨asciiNumbers_of_numberless item without.1, asciiItems_of_numberless items without.2⟩

theorem asciiEntries_of_numberless : (entries : List (List Char × JsonDoc)) →
    (entries.all fun entry => numberless entry.2) = true → (entries.all fun entry => asciiNumbers entry.2) = true
  | [], _ => rfl
  | (_, value) :: entries, without => by
    rw [List.all_cons, Bool.and_eq_true] at without ⊢
    exact ⟨asciiNumbers_of_numberless value without.1, asciiEntries_of_numberless entries without.2⟩

end

theorem isAscii_hexDigit {n : Nat} (small : n < 16) : isAscii (hexDigit n) = true := by
  have all : ∀ n < 16, isAscii (hexDigit n) = true := by decide
  exact all n small

theorem isAscii_unicodeEscape (codeUnit : Nat) : (unicodeEscape codeUnit).all isAscii = true := by
  simp only [unicodeEscape, List.all_cons, List.all_nil, Bool.and_true, Bool.and_eq_true]
  refine ⟨rfl, rfl, ?_, ?_, ?_, ?_⟩ <;> exact isAscii_hexDigit (Nat.mod_lt _ (by decide))

theorem isAscii_escape (c : Char) : (escape c).all isAscii = true := by
  unfold escape
  split
  all_goals try rfl
  split
  · rename_i printable
    rw [List.all_cons, List.all_nil, Bool.and_true, isAscii, decide_eq_true_eq]
    omega
  split
  · exact isAscii_unicodeEscape _
  · rw [List.all_append, isAscii_unicodeEscape, isAscii_unicodeEscape]
    rfl

theorem isAscii_printString (text : List Char) : (printString text).all isAscii = true := by
  rw [printString, List.all_cons, List.all_append, List.all_flatMap]
  rw [List.all_eq_true.mpr fun c _ => isAscii_escape c]
  rfl

theorem isAscii_blank {blanks : List Char} (blank : ∀ c ∈ blanks, isBlank c = true) : blanks.all isAscii = true := by
  rw [List.all_eq_true]
  intro c member
  have space := blank c member
  simp only [isBlank, Bool.or_eq_true, decide_eq_true_eq] at space
  rcases space with ((rfl | rfl) | rfl) | rfl <;> rfl

variable (layout : Layout)

mutual

theorem isAscii_print (depth : Nat) : (doc : JsonDoc) → asciiNumbers doc = true → (print layout depth doc).all isAscii = true
  | .null, _ => rfl
  | .bool true, _ => rfl
  | .bool false, _ => rfl
  | .number _, numbers => numbers
  | .string text, _ => isAscii_printString text
  | .array [], _ => rfl
  | .array (item :: items), numbers => by
    rw [asciiNumbers_array, List.all_cons, Bool.and_eq_true] at numbers
    simp only [print, List.all_cons, List.all_append, List.all_nil, isAscii_blank (layout.line_blank _),
      isAscii_print (depth + 1) item numbers.1, isAscii_printItems (depth + 1) items numbers.2]
    rfl
  | .object [], _ => rfl
  | .object ((key, value) :: entries), numbers => by
    rw [asciiNumbers_object, List.all_cons, Bool.and_eq_true] at numbers
    simp only [print, List.all_cons, List.all_append, List.all_nil, isAscii_blank (layout.line_blank _),
      isAscii_blank layout.colon_blank, isAscii_printString, isAscii_print (depth + 1) value numbers.1,
      isAscii_printEntries (depth + 1) entries numbers.2]
    rfl

theorem isAscii_printItems (depth : Nat) : (items : List JsonDoc) → items.all asciiNumbers = true →
    (printItems layout depth items).all isAscii = true
  | [], _ => rfl
  | item :: items, numbers => by
    rw [List.all_cons, Bool.and_eq_true] at numbers
    simp only [printItems, List.all_cons, List.all_append, isAscii_blank (layout.line_blank _),
      isAscii_print depth item numbers.1, isAscii_printItems depth items numbers.2]
    rfl

theorem isAscii_printEntries (depth : Nat) : (entries : List (List Char × JsonDoc)) →
    (entries.all fun entry => asciiNumbers entry.2) = true → (printEntries layout depth entries).all isAscii = true
  | [], _ => rfl
  | (key, value) :: entries, numbers => by
    rw [List.all_cons, Bool.and_eq_true] at numbers
    simp only [printEntries, List.all_cons, List.all_append, isAscii_blank (layout.line_blank _),
      isAscii_blank layout.colon_blank, isAscii_printString, isAscii_print depth value numbers.1,
      isAscii_printEntries depth entries numbers.2]
    rfl

end

theorem size_utf8Encode {text : List Char} (ascii : text.all isAscii = true) : text.utf8Encode.size = text.length := by
  induction text with
  | nil => rfl
  | cons c text hypothesis =>
    rw [List.all_cons, Bool.and_eq_true] at ascii
    have low : c.val ≤ 127 := Nat.le_of_lt_succ (of_decide_eq_true ascii.1)
    have one : c.utf8Size = 1 := Char.utf8Size_eq_one_iff.mpr low
    rw [List.utf8Encode_cons, ByteArray.size_append, hypothesis ascii.2, List.utf8Encode_singleton, List.size_toByteArray,
      String.length_utf8EncodeChar, one, List.length_cons, Nat.add_comm]

/-- The bytes of a text in UTF-8. -/
def encode (text : List Char) : ByteArray := (String.ofList text).toUTF8

theorem encode_eq (text : List Char) : encode text = text.utf8Encode := by
  rw [encode, String.toUTF8_eq_toByteArray, String.toByteArray_ofList]

theorem size_encode {text : List Char} (ascii : text.all isAscii = true) : (encode text).size = text.length := by
  rw [encode_eq, size_utf8Encode ascii]

theorem fromUTF8?_encode (text : List Char) : String.fromUTF8? (encode text) = some (String.ofList text) := by
  rw [encode_eq, String.fromUTF8?, dif_pos ByteArray.isValidUTF8_utf8Encode]
  exact congrArg some (String.toByteArray_inj.mp String.toByteArray_ofList.symm)

end Bytes

end Library.JsonText
