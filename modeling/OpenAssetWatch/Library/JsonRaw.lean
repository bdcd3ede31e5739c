import OpenAssetWatch.Library.JsonDict

namespace Library.JsonText

section Printing

/-- A character of a string that need not be ASCII. -/
def rawEscape (c : Char) : List Char := if c.toNat < 32 ∨ c = '"' ∨ c = '\\' then escape c else [c]

def printRawString (text : List Char) : List Char := '"' :: (text.flatMap rawEscape ++ ['"'])

mutual

/-- The compact layout without the escapes that only ASCII asks for. -/
def printRaw : JsonDoc → List Char
  | .null => ['n', 'u', 'l', 'l']
  | .bool true => ['t', 'r', 'u', 'e']
  | .bool false => ['f', 'a', 'l', 's', 'e']
  | .number literal => literal
  | .string text => printRawString text
  | .array [] => ['[', ']']
  | .array (item :: items) => '[' :: (printRaw item ++ printRawItems items ++ [']'])
  | .object [] => ['{', '}']
  | .object ((key, value) :: entries) =>
    '{' :: (printRawString key ++ ':' :: printRaw value ++ printRawEntries entries ++ ['}'])

def printRawItems : List JsonDoc → List Char
  | [] => []
  | item :: items => ',' :: (printRaw item ++ printRawItems items)

def printRawEntries : List (List Char × JsonDoc) → List Char
  | [] => []
  | (key, value) :: entries => ',' :: (printRawString key ++ ':' :: printRaw value ++ printRawEntries entries)

end

end Printing

section Naturals

theorem isDigit_of_mem_toDigits {n : Nat} {c : Char} (member : c ∈ Nat.toDigits 10 n) : isDigit c = true := by
  have digit := Nat.isDigit_of_mem_toDigits (by decide) (by decide) member
  rw [Char.isDigit] at digit
  rw [isDigit]
  exact digit

/-- The digits of a positive number do not start with a zero. -/
theorem head_toDigits (n : Nat) : 0 < n → (Nat.toDigits 10 n).head? ≠ some '0' := by
  induction n using Nat.strongRecOn with
  | _ n hypothesis =>
    intro positive
    by_cases small : n < 10
    · rw [Nat.toDigits_of_lt_base small]
      have each : ∀ n < 10, 0 < n → [n.digitChar].head? ≠ some '0' := by decide
      exact each n small positive
    · rw [Nat.toDigits_of_base_le (by decide) (Nat.le_of_not_lt small), List.head?_append_of_ne_nil _ Nat.toDigits_ne_nil]
      exact hypothesis (n / 10) (by omega) (by omega)

theorem isNumber_toDigits (n : Nat) : IsNumber (Nat.toDigits 10 n) := by
  rcases Nat.eq_zero_or_pos n with rfl | positive
  · exact isNumber_zero
  · have head := head_toDigits n positive
    have digits : ∀ c ∈ Nat.toDigits 10 n, isDigit c = true := fun c member => isDigit_of_mem_toDigits member
    cases written : Nat.toDigits 10 n with
    | nil => exact absurd written Nat.toDigits_ne_nil
    | cons c tail =>
      rw [written] at head digits
      apply isNumber_of_digits (digits c List.mem_cons_self)
      · rintro rfl
        exact head rfl
      · exact fun d member => digits d (List.mem_cons_of_mem _ member)

end Naturals

section Ascii

/-- The escape of a character beyond the printable ones of ASCII. -/
def toAscii (c : Char) : List Char := if c.toNat < 127 then [c] else escape c

theorem toAscii_of_lt {c : Char} (low : c.toNat < 127) : toAscii c = [c] := if_pos low

theorem flatMap_toAscii_of_lt {text : List Char} (low : ∀ c ∈ text, c.toNat < 127) : text.flatMap toAscii = text := by
  induction text with
  | nil => rfl
  | cons c text hypothesis =>
    rw [List.flatMap_cons, toAscii_of_lt (low c List.mem_cons_self), hypothesis fun d member => low d (List.mem_cons_of_mem _ member)]
    rfl

theorem escape_lt (c : Char) : ∀ d ∈ escape c, d.toNat < 127 := by
  have digit : ∀ n : Nat, (hexDigit (n % 16)).toNat < 127 := by
    intro n
    have all : ∀ n < 16, (hexDigit n).toNat < 127 := by decide
    exact all _ (Nat.mod_lt _ (by decide))
  have unit : ∀ codeUnit, ∀ d ∈ unicodeEscape codeUnit, d.toNat < 127 := by
    intro codeUnit d member
    simp only [unicodeEscape, List.mem_cons, List.not_mem_nil, or_false] at member
    rcases member with rfl | rfl | rfl | rfl | rfl | rfl
    · decide
    · decide
    · exact digit _
    · exact digit _
    · exact digit _
    · exact digit _
  intro d member
  unfold escape at member
  split at member
  any_goals
    simp only [List.mem_cons, List.not_mem_nil, or_false] at member
    rcases member with rfl | rfl <;> decide
  split at member
  · rename_i range
    rw [List.mem_singleton.mp member]
    exact range.2
  split at member
  · exact unit _ d member
  · rcases List.mem_append.mp member with first | second
    · exact unit _ d first
    · exact unit _ d second

theorem flatMap_rawEscape (text : List Char) : (text.flatMap rawEscape).flatMap toAscii = text.flatMap escape := by
  induction text with
  | nil => rfl
  | cons c text hypothesis =>
    rw [List.flatMap_cons, List.flatMap_cons, List.flatMap_append, hypothesis]
    apply congrArg (· ++ text.flatMap escape)
    rw [rawEscape]
    by_cases special : c.toNat < 32 ∨ c = '"' ∨ c = '\\'
    · rw [if_pos special]
      exact flatMap_toAscii_of_lt (escape_lt c)
    · rw [if_neg special, List.flatMap_singleton, toAscii]
      by_cases low : c.toNat < 127
      · rw [if_pos low, escape_verbatim]
        simp only [not_or, Nat.not_lt] at special
        simp [isVerbatim, special.1, low, special.2.1, special.2.2]
      · rw [if_neg low]

theorem flatMap_printRawString (text : List Char) : (printRawString text).flatMap toAscii = printString text := by
  rw [printRawString, List.flatMap_cons, List.flatMap_append, flatMap_rawEscape]
  rfl

/-- No number is written with a character that is not printable in ASCII. -/
def plainNumbers : JsonDoc → Bool :=
  fold (fun | .number literal => literal.all fun c => c.toNat < 127 | _ => true) (·.all id) (·.all (·.2))

@[simp] theorem plainNumbers_array (items : List JsonDoc) : plainNumbers (.array items) = items.all plainNumbers := by
  unfold plainNumbers
  rw [fold_array, List.all_map]
  rfl

@[simp] theorem plainNumbers_object (entries : List (List Char × JsonDoc)) :
    plainNumbers (.object entries) = entries.all fun entry => plainNumbers entry.2 := by
  unfold plainNumbers
  rw [fold_object, List.all_map]
  rfl

mutual

/-- With the escapes that ASCII asks for, it is the compact layout. -/
theorem flatMap_printRaw (depth : Nat) : (doc : JsonDoc) → plainNumbers doc = true →
    (printRaw doc).flatMap toAscii = print compact depth doc
  | .null, _ => rfl
  | .bool true, _ => rfl
  | .bool false, _ => rfl
  | .number literal, numbers => by
    have low : (literal.all fun c => c.toNat < 127) = true := numbers
    exact flatMap_toAscii_of_lt fun c member => of_decide_eq_true (List.all_eq_true.mp low c member)
  | .string text, _ => flatMap_printRawString text
  | .array [], _ => rfl
  | .array (item :: items), numbers => by
    rw [plainNumbers_array, List.all_cons, Bool.and_eq_true] at numbers
    have first := flatMap_printRaw (depth + 1) item numbers.1
    have others := flatMap_printRawItems (depth + 1) items numbers.2
    rw [printRaw, print, List.flatMap_cons, List.flatMap_append, List.flatMap_append, first, others]
    simp [compact, toAscii]
  | .object [], _ => rfl
  | .object ((key, value) :: entries), numbers => by
    rw [plainNumbers_object, List.all_cons, Bool.and_eq_true] at numbers
    have first := flatMap_printRaw (depth + 1) value numbers.1
    have others := flatMap_printRawEntries (depth + 1) entries numbers.2
    rw [printRaw, print]
    simp [compact, toAscii, flatMap_printRawString, first, others]

theorem flatMap_printRawItems (depth : Nat) : (items : List JsonDoc) → items.all plainNumbers = true →
    (printRawItems items).flatMap toAscii = printItems compact depth items
  | [], _ => rfl
  | item :: items, numbers => by
    rw [List.all_cons, Bool.and_eq_true] at numbers
    have first := flatMap_printRaw depth item numbers.1
    have others := flatMap_printRawItems depth items numbers.2
    rw [printRawItems, printItems]
    simp [compact, toAscii, first, others]

theorem flatMap_printRawEntries (depth : Nat) : (entries : List (List Char × JsonDoc)) →
    (entries.all fun entry => plainNumbers entry.2) = true →
    (printRawEntries entries).flatMap toAscii = printEntries compact depth entries
  | [], _ => rfl
  | (key, value) :: entries, numbers => by
    rw [List.all_cons, Bool.and_eq_true] at numbers
    have first := flatMap_printRaw depth value numbers.1
    have others := flatMap_printRawEntries depth entries numbers.2
    rw [printRawEntries, printEntries]
    simp [compact, toAscii, flatMap_printRawString, first, others]

end

/-- Every number is written in a way that is read again, and in printable characters. -/
def numbersPrinted (doc : JsonDoc) : Prop := NumbersRead doc ∧ plainNumbers doc = true

theorem numbersPrinted_array {items : List JsonDoc} : numbersPrinted (.array items) ↔ ∀ item ∈ items, numbersPrinted item := by
  rw [numbersPrinted, NumbersRead, itemsRead_iff, plainNumbers_array, List.all_eq_true]
  exact ⟨fun both item member => ⟨both.1 item member, both.2 item member⟩,
    fun all => ⟨fun item member => (all item member).1, fun item member => (all item member).2⟩⟩

theorem numbersPrinted_object {entries : List (List Char × JsonDoc)} :
    numbersPrinted (.object entries) ↔ ∀ entry ∈ entries, numbersPrinted entry.2 := by
  rw [numbersPrinted, NumbersRead, entriesRead_iff, plainNumbers_object, List.all_eq_true]
  exact ⟨fun both entry member => ⟨both.1 entry member, both.2 entry member⟩,
    fun all => ⟨fun entry member => (all entry member).1, fun entry member => (all entry member).2⟩⟩

mutual

theorem numbersPrinted_settle : (doc : JsonDoc) → numbersPrinted doc → numbersPrinted (settle id doc)
  | .null, printed => printed
  | .bool _, printed => printed
  | .string _, printed => printed
  | .number _, printed => printed
  | .array items, printed => by
    rw [settle_array]
    exact numbersPrinted_array.mpr (itemsPrinted_settle items (numbersPrinted_array.mp printed))
  | .object entries, printed => by
    rw [settle_object]
    apply numbersPrinted_object.mpr
    intro entry member
    exact entriesPrinted_settle entries (numbersPrinted_object.mp printed) entry (mem_dictOf member)

theorem itemsPrinted_settle : (items : List JsonDoc) → (∀ item ∈ items, numbersPrinted item) →
    ∀ item ∈ items.map (settle id), numbersPrinted item
  | [], _ => by simp
  | item :: items, printed => by
    rw [List.forall_mem_cons] at printed
    rw [List.map_cons, List.forall_mem_cons]
    exact ⟨numbersPrinted_settle item printed.1, itemsPrinted_settle items printed.2⟩

theorem entriesPrinted_settle : (entries : List (List Char × JsonDoc)) → (∀ entry ∈ entries, numbersPrinted entry.2) →
    ∀ entry ∈ entries.map fun entry => (entry.1, settle id entry.2), numbersPrinted entry.2
  | [], _ => by simp
  | entry :: entries, printed => by
    rw [List.forall_mem_cons] at printed
    rw [List.map_cons, List.forall_mem_cons]
    exact ⟨numbersPrinted_settle entry.2 printed.1, entriesPrinted_settle entries printed.2⟩

end

/-- What is printed without these escapes tells documents apart as well. -/
theorem printRaw_injective {first second : JsonDoc} (firstNumbers : numbersPrinted first) (secondNumbers : numbersPrinted second)
    (same : printRaw first = printRaw second) : first = second := by
  apply print_injective firstNumbers.1 secondNumbers.1
  rw [← flatMap_printRaw 0 first firstNumbers.2, same, flatMap_printRaw 0 second secondNumbers.2]

end Ascii

end Library.JsonText
