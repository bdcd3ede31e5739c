import OpenAssetWatch.Library.Checked
import OpenAssetWatch.Sensor.GoStrings

namespace OpenAssetWatch.Decode

open Library Sensor

/-- The character whose UTF-8 the bytes begin with. -/
def leadingChar (bytes : List UInt8) : Option Char := ByteArray.utf8DecodeChar? (bytes.take 4).toByteArray 0

/-- The runes of at most so many bytes; a byte that begins no character stands for itself. -/
def runesOf : Nat → List UInt8 → GoString
  | 0, _ => []
  | _ + 1, [] => []
  | n + 1, byte :: rest =>
    match leadingChar (byte :: rest) with
    | some c => .char c :: runesOf n ((byte :: rest).drop c.utf8Size)
    | none => .invalid byte :: runesOf n rest

/-- `string(bytes)`. -/
def stringOf (bytes : List UInt8) : GoString := runesOf bytes.length bytes

/-- `utf8.RuneStart`: not a byte of the form `10xxxxxx`. -/
def isRuneStart (byte : UInt8) : Bool := byte.toNat / 64 ≠ 2

/-- The bytes of a rune. -/
def runeBytes : Rune → List UInt8
  | .char c => String.utf8EncodeChar c
  | .invalid byte => [byte]

/-- `value[:limit]`, where the bytes of a character that is cut stand for themselves. -/
def prefixTo : Nat → GoString → GoString
  | _, [] => []
  | limit, rune :: rest =>
    if rune.size ≤ limit then rune :: prefixTo (limit - rune.size) rest else ((runeBytes rune).take limit).map .invalid

/-- The loop of `clean` that moves the limit back to the start of a rune. -/
def runeBoundary (bytes : List UInt8) : Nat → Checked Nat
  | 0 => pure 0
  | limit + 1 => do
    let byte ← Checked.byteAt bytes (limit + 1)
    if isRuneStart byte then pure (limit + 1) else runeBoundary bytes limit

def isCharRune : Rune → Bool
  | .char _ => true
  | .invalid _ => false

def clean (value : GoString) (limit : Nat) : Checked GoString :=
  let value : GoString := if value.isValid then value else value.filter isCharRune
  let value : GoString := value.filter fun rune => !isControlRune rune.decoded
  let value := value.trimmed
  if value.byteLength ≤ limit then pure value
  else do
    let boundary ← runeBoundary value.bytes limit
    pure (GoString.trimmed (prefixTo boundary value))

section Validity

variable {value : GoString}

theorem isValid_iff : value.isValid = true ↔ ∀ rune ∈ value, isCharRune rune = true := by
  constructor
  · intro valid rune member
    rw [← GoString.ofChars_runes valid] at member
    obtain ⟨c, _, rfl⟩ := List.mem_map.mp member
    rfl
  · intro chars
    apply decide_eq_true
    induction value with
    | nil => rfl
    | cons rune rest ih =>
      have tail : rest = GoString.ofChars (GoString.runes rest) := ih fun other member => chars other (List.mem_cons_of_mem _ member)
      have head := chars rune List.mem_cons_self
      cases rune with
      | char c => exact congrArg (.char c :: ·) tail
      | invalid byte => cases head

theorem isValid_sublist {part : GoString} (sublist : part.Sublist value) (valid : value.isValid = true) : part.isValid = true :=
  isValid_iff.mpr fun rune member => isValid_iff.mp valid rune (sublist.subset member)

theorem isValid_ofText (text : String) : (GoString.ofText text).isValid = true := GoString.isValid_ofChars _

theorem byteLength_cons (rune : Rune) (rest : GoString) : GoString.byteLength (rune :: rest) = rune.size + GoString.byteLength rest := rfl

theorem length_runeBytes (rune : Rune) : (runeBytes rune).length = rune.size := by
  cases rune with
  | char c => exact String.length_utf8EncodeChar c
  | invalid byte => rfl

theorem bytes_cons (rune : Rune) (rest : GoString) : GoString.bytes (rune :: rest) = runeBytes rune ++ GoString.bytes rest := by
  cases rune <;> rfl

theorem length_bytes (value : GoString) : value.bytes.length = value.byteLength := by
  induction value with
  | nil => rfl
  | cons rune rest ih => rw [bytes_cons, List.length_append, length_runeBytes, ih, byteLength_cons]

theorem not_isRuneStart_tail (c : Char) (index : Nat) (byte : UInt8) (found : (String.utf8EncodeChar c)[index + 1]? = some byte) :
    isRuneStart byte = false := by
  have continued (n : Nat) : isRuneStart (UInt8.ofNat (n % 0x40 + 0x80)) = false := by
    rw [isRuneStart, decide_eq_false_iff_not, not_not, UInt8.toNat_ofNat']
    omega
  unfold String.utf8EncodeChar at found
  extract_lets v at found
  split_ifs at found <;> rcases index with _ | _ | _ | _ | index <;> simp only [List.getElem?_cons_zero, List.getElem?_cons_succ,
    List.getElem?_nil, Option.some.injEq, reduceCtorEq] at found <;> (rw [← found]; exact continued _)

/-- The loop stops at the start of a rune, or before the first. -/
def AtBoundary (bytes : List UInt8) (boundary : Nat) : Prop :=
  boundary = 0 ∨ ∃ byte, bytes[boundary]? = some byte ∧ isRuneStart byte = true

theorem meets_runeBoundary {bytes : List UInt8} {limit : Nat} (inside : limit < bytes.length) :
    Checked.Meets (fun boundary => boundary ≤ limit ∧ AtBoundary bytes boundary) (runeBoundary bytes limit) := by
  induction limit with
  | zero => exact Checked.meets_pure ⟨le_rfl, .inl rfl⟩
  | succ limit ih =>
    rw [runeBoundary]
    refine (Checked.meets_byteAt inside).bind fun byte found => ?_
    split_ifs with start
    · exact Checked.meets_pure ⟨le_rfl, .inr ⟨byte, found, start⟩⟩
    · exact (ih (Nat.lt_of_succ_lt inside)).mono fun boundary found => ⟨found.1.trans (Nat.le_succ _), found.2⟩

theorem isValid_prefixTo {boundary : Nat} (valid : value.isValid = true) (start : AtBoundary value.bytes boundary) :
    (prefixTo boundary value).isValid = true := by
  induction value generalizing boundary with
  | nil => rfl
  | cons rune rest ih =>
    have chars := isValid_iff.mp valid
    have tail : GoString.isValid rest = true := isValid_sublist (List.sublist_cons_self _ _) valid
    rw [bytes_cons, AtBoundary] at start
    rw [prefixTo]
    split_ifs with whole
    · apply isValid_iff.mpr
      intro other member
      rcases List.mem_cons.mp member with rfl | later
      · exact chars other List.mem_cons_self
      · refine isValid_iff.mp (ih tail ?_) other later
        rcases start with rfl | ⟨byte, found, begins⟩
        · exact .inl (Nat.zero_sub _)
        · rw [List.getElem?_append_right (by rw [length_runeBytes]; exact whole), length_runeBytes] at found
          exact .inr ⟨byte, found, begins⟩
    · rcases boundary with _ | index
      · rw [List.take_zero]
        rfl
      · rcases start with zero | ⟨byte, found, begins⟩
        · cases zero
        · rw [List.getElem?_append_left (by rw [length_runeBytes]; exact not_le.mp whole)] at found
          have char := chars rune List.mem_cons_self
          cases rune with
          | char c =>
            rw [not_isRuneStart_tail c index byte found] at begins
            cases begins
          | invalid _ => cases char

theorem byteLength_invalid (bytes : List UInt8) : GoString.byteLength (bytes.map .invalid) = bytes.length := by
  induction bytes with
  | nil => rfl
  | cons byte rest ih => rw [List.map_cons, byteLength_cons, ih, List.length_cons, Nat.add_comm, Rune.size]

theorem byteLength_prefixTo (boundary : Nat) (value : GoString) : (prefixTo boundary value).byteLength ≤ boundary := by
  induction value generalizing boundary with
  | nil => exact Nat.zero_le _
  | cons rune rest ih =>
    rw [prefixTo]
    split_ifs with whole
    · have rest_le := ih (boundary - rune.size)
      rw [byteLength_cons]
      omega
    · rw [byteLength_invalid]
      exact List.length_take_le _ _

end Validity

/-- A text that a field may hold. -/
def Fits (limit : Nat) (text : GoString) : Prop := text.isValid = true ∧ text.byteLength ≤ limit

theorem Fits.mono {limit larger : Nat} {text : GoString} (fits : Fits limit text) (bound : limit ≤ larger) : Fits larger text :=
  ⟨fits.1, fits.2.trans bound⟩

theorem byteLength_trimmed_le (value : GoString) : value.trimmed.byteLength ≤ value.byteLength :=
  GoString.byteLength_le_of_sublist (GoString.trimmed_sublist value)

theorem meets_clean_le (value : GoString) (limit : Nat) :
    Checked.Meets (fun text => Fits limit text ∧ text.byteLength ≤ value.byteLength) (clean value limit) := by
  unfold clean
  extract_lets chars kept trimmed
  have valid : chars.isValid = true := by
    show (if value.isValid then value else value.filter isCharRune : GoString).isValid = true
    split_ifs with whole
    · exact whole
    · exact isValid_iff.mpr fun rune member => List.of_mem_filter member
  have valid : trimmed.isValid = true := isValid_sublist ((GoString.trimmed_sublist _).trans List.filter_sublist) valid
  have sublist : chars.Sublist value := by
    show (if value.isValid then value else value.filter isCharRune : GoString).Sublist value
    split_ifs
    · exact List.Sublist.refl _
    · exact List.filter_sublist
  have shorter : trimmed.byteLength ≤ value.byteLength :=
    (byteLength_trimmed_le _).trans (GoString.byteLength_le_of_sublist (List.filter_sublist.trans sublist))
  split_ifs with short
  · exact Checked.meets_pure ⟨⟨valid, short⟩, shorter⟩
  · have inside : limit < trimmed.bytes.length := by
      rw [length_bytes]
      exact not_le.mp short
    refine (meets_runeBoundary inside).bind fun boundary found => Checked.meets_pure ?_
    have cut : (GoString.trimmed (prefixTo boundary trimmed)).byteLength ≤ limit :=
      (byteLength_trimmed_le _).trans ((byteLength_prefixTo _ _).trans found.1)
    refine ⟨⟨isValid_sublist (GoString.trimmed_sublist _) (isValid_prefixTo valid found.2), cut⟩, ?_⟩
    exact cut.trans ((not_le.mp short).le.trans shorter)

theorem meets_clean (value : GoString) (limit : Nat) : Checked.Meets (Fits limit) (clean value limit) :=
  (meets_clean_le value limit).mono fun _ both => both.1

end OpenAssetWatch.Decode
