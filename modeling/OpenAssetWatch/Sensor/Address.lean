import OpenAssetWatch.Text.Unicode

namespace OpenAssetWatch.Sensor

open OpenAssetWatch.Text

/-- What a range loop over a Go string yields: a character of its UTF-8, or a byte that is no part of one. -/
inductive Rune where
  | char (c : Char)
  | invalid (byte : UInt8)
deriving DecidableEq, Repr

/-- The character a rune counts as, which is `utf8.RuneError` for an invalid byte. -/
def Rune.decoded : Rune → Char
  | .char c => c
  | .invalid _ => Char.ofNat 0xFFFD

/-- The bytes of a rune. -/
def Rune.size : Rune → Nat
  | .char c => c.utf8Size
  | .invalid _ => 1

/-- A Go string by its runes. -/
abbrev GoString := List Rune

namespace GoString

/-- `len`. -/
def byteLength (value : GoString) : Nat := (value.map Rune.size).sum

/-- `[]rune`, and what a JSON encoder makes of a string. -/
def runes (value : GoString) : List Char := value.map Rune.decoded

def ofChars (text : List Char) : GoString := text.map .char

def ofText (text : String) : GoString := ofChars text.toList

/-- `utf8.ValidString`. -/
def isValid (value : GoString) : Bool := value = ofChars value.runes

@[simp] theorem runes_ofChars (text : List Char) : (ofChars text).runes = text := by
  rw [runes, ofChars, List.map_map]
  exact List.map_id text

theorem isValid_ofChars (text : List Char) : (ofChars text).isValid = true := by
  exact decide_eq_true (by rw [runes_ofChars])

theorem ofChars_runes {value : GoString} (valid : value.isValid = true) : ofChars value.runes = value :=
  (of_decide_eq_true valid).symm

end GoString

/-- `unicode.IsSpace`. -/
def isGoSpace (c : Char) : Bool :=
  let n := c.toNat
  (9 ≤ n && n ≤ 13) || n == 32 || n == 0x85 || n == 0xA0 || n == 0x1680 || (0x2000 ≤ n && n ≤ 0x200A) || n == 0x2028 ||
    n == 0x2029 || n == 0x202F || n == 0x205F || n == 0x3000

/-- `unicode.IsControl`. -/
def isControlRune (c : Char) : Bool := c.toNat < 32 || (127 ≤ c.toNat && c.toNat < 160)

/-- `strings.TrimSpace` of the runes of a string. -/
def trimSpace (text : List Char) : List Char := stripChars isGoSpace text

/-- `validText`, which counts and looks at the runes alone. -/
def validText (value : GoString) (least most : Nat) : Bool :=
  let trimmed := trimSpace value.runes
  (least ≤ trimmed.length && trimmed.length ≤ most) && !trimmed.isEmpty && !trimmed.any isControlRune

def isIdentifierChar (c : Char) : Bool := c.isAlphanum || c == '.' || c == '_' || c == ':' || c == '-'

def isSiteIdentifierChar (c : Char) : Bool := c.isAlphanum || c == '.' || c == '_' || c == '-'

/-- A Go string of so many bytes that a pattern over one class of ASCII characters matches. -/
def isIdentifier (least most : Nat) (class_ : Char → Bool) (value : GoString) : Bool :=
  (least ≤ value.byteLength && value.byteLength ≤ most) && !value.isEmpty && value.all fun rune => class_ rune.decoded

def isHexDigit (c : Char) : Bool := c.isDigit || ('a' ≤ c && c ≤ 'f') || ('A' ≤ c && c ≤ 'F')

def decimalValue (digits : List Char) : Nat := digits.foldl (fun value c => value * 10 + (c.toNat - 48)) 0

/-- A number up to 255 without a leading zero. -/
def isOctet (digits : List Char) : Bool :=
  (1 ≤ digits.length && digits.length ≤ 3) && digits.all Char.isDigit && (digits.length = 1 || digits.head? ≠ some '0') &&
    decimalValue digits ≤ 255

/-- `parseIPv4Fields`. -/
def isIPv4 (text : List Char) : Bool :=
  let fields := text.splitOn '.'
  fields.length = 4 && fields.all isOctet

/-- The loop of `parseIPv6` with so many groups left; `ellipsis` says whether `::` has been passed. -/
def isIPv6From : Nat → Bool → List Char → Bool
  | 0, _, _ => false
  | groups + 1, ellipsis, text =>
    let digits := text.takeWhile isHexDigit
    if digits.isEmpty || 4 < digits.length then false
    else
      match text.dropWhile isHexDigit with
      | [] => ellipsis = decide (0 < groups)
      | '.' :: _ => isIPv4 text && (if ellipsis then decide (2 ≤ groups) else decide (groups = 1))
      | [':'] => false
      | [':', ':'] => !ellipsis && decide (0 < groups)
      | ':' :: ':' :: rest => !ellipsis && isIPv6From groups true rest
      | ':' :: rest => isIPv6From groups ellipsis rest
      | _ => false

/-- `parseIPv6`; a zone is refused. -/
def isIPv6 : List Char → Bool
  | [':', ':'] => true
  | ':' :: ':' :: rest => isIPv6From 8 true rest
  | text => isIPv6From 8 false text

/-- Whether `net.ParseIP` gives an address. -/
def isIP (text : List Char) : Bool :=
  match text.find? fun c => c = '.' || c = ':' || c = '%' with
  | some '.' => isIPv4 text
  | some ':' => isIPv6 text
  | _ => false

/-- Whether `net.ParseMAC` gives an address of six bytes. -/
def isMAC (text : List Char) : Bool :=
  let separator := text.getD 2 ' '
  if separator = ':' || separator = '-' then
    text.length = 17 && text.zipIdx.all fun (c, i) => if i % 3 = 2 then c = separator else isHexDigit c
  else text.length = 14 && text.zipIdx.all fun (c, i) => if i % 5 = 4 then c = '.' else isHexDigit c

theorem isIPv4_length {text : List Char} (parsed : isIPv4 text = true) : text.length ≤ 15 := by
  simp only [isIPv4, Bool.and_eq_true, decide_eq_true_eq, List.all_eq_true] at parsed
  obtain ⟨four, octets⟩ := parsed
  have joined : ['.'].intercalate (text.splitOn '.') = text := List.intercalate_splitOn '.'
  have bounded : ∀ field ∈ text.splitOn '.', field.length ≤ 3 := by
    intro field member
    have octet := octets field member
    simp only [isOctet, Bool.and_eq_true, decide_eq_true_eq] at octet
    exact octet.1.1.1.2
  generalize text.splitOn '.' = fields at joined four bounded
  obtain ⟨a, b, c, d, rfl⟩ := List.length_eq_four.mp four
  rw [← joined]
  have ha := bounded a (by simp)
  have hb := bounded b (by simp)
  have hc := bounded c (by simp)
  have hd := bounded d (by simp)
  simp [List.intercalate]
  omega

theorem isIPv6From_length {groups : Nat} {ellipsis : Bool} {text : List Char} (parsed : isIPv6From groups ellipsis text = true) :
    text.length ≤ 5 * groups + 15 + if ellipsis then 0 else 1 := by
  induction groups generalizing ellipsis text with
  | zero => cases parsed
  | succ groups ih =>
    have whole := congrArg List.length (List.takeWhile_append_dropWhile (p := isHexDigit) (l := text))
    rw [List.length_append] at whole
    rw [isIPv6From] at parsed
    split at parsed
    · cases parsed
    · rename_i few
      simp only [Bool.or_eq_true, decide_eq_true_eq, not_or, not_lt] at few
      split at parsed
      · rename_i last
        rw [last, List.length_nil] at whole
        omega
      · rw [Bool.and_eq_true] at parsed
        have short := isIPv4_length parsed.1
        omega
      · cases parsed
      · rename_i last
        rw [last] at whole
        simp only [List.length_cons, List.length_nil] at whole
        omega
      · rename_i rest _ next
        rw [next] at whole
        rw [Bool.and_eq_true, Bool.not_eq_true'] at parsed
        have later := ih parsed.2
        simp only [List.length_cons] at whole
        rw [parsed.1]
        simp only [if_true, Bool.false_eq_true, if_false] at later ⊢
        omega
      · rename_i rest _ _ _ next
        rw [next] at whole
        have later := ih parsed
        simp only [List.length_cons] at whole
        omega
      · cases parsed

theorem isIP_length {text : List Char} (parsed : isIP text = true) : text.length ≤ 64 := by
  rw [isIP] at parsed
  split at parsed
  · exact (isIPv4_length parsed).trans (by norm_num)
  · unfold isIPv6 at parsed
    split at parsed
    · simp
    · have rest := isIPv6From_length parsed
      simp only [if_true, List.length_cons] at rest ⊢
      omega
    · have rest := isIPv6From_length parsed
      simp only [Bool.false_eq_true, if_false] at rest
      omega
  · cases parsed

theorem isMAC_length {text : List Char} (parsed : isMAC text = true) : text.length ≤ 17 := by
  simp only [isMAC] at parsed
  split at parsed <;> rw [Bool.and_eq_true, decide_eq_true_eq] at parsed <;> omega

end OpenAssetWatch.Sensor
