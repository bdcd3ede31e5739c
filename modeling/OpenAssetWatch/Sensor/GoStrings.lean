import OpenAssetWatch.Sensor.HubFields

namespace OpenAssetWatch.Sensor

open OpenAssetWatch.Text Ingestion

namespace GoString

/-- `strings.TrimSpace`. -/
def trimmed (value : GoString) : GoString :=
  ((value.dropWhile (isGoSpace ·.decoded)).reverse.dropWhile (isGoSpace ·.decoded)).reverse

/-- What `unicode.ToLower` makes of a rune, with its table beyond ASCII. -/
def lowerRune (beyond : Char → Char) : Rune → Rune
  | .char c => .char (if c.toNat < 128 then c.toLower else beyond c)
  | .invalid _ => .char (Char.ofNat 0xFFFD)

/-- `strings.ToLower`. -/
def toLower (beyond : Char → Char) (value : GoString) : GoString := value.map (lowerRune beyond)

/-- The bytes of a Go string. -/
def bytes (value : GoString) : List UInt8 :=
  value.flatMap fun
    | .char c => String.utf8EncodeChar c
    | .invalid byte => [byte]

/-- `strings.Join` with a NUL byte. -/
def joinNul (parts : List GoString) : GoString := [Rune.char (Char.ofNat 0)].intercalate parts

/-- What `encoding/json` and a contract that strips white space make of a text. -/
def received (value : GoString) : String := String.ofList (stripChars isWhiteSpace value.runes)

variable {value : GoString}

theorem runes_trimmed (value : GoString) : (trimmed value).runes = stripChars isGoSpace value.runes := by
  show (((value.dropWhile (isGoSpace ∘ Rune.decoded)).reverse.dropWhile (isGoSpace ∘ Rune.decoded)).reverse).map Rune.decoded = _
  rw [List.map_reverse, ← List.dropWhile_map, List.map_reverse, ← List.dropWhile_map]
  rfl

theorem trimmed_sublist (value : GoString) : (trimmed value).Sublist value := by
  have front := List.dropWhile_sublist (isGoSpace ·.decoded) (l := value)
  have back := List.dropWhile_sublist (isGoSpace ·.decoded) (l := (value.dropWhile (isGoSpace ·.decoded)).reverse)
  have back := back.reverse
  rw [List.reverse_reverse] at back
  exact back.trans front

theorem byteLength_le_of_sublist {other : GoString} (sublist : value.Sublist other) : value.byteLength ≤ other.byteLength :=
  (sublist.map Rune.size).sum_le_sum fun _ _ => Nat.zero_le _

theorem length_runes (value : GoString) : value.runes.length = value.length := List.length_map _

theorem received_of_trimmed (whole : stripChars isGoSpace value.runes = value.runes) : received value = String.ofList value.runes := by
  unfold received
  rw [isWhiteSpace_eq, whole]

theorem length_toLower (beyond : Char → Char) (value : GoString) : (toLower beyond value).length = value.length :=
  List.length_map _

end GoString

end OpenAssetWatch.Sensor
