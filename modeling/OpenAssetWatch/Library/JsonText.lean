import Mathlib

namespace Library

/-- A JSON document as its text gives it: a number keeps its literal, an object the order of its keys. -/
inductive JsonDoc where
  | null
  | bool (value : Bool)
  | number (literal : List Char)
  | string (text : List Char)
  | array (items : List JsonDoc)
  | object (entries : List (List Char × JsonDoc))

namespace JsonText

section Printing

def hexDigit (n : Nat) : Char := if n < 10 then Char.ofNat (48 + n) else Char.ofNat (87 + n)

def unicodeEscape (codeUnit : Nat) : List Char :=
  ['\\', 'u', hexDigit (codeUnit / 4096 % 16), hexDigit (codeUnit / 256 % 16), hexDigit (codeUnit / 16 % 16),
    hexDigit (codeUnit % 16)]

/-- The two code units of a character beyond the basic plane. -/
def surrogates (code : Nat) : Nat × Nat := (0xD800 + (code - 0x10000) / 1024, 0xDC00 + (code - 0x10000) % 1024)

/-- A character of a string in ASCII. -/
def escape (c : Char) : List Char :=
  match c with
  | '"' => ['\\', '"']
  | '\\' => ['\\', '\\']
  | '\n' => ['\\', 'n']
  | '\r' => ['\\', 'r']
  | '\t' => ['\\', 't']
  | '\x0c' => ['\\', 'f']
  | '\x08' => ['\\', 'b']
  | c =>
    if 32 ≤ c.toNat ∧ c.toNat < 127 then [c]
    else if c.toNat < 0x10000 then unicodeEscape c.toNat
    else unicodeEscape (surrogates c.toNat).1 ++ unicodeEscape (surrogates c.toNat).2

def printString (text : List Char) : List Char := '"' :: (text.flatMap escape ++ ['"'])

def isBlank (c : Char) : Bool := c = ' ' || c = '\t' || c = '\n' || c = '\r'

/-- Where a printer puts blanks: at the start of the lines at each depth, and after colons. -/
structure Layout where
  line : Nat → List Char
  colon : List Char
  line_blank : ∀ depth, ∀ c ∈ line depth, isBlank c = true
  colon_blank : ∀ c ∈ colon, isBlank c = true

/-- No blanks at all. -/
def compact : Layout := ⟨fun _ => [], [], by simp, by simp⟩

/-- Each value on a line of its own, `width` blanks deeper than the one that holds it. -/
def indented (width : Nat) : Layout where
  line depth := '\n' :: List.replicate (width * depth) ' '
  colon := [' ']
  line_blank := by
    intro depth c member
    rcases List.mem_cons.mp member with rfl | member
    · rfl
    · rw [(List.mem_replicate.mp member).2]
      rfl
  colon_blank := by simp [isBlank]

variable (layout : Layout)

mutual

def print (depth : Nat) : JsonDoc → List Char
  | .null => ['n', 'u', 'l', 'l']
  | .bool true => ['t', 'r', 'u', 'e']
  | .bool false => ['f', 'a', 'l', 's', 'e']
  | .number literal => literal
  | .string text => printString text
  | .array [] => ['[', ']']
  | .array (item :: items) =>
    '[' :: (layout.line (depth + 1) ++ (print (depth + 1) item ++ printItems (depth + 1) items) ++ layout.line depth ++ [']'])
  | .object [] => ['{', '}']
  | .object ((key, value) :: entries) =>
    '{' :: (layout.line (depth + 1) ++ (printString key ++ ':' :: (layout.colon ++ print (depth + 1) value) ++
      printEntries (depth + 1) entries) ++ layout.line depth ++ ['}'])

def printItems (depth : Nat) : List JsonDoc → List Char
  | [] => []
  | item :: items => ',' :: (layout.line depth ++ (print depth item ++ printItems depth items))

def printEntries (depth : Nat) : List (List Char × JsonDoc) → List Char
  | [] => []
  | (key, value) :: entries =>
    ',' :: (layout.line depth ++ (printString key ++ ':' :: (layout.colon ++ print depth value) ++ printEntries depth entries))

end

end Printing

section Reading

def skip (text : List Char) : List Char := text.dropWhile isBlank

def hexValue (c : Char) : Option Nat :=
  if '0' ≤ c ∧ c ≤ '9' then some (c.toNat - 48)
  else if 'a' ≤ c ∧ c ≤ 'f' then some (c.toNat - 87)
  else if 'A' ≤ c ∧ c ≤ 'F' then some (c.toNat - 55)
  else none

def readUnit (a b c d : Char) : Option Nat := do
  return (← hexValue a) * 4096 + (← hexValue b) * 256 + (← hexValue c) * 16 + (← hexValue d)

def simpleEscape : Char → Option Nat
  | '"' => some 34
  | '\\' => some 92
  | '/' => some 47
  | 'n' => some 10
  | 'r' => some 13
  | 't' => some 9
  | 'f' => some 12
  | 'b' => some 8
  | _ => none

/-- The code units of a string, up to its closing quote, and the text behind it. -/
def units : List Char → Option (List Nat × List Char)
  | [] => none
  | '"' :: rest => some ([], rest)
  | '\\' :: 'u' :: a :: b :: c :: d :: rest =>
    (readUnit a b c d).bind fun unit => (units rest).map fun read => (unit :: read.1, read.2)
  | '\\' :: c :: rest => (simpleEscape c).bind fun unit => (units rest).map fun read => (unit :: read.1, read.2)
  | c :: rest => if c.toNat < 32 then none else (units rest).map fun read => (c.toNat :: read.1, read.2)

def isHigh (unit : Nat) : Bool := 0xD800 ≤ unit && unit < 0xDC00

def isLow (unit : Nat) : Bool := 0xDC00 ≤ unit && unit < 0xE000

/-- The characters of code units; a surrogate without its other half is no character. -/
def joinUnits : List Nat → Option (List Char)
  | [] => some []
  | [unit] => if isHigh unit || isLow unit then none else some [Char.ofNat unit]
  | first :: second :: rest =>
    if isHigh first && isLow second then
      (joinUnits rest).map (Char.ofNat (0x10000 + (first - 0xD800) * 1024 + (second - 0xDC00)) :: ·)
    else if isHigh first || isLow first then none
    else (joinUnits (second :: rest)).map (Char.ofNat first :: ·)

/-- A string behind its opening quote. -/
def readString (text : List Char) : Option (List Char × List Char) :=
  (units text).bind fun read => (joinUnits read.1).map fun chars => (chars, read.2)

def isDigit (c : Char) : Bool := '0' ≤ c && c ≤ '9'

def readFraction : List Char → List Char × List Char
  | '.' :: rest => if (rest.takeWhile isDigit).isEmpty then ([], '.' :: rest)
    else ('.' :: rest.takeWhile isDigit, rest.dropWhile isDigit)
  | rest => ([], rest)

def readExponent : List Char → List Char × List Char
  | e :: rest =>
    if e = 'e' ∨ e = 'E' then
      let sign := rest.takeWhile fun c => c = '+' || c = '-'
      let digits := rest.drop (min sign.length 1)
      if (digits.takeWhile isDigit).isEmpty then ([], e :: rest)
      else (e :: (sign.take 1 ++ digits.takeWhile isDigit), digits.dropWhile isDigit)
    else ([], e :: rest)
  | [] => ([], [])

def readNatural : List Char → Option (List Char × List Char)
  | '0' :: rest => some (['0'], rest)
  | c :: rest => if isDigit c then some (c :: rest.takeWhile isDigit, rest.dropWhile isDigit) else none
  | [] => none

/-- A number without its sign. -/
def readUnsigned (text : List Char) : Option (List Char × List Char) :=
  (readNatural text).map fun (whole, rest) =>
    let (fraction, rest) := readFraction rest
    let (exponent, rest) := readExponent rest
    (whole ++ fraction ++ exponent, rest)

def readWord (word : List Char) (doc : JsonDoc) (text : List Char) : Option (JsonDoc × List Char) :=
  if text.take word.length = word then some (doc, text.drop word.length) else none

/-- A value that is no string, array or object; the reader takes the names of the numbers that are not finite. -/
def readScalar : List Char → Option (JsonDoc × List Char)
  | 'n' :: rest => readWord ['n', 'u', 'l', 'l'] .null ('n' :: rest)
  | 't' :: rest => readWord ['t', 'r', 'u', 'e'] (.bool true) ('t' :: rest)
  | 'f' :: rest => readWord ['f', 'a', 'l', 's', 'e'] (.bool false) ('f' :: rest)
  | 'N' :: rest => readWord ['N', 'a', 'N'] (.number ['N', 'a', 'N']) ('N' :: rest)
  | 'I' :: rest => readWord "Infinity".toList (.number "Infinity".toList) ('I' :: rest)
  | '-' :: 'I' :: rest => readWord "-Infinity".toList (.number "-Infinity".toList) ('-' :: 'I' :: rest)
  | '-' :: rest => (readUnsigned rest).map fun read => (.number ('-' :: read.1), read.2)
  | text => (readUnsigned text).map fun read => (.number read.1, read.2)

section

variable (value : List Char → Option (JsonDoc × List Char))

def readItems : Nat → List Char → Option (List JsonDoc × List Char)
  | 0, _ => none
  | fuel + 1, text => (value text).bind fun read =>
    match skip read.2 with
    | [] => none
    | c :: rest =>
      if c = ']' then some ([read.1], rest)
      else if c = ',' then (readItems fuel (skip rest)).map fun others => (read.1 :: others.1, others.2)
      else none

def readEntries : Nat → List Char → Option (List (List Char × JsonDoc) × List Char)
  | 0, _ => none
  | _, [] => none
  | fuel + 1, quote :: text =>
    if quote ≠ '"' then none
    else (readString text).bind fun key =>
      match skip key.2 with
      | [] => none
      | colon :: rest =>
        if colon ≠ ':' then none
        else (value (skip rest)).bind fun read =>
          match skip read.2 with
          | [] => none
          | c :: rest =>
            if c = '}' then some ([(key.1, read.1)], rest)
            else if c = ',' then (readEntries fuel (skip rest)).map fun others => ((key.1, read.1) :: others.1, others.2)
            else none

end

def readValue : Nat → List Char → Option (JsonDoc × List Char)
  | 0, _ => none
  | _, [] => none
  | fuel + 1, c :: text =>
    if c = '"' then (readString text).map fun read => (.string read.1, read.2)
    else if c = '[' then
      if (skip text).head? = some ']' then some (.array [], (skip text).tail)
      else (readItems (readValue fuel) fuel (skip text)).map fun read => (.array read.1, read.2)
    else if c = '{' then
      if (skip text).head? = some '}' then some (.object [], (skip text).tail)
      else (readEntries (readValue fuel) fuel (skip text)).map fun read => (.object read.1, read.2)
    else readScalar (c :: text)

/-- The document of a text. -/
def loads (text : List Char) : Option JsonDoc :=
  match readValue (text.length + 1) (skip text) with
  | some (doc, rest) => if skip rest = [] then some doc else none
  | none => none

end Reading

end JsonText

end Library
