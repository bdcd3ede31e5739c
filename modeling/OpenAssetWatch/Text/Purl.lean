import OpenAssetWatch.Text.Normalize

namespace OpenAssetWatch.Text

def hexDigit (n : Nat) : Char := if n < 10 then Char.ofNat (48 + n) else Char.ofNat (55 + n)

def hexValue (c : Char) : Option Nat :=
  if c.isDigit then some (c.toNat - 48)
  else if 'A' ≤ c && c ≤ 'F' then some (c.toNat - 55)
  else if 'a' ≤ c && c ≤ 'f' then some (c.toNat - 87)
  else none

def utf8Bytes (c : Char) : List Nat :=
  let n := c.toNat
  if n < 0x80 then [n]
  else if n < 0x800 then [0xC0 + n / 64, 0x80 + n % 64]
  else if n < 0x10000 then [0xE0 + n / 4096, 0x80 + n / 64 % 64, 0x80 + n % 64]
  else [0xF0 + n / 262144, 0x80 + n / 4096 % 64, 0x80 + n / 64 % 64, 0x80 + n % 64]

def percentEncode (byte : Nat) : List Char := ['%', hexDigit (byte / 16), hexDigit (byte % 16)]

/-- `urllib.parse.quote`: letters, digits, `_.-~` and the characters of `safe` stand for themselves. -/
def quote (safe : List Char) (value : List Char) : List Char :=
  value.flatMap fun c =>
    if c.isAlphanum || c == '_' || c == '.' || c == '-' || c == '~' || safe.contains c then [c]
    else (utf8Bytes c).flatMap percentEncode

/-- A started UTF-8 sequence: continuation bytes missing, bits so far, range of the next byte. -/
structure Utf8Pending where
  missing : Nat
  code : Nat
  low : Nat
  high : Nat

def replacement : Char := Char.ofNat 0xFFFD

def utf8Start (byte : Nat) : List Char × Option Utf8Pending :=
  if byte < 0x80 then ([Char.ofNat byte], none)
  else if 0xC2 ≤ byte && byte ≤ 0xDF then ([], some ⟨1, byte - 0xC0, 0x80, 0xBF⟩)
  else if byte == 0xE0 then ([], some ⟨2, 0, 0xA0, 0xBF⟩)
  else if byte == 0xED then ([], some ⟨2, 0xD, 0x80, 0x9F⟩)
  else if 0xE1 ≤ byte && byte ≤ 0xEF then ([], some ⟨2, byte - 0xE0, 0x80, 0xBF⟩)
  else if byte == 0xF0 then ([], some ⟨3, 0, 0x90, 0xBF⟩)
  else if byte == 0xF4 then ([], some ⟨3, 4, 0x80, 0x8F⟩)
  else if 0xF1 ≤ byte && byte ≤ 0xF3 then ([], some ⟨3, byte - 0xF0, 0x80, 0xBF⟩)
  else ([replacement], none)

def utf8Flush (pending : Option Utf8Pending) : List Char := if pending.isSome then [replacement] else []

/-- One byte of `bytes.decode("utf-8", "replace")`. -/
def utf8Step (pending : Option Utf8Pending) (byte : Nat) : List Char × Option Utf8Pending :=
  match pending with
  | none => utf8Start byte
  | some state =>
    if state.low ≤ byte && byte ≤ state.high then
      let code := state.code * 64 + (byte - 0x80)
      if state.missing ≤ 1 then ([Char.ofNat code], none)
      else ([], some ⟨state.missing - 1, code, 0x80, 0xBF⟩)
    else
      let (chars, next) := utf8Start byte
      (replacement :: chars, next)

def unquoteFrom (pending : Option Utf8Pending) : List Char → List Char
  | [] => utf8Flush pending
  | c :: rest =>
    if c == '%' then
      match rest with
      | high :: low :: rest =>
        match hexValue high, hexValue low with
        | some h, some l =>
          (utf8Step pending (h * 16 + l)).1 ++ unquoteFrom (utf8Step pending (h * 16 + l)).2 rest
        | _, _ =>
          (utf8Step pending c.toNat).1 ++ unquoteFrom (utf8Step pending c.toNat).2 (high :: low :: rest)
      | rest => (utf8Step pending c.toNat).1 ++ unquoteFrom (utf8Step pending c.toNat).2 rest
    else if c.toNat < 0x80 then
      (utf8Step pending c.toNat).1 ++ unquoteFrom (utf8Step pending c.toNat).2 rest
    else
      utf8Flush pending ++ c :: unquoteFrom none rest

def unquote (value : List Char) : List Char := unquoteFrom none value

def purlTypes : List String :=
  ["pypi", "npm", "maven", "nuget", "golang", "deb", "rpm", "alpine", "generic"]

structure ParsedPurl where
  ecosystem : String
  packageNamespace : Option (List Char)
  name : List Char
  version : Option (List Char)
  canonical : List Char
deriving DecidableEq

def purlSegment (value : List Char) : List Char := quote ['.', '_', '-', '~', '+'] value

def isSegmentChar (c : Char) : Bool := c.isAlphanum || c == '.' || c == '_' || c == '+' || c == '~' || c == '-'

def safePurlSegment (value : List Char) : Bool :=
  match value with
  | [] => false
  | c :: rest => c.isAlphanum && rest.all isSegmentChar && rest.length ≤ 239

def canonicalPurlName (ecosystem : String) (value : List Char) : Option (List Char) :=
  if value.isEmpty || value.contains '/' || value.contains '\\' then
    none
  else
    let value :=
      if ecosystem = "pypi" then
        casefold (hyphenateRuns (fun c => c == '-' || c == '_' || c == '.') false value)
      else if ecosystem ∈ ["npm", "nuget", "deb", "rpm", "alpine"] then casefold value
      else value
    if safePurlSegment value then some value else none

def canonicalNamespacePart (ecosystem : String) (index : Nat) (part : List Char) : Option (List Char) :=
  if ecosystem = "npm" && index == 0 && part.head? == some '@' then
    let part := part.tail
    if part.isEmpty then none
    else if safePurlSegment (casefold part) then some ('@' :: casefold part)
    else none
  else
    let part := if ecosystem ∈ ["deb", "rpm", "alpine"] then casefold part else part
    if safePurlSegment part then some part else none

def canonicalPurlNamespace (ecosystem : String) (value : Option (List Char)) : Option (List Char) :=
  match value with
  | none | some [] => none
  | some value =>
    if ecosystem ∈ ["pypi", "nuget"] then
      none
    else
      let parts := value.splitOn '/'
      if parts.any (fun part => part.isEmpty || part == ['.'] || part == ['.', '.']) then
        none
      else
        ((parts.mapIdx (canonicalNamespacePart ecosystem)).mapM id).map (['/'].intercalate ·)

def buildPurl (ecosystem : String) (packageNamespace : Option (List Char)) (name : List Char)
    (version : Option (List Char)) : Option (List Char) :=
  let safeNamespace := canonicalPurlNamespace ecosystem packageNamespace
  if ecosystem ∉ purlTypes then
    none
  else
    match canonicalPurlName ecosystem name with
    | none => none
    | some safeName =>
      if packageNamespace.getD [] ≠ [] ∧ safeNamespace = none then
        none
      else
        let directory :=
          match safeNamespace with
          | some (c :: rest) => ['/'].intercalate (((c :: rest).splitOn '/').map purlSegment) ++ ['/']
          | _ => []
        let suffix :=
          match normalizeVersionText (version.map String.ofList) with
          | some safeVersion => '@' :: quote ['.', '_', '+', '~', ':', '-'] safeVersion
          | none => []
        some ("pkg:".toList ++ ecosystem.toList ++ ['/'] ++ directory ++ purlSegment safeName ++ suffix)

/-- A percent sign that two hexadecimal digits do not follow. -/
def badEscape : List Char → Bool
  | [] => false
  | c :: rest =>
    (c == '%' && ((rest.take 2).length < 2 || (rest.take 2).any (hexValue · |>.isNone))) || badEscape rest

structure PurlMatch where
  type : List Char
  packageNamespace : List Char
  name : List Char
  version : List Char

/-- The longest `namespace/` in front of a nonempty name. -/
def splitPath (path : List Char) : List Char × List Char :=
  let slash (i : Nat) : Bool := path[i]? == some '/' && 0 < i && i + 1 < path.length
  match (List.range path.length).reverse.find? slash with
  | some i => (path.take i, path.drop (i + 1))
  | none => ([], path)

def isTypeChar (c : Char) : Bool :=
  ('a' ≤ c && c ≤ 'z') || c.isDigit || c == '.' || c == '+' || c == '-'

def matchPurl (raw : List Char) : Option PurlMatch :=
  let rest := raw.drop 4
  let type := rest.takeWhile isTypeChar
  let path := (rest.dropWhile isTypeChar).tail.takeWhile (· != '@')
  let version := (rest.dropWhile isTypeChar).tail.dropWhile (· != '@')
  if raw.take 4 != "pkg:".toList || !(type.head?.any fun c => 'a' ≤ c && c ≤ 'z')
      || (rest.dropWhile isTypeChar).head? != some '/' || path.isEmpty || version == ['@'] then
    none
  else
    some { type, packageNamespace := (splitPath path).1, name := (splitPath path).2, version := version.tail }

def nonempty (value : List Char) : Option (List Char) := if value.isEmpty then none else some value

def parsePurl (value : Option String) : Option ParsedPurl :=
  let raw := boundedText 600 value
  if raw.isEmpty || raw != stripChars isSpace raw || raw.contains '?' || raw.contains '#' || badEscape raw then
    none
  else
    match matchPurl raw with
    | none => none
    | some found =>
      let ecosystem := String.ofList found.type
      let packageNamespace := unquote found.packageNamespace
      let name := unquote found.name
      let safeNamespace := canonicalPurlNamespace ecosystem (nonempty packageNamespace)
      if ecosystem ∉ purlTypes || name.contains '/' || packageNamespace.contains '\\' || name.contains '\\'
          || (!packageNamespace.isEmpty && safeNamespace.isNone) then
        none
      else
        match canonicalPurlName ecosystem name with
        | none => none
        | some safeName =>
          let version := normalizeVersionText ((nonempty (unquote found.version)).map String.ofList)
          (buildPurl ecosystem safeNamespace safeName version).map fun canonical =>
            { ecosystem, packageNamespace := safeNamespace, name := safeName, version, canonical }

def purlIdentity (value : Option String) : Option String :=
  (parsePurl value).bind fun parsed =>
    (buildPurl parsed.ecosystem parsed.packageNamespace parsed.name none).map String.ofList

end OpenAssetWatch.Text
