import OpenAssetWatch.Kev.Store
import OpenAssetWatch.Library.JsonMeasure
import OpenAssetWatch.Text.Strip

namespace OpenAssetWatch.Kev

open Library Library.JsonText Text

section Dates

def digit (n : Nat) : Char := Char.ofNat (48 + n % 10)

def number (digits : List Char) : Nat := digits.foldl (fun value c => value * 10 + (c.toNat - 48)) 0

theorem isDigit_digit (n : Nat) : isDigit (digit n) = true := by
  have all : ∀ d < 10, isDigit (Char.ofNat (48 + d)) = true := by decide
  exact all _ (Nat.mod_lt n (by decide))

theorem toNat_digit (n : Nat) : (digit n).toNat - 48 = n % 10 := by
  have all : ∀ d < 10, (Char.ofNat (48 + d)).toNat - 48 = d := by decide
  exact all _ (Nat.mod_lt n (by decide))

def showTwo (n : Nat) : List Char := [digit (n / 10), digit n]

def showFour (n : Nat) : List Char := [digit (n / 1000), digit (n / 100), digit (n / 10), digit n]

def showSix (n : Nat) : List Char :=
  [digit (n / 100000), digit (n / 10000), digit (n / 1000), digit (n / 100), digit (n / 10), digit n]

theorem number_showTwo {n : Nat} (small : n < 100) : number (showTwo n) = n := by
  simp only [number, showTwo, List.foldl_cons, List.foldl_nil, toNat_digit]
  omega

theorem number_showFour {n : Nat} (small : n < 10000) : number (showFour n) = n := by
  simp only [number, showFour, List.foldl_cons, List.foldl_nil, toNat_digit]
  omega

theorem number_showSix {n : Nat} (small : n < 1000000) : number (showSix n) = n := by
  simp only [number, showSix, List.foldl_cons, List.foldl_nil, toNat_digit]
  omega

def Date.of? (year month day : Nat) : Option Date :=
  if valid : (1 ≤ year ∧ year ≤ 9999) ∧ (1 ≤ month ∧ month ≤ 12) ∧ 1 ≤ day ∧ day ≤ daysInMonth year month then
    some ⟨year, month, day, valid.1, valid.2.1, valid.2.2⟩
  else none

theorem Date.of?_self (date : Date) : Date.of? date.year date.month date.day = some date :=
  dif_pos ⟨date.year_range, date.month_range, date.day_range⟩

theorem daysInMonth_le (year month : Nat) : daysInMonth year month ≤ 31 := by
  unfold daysInMonth
  split
  · split <;> decide
  all_goals decide

/-- `date.isoformat`. -/
def Date.show (date : Date) : List Char := showFour date.year ++ '-' :: (showTwo date.month ++ '-' :: showTwo date.day)

/-- `_parse_date`. -/
def parseDate : List Char → Option Date
  | [a, b, c, d, dash, e, f, dash', g, h] =>
    if ([a, b, c, d, e, f, g, h].all isDigit && dash = '-' && dash' = '-') then
      Date.of? (number [a, b, c, d]) (number [e, f]) (number [g, h])
    else none
  | _ => none

theorem parseDate_show (date : Date) : parseDate date.show = some date := by
  obtain ⟨-, year⟩ := date.year_range
  obtain ⟨-, month⟩ := date.month_range
  have day : date.day ≤ 31 := date.day_range.2.trans (daysInMonth_le _ _)
  have one := number_showFour (n := date.year) (by omega)
  have two := number_showTwo (n := date.month) (by omega)
  have three := number_showTwo (n := date.day) (by omega)
  rw [showFour] at one
  rw [showTwo] at two three
  show (if _ then _ else none) = some date
  rw [if_pos (by simp [isDigit_digit]), one, two, three, date.of?_self]

def UtcDateTime.of? (date : Date) (hour minute second microsecond : Nat) : Option UtcDateTime :=
  if range : hour < 24 ∧ minute < 60 ∧ second < 60 ∧ microsecond < 1000000 then
    some ⟨date, hour, minute, second, microsecond, range⟩
  else none

/-- The microseconds of what follows the seconds; further digits are cut off. -/
def parseFraction (text : List Char) : Option Nat :=
  if text = ['Z'] then some 0
  else
    let digits := text.tail.takeWhile isDigit
    if text.head? = some '.' ∧ text.tail.dropWhile isDigit = ['Z'] ∧ 1 ≤ digits.length ∧ digits.length ≤ 9 then
      some (number ((digits ++ List.replicate 5 '0').take 6))
    else none

/-- `_parse_utc`. -/
def parseUtc (text : List Char) : Option UtcDateTime :=
  match parseDate (text.take 10), text.drop 10 with
  | some date, t :: a :: b :: colon :: c :: d :: colon' :: e :: f :: rest =>
    if t = 'T' && colon = ':' && colon' = ':' && [a, b, c, d, e, f].all isDigit then
      (parseFraction rest).bind fun microsecond =>
        UtcDateTime.of? date (number [a, b]) (number [c, d]) (number [e, f]) microsecond
    else none
  | _, _ => none

/-- How a release time is written. -/
def UtcDateTime.show (moment : UtcDateTime) : List Char :=
  moment.date.show ++ 'T' :: (showTwo moment.hour ++ ':' :: (showTwo moment.minute ++ ':' :: (showTwo moment.second ++
    if moment.microsecond = 0 then ['Z'] else '.' :: (showSix moment.microsecond ++ ['Z']))))

theorem parseFraction_show (moment : UtcDateTime) :
    parseFraction (if moment.microsecond = 0 then ['Z'] else '.' :: (showSix moment.microsecond ++ ['Z'])) =
      some moment.microsecond := by
  split
  · rename_i whole
    rw [whole]
    rfl
  · rw [parseFraction, if_neg (by simp)]
    have digits : ∀ c ∈ showSix moment.microsecond, isDigit c = true := by
      intro c member
      simp only [showSix, List.mem_cons, List.not_mem_nil, or_false] at member
      rcases member with rfl | rfl | rfl | rfl | rfl | rfl <;> exact isDigit_digit _
    have taken : (showSix moment.microsecond ++ ['Z']).takeWhile isDigit = showSix moment.microsecond := by
      rw [List.takeWhile_append_of_pos digits]
      exact List.append_nil _
    have left : (showSix moment.microsecond ++ ['Z']).dropWhile isDigit = ['Z'] := List.dropWhile_append_of_pos digits
    have size : ((showSix moment.microsecond ++ ['Z']).takeWhile isDigit).length = 6 := congrArg List.length taken
    have value : (((showSix moment.microsecond ++ ['Z']).takeWhile isDigit ++ List.replicate 5 '0').take 6) =
        showSix moment.microsecond := by
      rw [taken]
      rfl
    have condition : some '.' = some '.' ∧ (showSix moment.microsecond ++ ['Z']).dropWhile isDigit = ['Z'] ∧
        1 ≤ ((showSix moment.microsecond ++ ['Z']).takeWhile isDigit).length ∧
        ((showSix moment.microsecond ++ ['Z']).takeWhile isDigit).length ≤ 9 :=
      ⟨rfl, left, by omega, by omega⟩
    apply (if_pos condition).trans
    exact congrArg some ((congrArg number value).trans (number_showSix moment.range.2.2.2))

theorem parseUtc_show (moment : UtcDateTime) : parseUtc moment.show = some moment := by
  obtain ⟨hour, minute, second, -⟩ := moment.range
  have one := number_showTwo (n := moment.hour) (by omega)
  have two := number_showTwo (n := moment.minute) (by omega)
  have three := number_showTwo (n := moment.second) (by omega)
  rw [showTwo] at one two three
  have date : parseDate (moment.show.take 10) = some moment.date := parseDate_show moment.date
  rw [parseUtc, date]
  show (if _ then _ else none) = some moment
  rw [if_pos (by simp [isDigit_digit])]
  show ((parseFraction (if moment.microsecond = 0 then ['Z'] else '.' :: (showSix moment.microsecond ++ ['Z']))).bind _) = _
  rw [parseFraction_show, Option.bind_some, one, two, three]
  exact dif_pos moment.range

theorem length_show_date (date : Date) : date.show.length = 10 := rfl

/-- The length of a written release time. -/
def UtcDateTime.width (moment : UtcDateTime) : Nat := if moment.microsecond = 0 then 20 else 27

theorem UtcDateTime.length_show (moment : UtcDateTime) : moment.show.length = moment.width := by
  unfold UtcDateTime.show UtcDateTime.width
  split <;> rfl

end Dates

section Texts

/-- The whitespace that a validated text is trimmed of. -/
def isWhiteSpace (c : Char) : Bool :=
  let n := c.toNat
  (9 ≤ n && n ≤ 13) || n = 0x20 || n = 0x85 || n = 0xA0 || n = 0x1680 || (0x2000 ≤ n && n ≤ 0x200A) ||
    n = 0x2028 || n = 0x2029 || n = 0x202F || n = 0x205F || n = 0x3000

def trim (text : List Char) : List Char := stripChars isWhiteSpace text

def isControl (c : Char) : Bool :=
  let n := c.toNat
  n ≤ 8 || n = 11 || n = 12 || (14 ≤ n && n ≤ 31) || n = 127

/-- `_plain_text`. -/
def plainText (maximum : Nat) (text : List Char) : Bool :=
  !text.isEmpty && text.length ≤ maximum && !text.any isControl

def matchesCve (text : List Char) : Bool :=
  text.take 4 = ['C', 'V', 'E', '-'] && ((text.drop 4).take 4).length = 4 && ((text.drop 4).take 4).all isDigit &&
    (text.drop 8).take 1 = ['-'] && (text.drop 9).all isDigit && 4 ≤ (text.drop 9).length && (text.drop 9).length ≤ 19

def matchesCwe (text : List Char) : Bool :=
  text.take 4 = ['C', 'W', 'E', '-'] && (text.drop 4).all isDigit && 1 ≤ (text.drop 4).length

/-- `normalize_cve`; no character outside ASCII has an upper case that matches. -/
def normalizeCve (text : List Char) : Option (List Char) :=
  let normalized := (stripChars isSpace text).map Char.toUpper
  if matchesCve normalized then some normalized else none

/-- The characters of identifiers: they are no whitespace, their own upper case, and never escaped. -/
structure Plain (c : Char) : Prop where
  solid : isSpace c = false
  trimmed : isWhiteSpace c = false
  upper : c.toUpper = c
  verbatim : isVerbatim c = true

theorem plain_of_isDigit {c : Char} (number : isDigit c = true) : Plain c := by
  simp only [isDigit, Bool.and_eq_true, decide_eq_true_eq] at number
  have low : 48 ≤ c.toNat := number.1
  have high : c.toNat ≤ 57 := number.2
  have all : ∀ n, 48 ≤ n → n ≤ 57 → isSpace (Char.ofNat n) = false ∧ isWhiteSpace (Char.ofNat n) = false ∧
      (Char.ofNat n).toUpper = Char.ofNat n ∧ isVerbatim (Char.ofNat n) = true := by
    intro n low high
    interval_cases n <;> decide
  have here := all c.toNat low high
  rw [Char.ofNat_toNat] at here
  exact ⟨here.1, here.2.1, here.2.2.1, here.2.2.2⟩

theorem plain_cve {text : List Char} (shaped : matchesCve text = true) : ∀ c ∈ text, Plain c := by
  simp only [matchesCve, Bool.and_eq_true, decide_eq_true_eq, List.all_eq_true] at shaped
  obtain ⟨⟨⟨⟨⟨⟨cve, -⟩, year⟩, dash⟩, rest⟩, -⟩, -⟩ := shaped
  intro c member
  rw [← List.take_append_drop 4 text, cve, List.mem_append] at member
  rcases member with fixed | member
  · fin_cases fixed <;> exact ⟨by decide, by decide, by decide, by decide⟩
  rw [← List.take_append_drop 4 (text.drop 4), List.mem_append, List.drop_drop] at member
  rcases member with inYear | member
  · exact plain_of_isDigit (year c inYear)
  rw [← List.take_append_drop 1 (text.drop (4 + 4)), dash, List.mem_append, List.drop_drop] at member
  rcases member with isDash | inRest
  · fin_cases isDash
    exact ⟨by decide, by decide, by decide, by decide⟩
  · exact plain_of_isDigit (rest c inRest)

theorem plain_cwe {text : List Char} (shaped : matchesCwe text = true) : ∀ c ∈ text, Plain c := by
  simp only [matchesCwe, Bool.and_eq_true, decide_eq_true_eq, List.all_eq_true] at shaped
  obtain ⟨⟨cwe, rest⟩, -⟩ := shaped
  intro c member
  rw [← List.take_append_drop 4 text, cwe, List.mem_append] at member
  rcases member with fixed | inRest
  · fin_cases fixed <;> exact ⟨by decide, by decide, by decide, by decide⟩
  · exact plain_of_isDigit (rest c inRest)

theorem stripChars_of_none {p : Char → Bool} {text : List Char} (none : ∀ c ∈ text, p c = false) : stripChars p text = text :=
  stripChars_eq_self (fun c head => none c (List.mem_of_mem_head? head)) fun c last => none c (List.mem_of_mem_getLast? last)

theorem map_toUpper_of_plain {text : List Char} (plain : ∀ c ∈ text, Plain c) : text.map Char.toUpper = text := by
  rw [List.map_congr_left fun c member => (plain c member).upper]
  exact List.map_id text

theorem normalizeCve_self {text : List Char} (shaped : matchesCve text = true) : normalizeCve text = some text := by
  have plain := plain_cve shaped
  rw [normalizeCve, stripChars_of_none fun c member => (plain c member).solid, map_toUpper_of_plain plain]
  exact if_pos shaped

theorem trim_trim (text : List Char) : trim (trim text) = trim text := stripChars_stripChars _ _

end Texts

end OpenAssetWatch.Kev
