import OpenAssetWatch.Text.Unicode

namespace OpenAssetWatch.Text

def maxComponentName : Nat := 240
def maxComponentVersion : Nat := 160

def isControl (c : Char) : Bool := c.toNat ≤ 0x1f || c.toNat == 0x7f

/-- `none` stands for any value that is not a string. -/
def boundedText (limit : Nat) (value : Option String) : List Char :=
  match value with
  | none => []
  | some text =>
    let cleaned := joinWords (words text.toList)
    if cleaned.isEmpty || cleaned.any isControl then [] else cleaned.take limit

def isSeparator (c : Char) : Bool := isSpace c || c == '_' || c == '/' || c == '\\'

def isTokenChar (c : Char) : Bool :=
  ('a' ≤ c && c ≤ 'z') || ('0' ≤ c && c ≤ '9') || c == '.' || c == '+' || c == '~' || c == '-'

def tokenText (text : List Char) : List Char :=
  let spaced := hyphenateRuns isSeparator false text
  let safe := hyphenateRuns (!isTokenChar ·) false spaced
  stripChars (fun c => c == '-' || c == '.') (hyphenateRuns (· == '-') false safe)

def normalizedToken (limit : Nat) (value : Option String) : String :=
  String.ofList (tokenText (casefold (boundedText limit value)))

def normalizeVersionText (value : Option String) : Option (List Char) :=
  let version := boundedText maxComponentVersion value
  if version.isEmpty then
    none
  else if version.any isSpace then
    some (joinWords (words version))
  else
    some version

/-- Lower-case letters and digits: every step of the normalisation keeps them wherever they stand. -/
def isPlain (c : Char) : Bool := ('a' ≤ c && c ≤ 'z') || ('0' ≤ c && c ≤ '9')

section Plain

variable {c : Char} (plain : isPlain c = true)
include plain

theorem plain_range : (97 ≤ c.toNat ∧ c.toNat ≤ 122) ∨ (48 ≤ c.toNat ∧ c.toNat ≤ 57) := by
  simp only [isPlain, Bool.or_eq_true, Bool.and_eq_true, decide_eq_true_eq, Char.le_def,
    UInt32.le_iff_toNat_le] at plain
  exact plain

theorem plain_not_space : isSpace c = false := by
  have range := plain_range plain
  simp only [isSpace, Bool.or_eq_false_iff, Bool.and_eq_false_iff, decide_eq_false_iff_not,
    beq_eq_false_iff_ne]
  omega

theorem plain_not_control : isControl c = false := by
  have range := plain_range plain
  simp only [isControl, Bool.or_eq_false_iff, decide_eq_false_iff_not, beq_eq_false_iff_ne]
  omega

theorem plain_casefold : casefoldChar c = [c] := by
  have range := plain_range plain
  have ascii : c.toNat < 128 := by omega
  have lower : ¬ (c.val ≥ 'A'.val ∧ c.val ≤ 'Z'.val) := by
    intro upper
    have low : 65 ≤ c.toNat := UInt32.le_iff_toNat_le.mp upper.1
    have high : c.toNat ≤ 90 := UInt32.le_iff_toNat_le.mp upper.2
    omega
  rw [casefoldChar, if_pos ascii, Char.toLower, dif_neg lower]

theorem plain_ne {d : Char} (hd : isPlain d = false) : (c == d) = false := by
  rw [beq_eq_false_iff_ne]
  rintro rfl
  rw [plain] at hd
  cases hd

theorem plain_token : isTokenChar c = true := by
  simp only [isPlain, Bool.or_eq_true] at plain
  simp only [isTokenChar, Bool.or_eq_true]
  exact .inl (.inl (.inl (.inl plain)))

theorem plain_not_separator : isSeparator c = false := by
  simp only [isSeparator, plain_not_space plain, plain_ne plain (d := '_') rfl,
    plain_ne plain (d := '/') rfl, plain_ne plain (d := '\\') rfl, Bool.or_false]

end Plain

theorem hyphenateRuns_none {p : Char → Bool} {text : List Char} (h : ∀ c ∈ text, p c = false)
    (inRun : Bool) : hyphenateRuns p inRun text = text := by
  induction text generalizing inRun with
  | nil => rfl
  | cons c rest ih =>
    have hc := h c List.mem_cons_self
    simp only [hyphenateRuns, hc, Bool.false_eq_true, if_false]
    rw [ih fun d hd => h d (List.mem_cons_of_mem _ hd)]

theorem dropWhile_none {p : Char → Bool} {text : List Char} (h : ∀ c ∈ text, p c = false) :
    text.dropWhile p = text := by
  cases text with
  | nil => rfl
  | cons c rest => rw [List.dropWhile_cons_of_neg (by rw [h c List.mem_cons_self]; decide)]

theorem stripChars_none {p : Char → Bool} {text : List Char} (h : ∀ c ∈ text, p c = false) :
    stripChars p text = text := by
  have back : ∀ c ∈ text.reverse, p c = false := fun c hc => h c (List.mem_reverse.mp hc)
  rw [stripChars, dropWhile_none h, dropWhile_none back, List.reverse_reverse]

theorem boundedText_clean {limit : Nat} {text : List Char}
    (spaces : ∀ c ∈ text, isSpace c = false) (controls : ∀ c ∈ text, isControl c = false) :
    boundedText limit (some (String.ofList text)) = text.take limit := by
  have single : joinWords (words text) = text := by
    rw [words, List.splitOnP_eq_singleton spaces]
    cases text <;> simp [joinWords, List.intercalate_singleton]
  have clean : text.any isControl = false := by
    rw [List.any_eq_false]
    intro c hc
    rw [controls c hc]
    decide
  simp only [boundedText, String.toList_ofList, single, clean, Bool.or_false]
  split
  · rename_i empty
    rw [List.isEmpty_iff.mp empty, List.take_nil]
  · rfl

section PlainText

variable {text : List Char} (plain : ∀ c ∈ text, isPlain c = true)
include plain

theorem tokenText_plain : tokenText text = text := by
  have separators : ∀ c ∈ text, isSeparator c = false := fun c hc => plain_not_separator (plain c hc)
  have tokens : ∀ c ∈ text, (!isTokenChar c) = false := by
    intro c hc
    rw [plain_token (plain c hc)]
    rfl
  have hyphens : ∀ c ∈ text, (c == '-') = false := fun c hc => plain_ne (plain c hc) rfl
  have ends : ∀ c ∈ text, (c == '-' || c == '.') = false := by
    intro c hc
    rw [hyphens c hc, plain_ne (plain c hc) rfl]
    rfl
  simp only [tokenText]
  rw [hyphenateRuns_none separators, hyphenateRuns_none tokens, hyphenateRuns_none hyphens,
    stripChars_none ends]

theorem casefold_plain : casefold text = text := by
  induction text with
  | nil => rfl
  | cons c rest ih =>
    rw [casefold, List.flatMap_cons, plain_casefold (plain c List.mem_cons_self)]
    exact congrArg (c :: ·) (ih fun d hd => plain d (List.mem_cons_of_mem _ hd))

/-- A name of lower-case letters and digits is only ever cut to the limit. -/
theorem normalizedToken_plain {limit : Nat} :
    normalizedToken limit (some (String.ofList text)) = String.ofList (text.take limit) := by
  have kept : ∀ c ∈ text.take limit, isPlain c = true := fun c hc => plain c (List.mem_of_mem_take hc)
  rw [normalizedToken, boundedText_clean (fun c hc => plain_not_space (plain c hc))
    (fun c hc => plain_not_control (plain c hc)), casefold_plain kept, tokenText_plain kept]

end PlainText

theorem splitOnP_weight (p : Char → Bool) (text : List Char) :
    ((text.splitOnP p).map fun part => part.length + 1).sum = text.length + 1 := by
  induction text with
  | nil => rfl
  | cons c rest ih =>
    rw [List.splitOnP_cons_eq_if_modifyHead]
    split
    · rw [List.map_cons, List.sum_cons, ih, List.length_nil, List.length_cons]
      omega
    · cases h : rest.splitOnP p with
      | nil => exact absurd h (List.splitOnP_ne_nil _ _)
      | cons part parts =>
        rw [h, List.map_cons, List.sum_cons] at ih
        rw [List.modifyHead_cons, List.map_cons, List.sum_cons, List.length_cons, List.length_cons]
        omega

theorem joinWords_length (parts : List (List Char)) :
    (joinWords parts).length ≤ (parts.map fun part => part.length + 1).sum - 1 := by
  induction parts with
  | nil => exact Nat.le_refl _
  | cons part parts ih =>
    cases parts with
    | nil => simp [joinWords, List.intercalate]
    | cons next parts =>
      have step : joinWords (part :: next :: parts) = part ++ ' ' :: joinWords (next :: parts) := by
        simp [joinWords, List.intercalate]
      have positive : 1 ≤ ((next :: parts).map fun part => part.length + 1).sum := by
        rw [List.map_cons, List.sum_cons]
        omega
      rw [step, List.length_append, List.length_cons, List.map_cons, List.sum_cons]
      omega

theorem joinWords_words_length (text : List Char) : (joinWords (words text)).length ≤ text.length := by
  have kept : ((words text).map fun part => part.length + 1).sum ≤ ((text.splitOnP isSpace).map fun part => part.length + 1).sum :=
    List.Sublist.sum_le_sum (List.Sublist.map _ List.filter_sublist) (fun _ _ => Nat.zero_le _)
  rw [splitOnP_weight] at kept
  exact (joinWords_length _).trans (by omega)

/-- The limit of the bounded text is a bound on the normalised version. -/
theorem normalizeVersionText_length {value : Option String} {text : List Char} (h : normalizeVersionText value = some text) :
    text.length ≤ 160 := by
  have bounded : (boundedText maxComponentVersion value).length ≤ 160 := by
    unfold boundedText
    split
    · exact Nat.zero_le _
    · dsimp only
      split
      · exact Nat.zero_le _
      · exact (List.length_take_le _ _)
  simp only [normalizeVersionText] at h
  split at h
  · cases h
  · split at h
    · cases h
      exact (joinWords_words_length _).trans bounded
    · cases h
      exact bounded

end OpenAssetWatch.Text
