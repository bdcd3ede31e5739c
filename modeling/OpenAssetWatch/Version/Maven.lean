import OpenAssetWatch.Library.Comparator
import OpenAssetWatch.Version.Preorder
import OpenAssetWatch.Version.Tokens

namespace OpenAssetWatch.Version

open Library (firstDifference)
open Library.TupleOrder (Value compare? compareItems? compareItems?_then compareItems?_map compare?_nat compare?_self)

def mavenTokens (value : List Char) : List (List Char) := findTokens (fun _ => false) value

def mavenRelease (value : List Char) : List Nat := ((mavenTokens value).takeWhile isNumeric).map number

/-- The tokens from the first one on that is not a number, without their case. -/
def mavenQualifiers (value : List Char) : List (List Char) := ((mavenTokens value).dropWhile isNumeric).map Text.casefold

/-- The names of one qualifier; the release itself has the empty one. -/
def canonicalName (name : String) : String :=
  if name ∈ ["alpha", "a"] then "alpha"
  else if name ∈ ["beta", "b"] then "beta"
  else if name ∈ ["milestone", "m"] then "milestone"
  else if name ∈ ["rc", "cr"] then "rc"
  else if name ∈ ["", "ga", "final", "release"] then ""
  else name

inductive MavenToken where
  | number (n : Nat)
  | name (name : String)
deriving DecidableEq

def canonicalToken (token : List Char) : MavenToken :=
  if isNumeric token then .number (number token) else .name (canonicalName (String.ofList token))

def canonicalQualifiers (tokens : List (List Char)) : List MavenToken :=
  (tokens.map canonicalToken).rdropWhile (· == .name "")

/-- The tokens of a version up to trailing zeros of the release and the names of one qualifier. -/
def mavenCanonical (value : List Char) : List Nat × List MavenToken :=
  (trimRelease (mavenRelease value), canonicalQualifiers (mavenQualifiers value))

/-- Two versions that compare equal have the same tokens. -/
def KeepsTokens (left right : List Char) (order : Option Ordering) : Prop :=
  order = some .eq → mavenCanonical left = mavenCanonical right

/-- Where the first different tokens are two numbers, these decide by their values. -/
def NumbersByValue (left right : List Char) (order : Option Ordering) : Prop :=
  (∀ m n x y, firstDifference (mavenRelease left) (mavenRelease right) = (m :: x, n :: y) →
    order = some (compare m n)) ∧
  ∀ m n x y, trimRelease (mavenRelease left) = trimRelease (mavenRelease right) →
    firstDifference ((mavenQualifiers left).map canonicalToken) ((mavenQualifiers right).map canonicalToken) =
      (.number m :: x, .number n :: y) → order = some (compare m n)

/-- The number the code reads right after the first qualifier token. -/
def secondNumber (tokens : List (List Char)) : Nat :=
  match tokens with
  | _ :: second :: _ => if isNumeric second then number second else 0
  | _ => 0

/-- Two versions that differ in the second qualifier token only, neither of which is a number above zero. -/
def SecondLost (left right : List Char) : Prop :=
  trimRelease (mavenRelease left) = trimRelease (mavenRelease right) ∧
    canonicalQualifiers ((mavenQualifiers left).take 1) = canonicalQualifiers ((mavenQualifiers right).take 1) ∧
    secondNumber (mavenQualifiers left) = 0 ∧ secondNumber (mavenQualifiers right) = 0 ∧
    (mavenQualifiers left).drop 2 = (mavenQualifiers right).drop 2 ∧
    canonicalQualifiers (mavenQualifiers left) ≠ canonicalQualifiers (mavenQualifiers right)

/-- The first different tokens are numbers behind the second qualifier token, and the texts from there on come in
another order than these numbers. -/
def NumberAsText (left right : List Char) : Prop :=
  trimRelease (mavenRelease left) = trimRelease (mavenRelease right) ∧
    ((mavenQualifiers left).take 2).map canonicalToken = ((mavenQualifiers right).take 2).map canonicalToken ∧
    ∃ m n x y, firstDifference (((mavenQualifiers left).drop 2).map canonicalToken)
        (((mavenQualifiers right).drop 2).map canonicalToken) = (.number m :: x, .number n :: y) ∧
      List.compareLex compare ((mavenQualifiers left).drop 2) ((mavenQualifiers right).drop 2) ≠ compare m n

/-- Letters, digits, dots, underscores and hyphens with between one and `maxVersionParts` tokens. -/
def MavenAccepted (value : List Char) : Prop :=
  (value.all fun c => c.isAlphanum || c == '.' || c == '_' || c == '-') ∧ mavenTokens value ≠ [] ∧
    (mavenTokens value).length ≤ maxVersionParts

section Names

def knownName (name : String) : Bool := (qualifiers.lookup name).isSome

def nameRank (name : String) : Int := (qualifiers.lookup name).getD 2

def unknownName (name : String) : String := if knownName name then "" else name

theorem knownName_mem {name : String} (h : knownName name) : name ∈ qualifiers.map Prod.fst := by
  obtain ⟨rank, found⟩ := Option.isSome_iff_exists.mp h
  obtain ⟨before, after, shape, -⟩ := List.lookup_eq_some_iff.mp found
  rw [shape]
  exact List.mem_map.mpr ⟨(name, rank), List.mem_append_right _ List.mem_cons_self, rfl⟩

theorem names_table : ∀ a ∈ qualifiers.map Prod.fst, knownName a ∧ nameRank a < 2 ∧
    canonicalName a ∈ qualifiers.map Prod.fst ∧
    ∀ b ∈ qualifiers.map Prod.fst, nameRank a = nameRank b ↔ canonicalName a = canonicalName b := by
  decide

theorem unknown_canonical {name : String} (h : ¬ knownName name) : canonicalName name = name ∧ nameRank name = 2 := by
  have absent : name ∉ qualifiers.map Prod.fst := fun member => h (names_table name member).1
  have rank : qualifiers.lookup name = none := Option.not_isSome_iff_eq_none.mp h
  simp only [qualifiers, List.map_cons, List.map_nil, List.mem_cons, List.not_mem_nil, not_or] at absent
  simp only [canonicalName, List.mem_cons, List.not_mem_nil, or_false, absent, if_false, nameRank, rank]
  exact ⟨trivial, rfl⟩

theorem name_key_iff (a b : String) :
    nameRank a = nameRank b ∧ unknownName a = unknownName b ↔ canonicalName a = canonicalName b := by
  by_cases ha : knownName a <;> by_cases hb : knownName b
  · have table := (names_table a (knownName_mem ha)).2.2.2 b (knownName_mem hb)
    rw [unknownName, unknownName, if_pos ha, if_pos hb]
    exact ⟨fun h => table.mp h.1, fun h => ⟨table.mpr h, rfl⟩⟩
  · obtain ⟨canonical, rank⟩ := unknown_canonical hb
    obtain ⟨-, below, listed, -⟩ := names_table a (knownName_mem ha)
    constructor
    · intro h
      have same := h.1
      omega
    · intro h
      rw [h, canonical] at listed
      exact absurd (names_table b listed).1 hb
  · obtain ⟨canonical, rank⟩ := unknown_canonical ha
    obtain ⟨-, below, listed, -⟩ := names_table b (knownName_mem hb)
    constructor
    · intro h
      have same := h.1
      omega
    · intro h
      rw [← h, canonical] at listed
      exact absurd (names_table a listed).1 ha
  · rw [(unknown_canonical ha).1, (unknown_canonical hb).1, (unknown_canonical ha).2, (unknown_canonical hb).2,
      unknownName, unknownName, if_neg ha, if_neg hb]
    exact ⟨And.right, fun h => ⟨rfl, h⟩⟩

end Names

def headName (tokens : List (List Char)) : String := String.ofList (tokens.headD [])

theorem mavenQualifier_eq (tokens : List (List Char)) :
    mavenQualifier tokens = .tuple [.int (nameRank (headName tokens)), .str (unknownName (headName tokens)),
      natural (secondNumber tokens), .tuple ((tokens.drop 2).map text)] := by
  cases tokens with
  | nil => rfl
  | cons first rest =>
    cases rest with
    | nil => rfl
    | cons second rest => rfl

/-- The code's order of qualifier tokens. -/
def qualifierOrder (left right : List (List Char)) : Ordering :=
  (compare (nameRank (headName left)) (nameRank (headName right))).then
    ((compare (unknownName (headName left)) (unknownName (headName right))).then
      ((compare (secondNumber left) (secondNumber right)).then
        (List.compareLex compare (left.drop 2) (right.drop 2))))

def mavenOrder (left right : List Char) : Ordering :=
  (List.compareLex compare (trimRelease (mavenRelease left)) (trimRelease (mavenRelease right))).then
    (qualifierOrder (mavenQualifiers left) (mavenQualifiers right))

theorem compare_text (a b : List Char) : compare? (text a) (text b) = some (compare a b) := by
  rw [text, text, compare?, Library.Comparator.compare_ofList]

theorem compare_mavenQualifier (left right : List (List Char)) :
    compare? (mavenQualifier left) (mavenQualifier right) = some (qualifierOrder left right) := by
  rw [mavenQualifier_eq, mavenQualifier_eq]
  have tails : compareItems? [.tuple ((left.drop 2).map text)] [.tuple ((right.drop 2).map text)] =
      some ((List.compareLex compare (left.drop 2) (right.drop 2)).then .eq) :=
    compareItems?_then (compareItems?_map compare_text _ _) rfl
  rw [Ordering.then_eq] at tails
  exact compareItems?_then rfl (compareItems?_then rfl (compareItems?_then (compare?_nat _ _) tails))

def mavenKey (value : List Char) : Value :=
  .tuple [.tuple ((trimRelease (mavenRelease value)).map natural), mavenQualifier (mavenQualifiers value)]

theorem compare_mavenKey (left right : List Char) : compare? (mavenKey left) (mavenKey right) = some (mavenOrder left right) := by
  have qualifiers : compareItems? [mavenQualifier (mavenQualifiers left)] [mavenQualifier (mavenQualifiers right)] =
      some ((qualifierOrder (mavenQualifiers left) (mavenQualifiers right)).then .eq) :=
    compareItems?_then (compare_mavenQualifier _ _) rfl
  rw [Ordering.then_eq] at qualifiers
  exact compareItems?_then (compareItems?_map compare?_nat _ _) qualifiers

theorem maven_key {value : List Char} (accepted : MavenAccepted value) : maven value = .ok (mavenKey value) := by
  obtain ⟨alphabet, some, few⟩ := accepted
  have clean : value.any (fun c => !(c.isAlphanum || c == '.' || c == '_' || c == '-')) = false := by
    rw [List.any_eq_false]
    intro c member
    rw [List.all_eq_true.mp alphabet c member]
    decide
  have nonempty : (findTokens (fun _ => false) value).isEmpty = false := List.isEmpty_eq_false_iff.mpr some
  have bounded : ¬ maxVersionParts < (findTokens (fun _ => false) value).length := Nat.not_lt.mpr few
  simp only [maven, clean, nonempty, bounded, decide_false, Bool.or_false, Bool.false_eq_true, if_false]
  rfl

theorem compareVersions_maven {V : Type*} [LinearOrder V] (pep440 : List Char → Option V)
    {leftValue rightValue : Option String} {left right : List Char}
    (hl : Text.normalizeVersionText leftValue = some left) (hr : Text.normalizeVersionText rightValue = some right)
    (safeLeft : safeVersion left) (safeRight : safeVersion right) (acceptedLeft : MavenAccepted left)
    (acceptedRight : MavenAccepted right) :
    (compareVersions pep440 "maven" leftValue rightValue).order = some (mavenOrder left right) := by
  have ordered := compare_mavenKey left right
  have tuple : compareTuple (mavenKey left) (mavenKey right) = .ok (mavenOrder left right) := by rw [compareTuple, ordered]
  apply compareVersions_of_parsed pep440 "maven" hl hr safeLeft safeRight
  · intro same
    rw [same] at ordered ⊢
    exact compare?_self ordered
  · show (do return supported (← compareTuple (← maven left) (← maven right))) = Except.ok (supported (mavenOrder left right))
    rw [maven_key acceptedLeft, maven_key acceptedRight]
    show (do return supported (← compareTuple (mavenKey left) (mavenKey right))) = Except.ok (supported _)
    rw [tuple]
    rfl

section Qualifiers

variable {left right : List (List Char)}

theorem token_shape (value : List Char) : ∀ token ∈ mavenTokens value, isNumeric token ∨ ∃ c rest, token = c :: rest ∧ c.isAlpha := by
  match value with
  | [] => exact fun token h => by cases h
  | c :: rest =>
    have shorter : ∀ p : Char → Bool, (rest.dropWhile p).length < rest.length + 1 := fun p =>
      Nat.lt_succ_of_le (List.dropWhile_suffix _).length_le
    unfold mavenTokens
    by_cases digit : c.isDigit
    · rw [findTokens_digit digit]
      intro token member
      rcases List.mem_cons.mp member with rfl | later
      · left
        simp only [isNumeric, List.isEmpty_cons, Bool.not_false, Bool.true_and, List.all_cons, digit, List.all_eq_true]
        exact fun d hd => List.mem_takeWhile_imp hd
      · exact token_shape (rest.dropWhile Char.isDigit) token later
    · by_cases alpha : c.isAlpha
      · rw [findTokens_alpha alpha]
        intro token member
        rcases List.mem_cons.mp member with rfl | later
        · exact Or.inr ⟨c, _, rfl, alpha⟩
        · exact token_shape (rest.dropWhile Char.isAlpha) token later
      · rw [findTokens_other (Bool.eq_false_of_not_eq_true digit) (Bool.eq_false_of_not_eq_true alpha), if_neg (by decide)]
        exact token_shape rest
termination_by value.length
decreasing_by
  · exact shorter _
  · exact shorter _
  · exact Nat.lt_succ_self _

theorem lower_not_digit {c : Char} (alpha : c.isAlpha) : ∃ lower, Text.casefoldChar c = [lower] ∧ lower.isDigit = false := by
  have ascii : c.toNat < 128 := Nat.lt_of_le_of_lt (isAlpha_range alpha).2 (by decide)
  have table : ∀ n < 128, (Char.ofNat n).isAlpha → (Char.ofNat n).toLower.isDigit = false := by decide
  have here := table c.toNat ascii
  rw [Char.ofNat_toNat] at here
  exact ⟨c.toLower, by rw [Text.casefoldChar, if_pos ascii], here alpha⟩

theorem mavenQualifiers_word (value : List Char) : ∀ token ∈ (mavenQualifiers value).head?, isNumeric token = false := by
  intro token first
  rw [mavenQualifiers, List.head?_map] at first
  obtain ⟨raw, firstRaw, rfl⟩ := Option.map_eq_some_iff.mp first
  have word := List.head?_dropWhile_not isNumeric (mavenTokens value)
  rw [firstRaw] at word
  have listed : raw ∈ mavenTokens value := (List.dropWhile_sublist _).subset (List.mem_of_head? firstRaw)
  rcases token_shape value raw listed with numeric | ⟨c, rest, rfl, alpha⟩
  · have contrary : isNumeric raw = false := word
    rw [numeric] at contrary
    cases contrary
  · obtain ⟨lower, folded, notDigit⟩ := lower_not_digit alpha
    rw [Text.casefold, List.flatMap_cons, folded, List.singleton_append, isNumeric, List.all_cons, notDigit]
    simp

theorem qualifierOrder_eq_iff : qualifierOrder left right = .eq ↔
    canonicalName (headName left) = canonicalName (headName right) ∧ secondNumber left = secondNumber right ∧
      left.drop 2 = right.drop 2 := by
  rw [qualifierOrder, Ordering.then_eq_eq, Ordering.then_eq_eq, Ordering.then_eq_eq, compare_eq_iff_eq, compare_eq_iff_eq,
    compare_eq_iff_eq, ← and_assoc, name_key_iff, Std.LawfulEqCmp.compare_eq_iff_eq]

variable (wordLeft : ∀ token ∈ left.head?, isNumeric token = false) (wordRight : ∀ token ∈ right.head?, isNumeric token = false)

theorem canonicalToken_word {token : List Char} (word : isNumeric token = false) :
    canonicalToken token = .name (canonicalName (String.ofList token)) := by
  rw [canonicalToken, word]
  rfl

theorem canonicalToken_number {token : List Char} (numeric : isNumeric token) : canonicalToken token = .number (number token) :=
  if_pos numeric

theorem canonicalToken_eq_number {token : List Char} {n : Nat} (h : canonicalToken token = .number n) :
    isNumeric token ∧ number token = n := by
  unfold canonicalToken at h
  split at h
  · rename_i numeric
    cases h
    exact ⟨numeric, rfl⟩
  · cases h

include wordLeft in
theorem canonical_first : canonicalQualifiers (left.take 1) =
    if canonicalName (headName left) = "" then [] else [.name (canonicalName (headName left))] := by
  cases left with
  | nil => rfl
  | cons token rest =>
    rw [List.take_one, List.head?_cons, Option.toList_some, canonicalQualifiers, List.map_singleton,
      canonicalToken_word (wordLeft token rfl), List.rdropWhile_singleton]
    have same : ((MavenToken.name (canonicalName (String.ofList token))) == .name "") =
        decide (canonicalName (String.ofList token) = "") := by
      rw [Bool.eq_iff_iff, beq_iff_eq, decide_eq_true_eq, MavenToken.name.injEq]
    rw [same]
    simp only [decide_eq_true_eq]
    rfl

include wordLeft wordRight in
theorem first_iff : canonicalQualifiers (left.take 1) = canonicalQualifiers (right.take 1) ↔
    canonicalName (headName left) = canonicalName (headName right) := by
  rw [canonical_first wordLeft, canonical_first wordRight]
  constructor
  · intro h
    split at h <;> split at h
    · rename_i none none'
      rw [none, none']
    · cases h
    · cases h
    · exact MavenToken.name.inj (List.cons.inj h).1
  · intro h
    rw [h]

theorem secondNumber_positive (h : secondNumber left ≠ 0) :
    ∃ first second rest, left = first :: second :: rest ∧ canonicalToken second = .number (secondNumber left) := by
  cases left with
  | nil => exact absurd rfl h
  | cons first rest =>
    cases rest with
    | nil => exact absurd rfl h
    | cons second rest =>
      refine ⟨first, second, rest, rfl, ?_⟩
      simp only [secondNumber] at h ⊢
      split at h
      · rename_i numeric
        rw [if_pos numeric]
        exact canonicalToken_number numeric
      · exact absurd rfl h

include wordLeft wordRight in
theorem canonical_of_second (heads : canonicalName (headName left) = canonicalName (headName right))
    (seconds : secondNumber left = secondNumber right) (positive : secondNumber left ≠ 0)
    (tails : left.drop 2 = right.drop 2) : canonicalQualifiers left = canonicalQualifiers right := by
  obtain ⟨first, second, rest, hl, hs⟩ := secondNumber_positive positive
  obtain ⟨first', second', rest', hr, hs'⟩ := secondNumber_positive (seconds ▸ positive)
  rw [seconds] at hs
  have sameFirst : canonicalToken first = canonicalToken first' := by
    rw [canonicalToken_word (wordLeft first (by rw [hl]; rfl)), canonicalToken_word (wordRight first' (by rw [hr]; rfl))]
    rw [hl, hr] at heads
    exact congrArg MavenToken.name heads
  rw [hl, hr] at tails
  have sameRest : rest = rest' := tails
  rw [canonicalQualifiers, canonicalQualifiers, hl, hr, List.map_cons, List.map_cons, List.map_cons, List.map_cons,
    sameFirst, hs, hs', sameRest]

include wordLeft wordRight in
theorem qualifier_numbers_iff {m n : Nat} {x y : List MavenToken}
    (h : firstDifference (left.map canonicalToken) (right.map canonicalToken) = (.number m :: x, .number n :: y)) :
    qualifierOrder left right = compare m n ↔
      ¬ ((left.take 2).map canonicalToken = (right.take 2).map canonicalToken ∧
        ∃ m n x y, firstDifference ((left.drop 2).map canonicalToken) ((right.drop 2).map canonicalToken) =
            (.number m :: x, .number n :: y) ∧
          List.compareLex compare (left.drop 2) (right.drop 2) ≠ compare m n) := by
  have different : m ≠ n := fun same => Library.firstDifference_heads h (congrArg MavenToken.number same)
  cases left with
  | nil => cases (Prod.mk.inj h).1
  | cons first rest =>
    cases right with
    | nil => cases (Prod.mk.inj h).2
    | cons first' rest' =>
      rw [List.map_cons, List.map_cons, firstDifference] at h
      have word := canonicalToken_word (wordLeft first rfl)
      have word' := canonicalToken_word (wordRight first' rfl)
      split at h
      · rename_i sameFirst
        have names : canonicalName (headName (first :: rest)) = canonicalName (headName (first' :: rest')) := by
          rw [word, word'] at sameFirst
          exact MavenToken.name.inj sameFirst
        obtain ⟨ranks, unknowns⟩ := (name_key_iff _ _).mpr names
        have order : qualifierOrder (first :: rest) (first' :: rest') =
            (compare (secondNumber (first :: rest)) (secondNumber (first' :: rest'))).then
              (List.compareLex compare (rest.drop 1) (rest'.drop 1)) := by
          rw [qualifierOrder, compare_eq_iff_eq.mpr ranks, compare_eq_iff_eq.mpr unknowns]
          rfl
        cases rest with
        | nil => cases (Prod.mk.inj h).1
        | cons second rest =>
          cases rest' with
          | nil => cases (Prod.mk.inj h).2
          | cons second' rest' =>
            rw [List.map_cons, List.map_cons, firstDifference] at h
            split at h
            · rename_i sameSecond
              have seconds : secondNumber (first :: second :: rest) = secondNumber (first' :: second' :: rest') := by
                simp only [secondNumber]
                unfold canonicalToken at sameSecond
                split at sameSecond <;> split at sameSecond
                · rename_i numeric numeric'
                  rw [if_pos numeric, if_pos numeric']
                  exact MavenToken.number.inj sameSecond
                · cases sameSecond
                · cases sameSecond
                · rename_i word word'
                  rw [if_neg word, if_neg word']
              have taken : ((first :: second :: rest).take 2).map canonicalToken =
                  ((first' :: second' :: rest').take 2).map canonicalToken := by
                show [canonicalToken first, canonicalToken second] = [canonicalToken first', canonicalToken second']
                rw [sameFirst, sameSecond]
              rw [order, compare_eq_iff_eq.mpr seconds, Ordering.eq_then]
              constructor
              · rintro same ⟨-, m', n', x', y', numbers, textual⟩
                have both := h.symm.trans numbers
                cases both
                exact textual same
              · intro byValue
                by_contra textual
                exact byValue ⟨taken, m, n, x, y, h, textual⟩
            · rename_i differSecond
              obtain ⟨leftSecond, -⟩ := List.cons.inj (Prod.mk.inj h).1
              obtain ⟨rightSecond, -⟩ := List.cons.inj (Prod.mk.inj h).2
              obtain ⟨numeric, value⟩ := canonicalToken_eq_number leftSecond
              obtain ⟨numeric', value'⟩ := canonicalToken_eq_number rightSecond
              have seconds : secondNumber (first :: second :: rest) = m ∧ secondNumber (first' :: second' :: rest') = n := by
                simp only [secondNumber, numeric, numeric', if_true]
                exact ⟨value, value'⟩
              have decided : compare m n ≠ .eq := fun same => different (compare_eq_iff_eq.mp same)
              rw [order, seconds.1, seconds.2, then_of_ne_eq decided]
              constructor
              · rintro - ⟨taken, -⟩
                exact differSecond (List.cons.inj (List.cons.inj taken).2).1
              · exact fun _ => rfl
      · rw [word] at h
        cases (List.cons.inj (Prod.mk.inj h).1).1

end Qualifiers

section Release

theorem rdropWhile_cons (p : Nat → Bool) (n : Nat) (rest : List Nat) :
    (n :: rest).rdropWhile p = if rest.rdropWhile p = [] then (if p n then [] else [n]) else n :: rest.rdropWhile p := by
  unfold List.rdropWhile
  rw [List.reverse_cons, List.dropWhile_append]
  by_cases none : rest.reverse.dropWhile p = []
  · rw [none, List.isEmpty_nil, if_pos rfl, List.reverse_nil, if_pos rfl]
    by_cases dropped : p n
    · rw [List.dropWhile_cons_of_pos dropped, if_pos dropped]
      rfl
    · rw [List.dropWhile_cons_of_neg dropped, if_neg dropped]
      rfl
  · have some : ¬ (rest.reverse.dropWhile p).isEmpty := by rwa [List.isEmpty_iff]
    have some' : ¬ (rest.reverse.dropWhile p).reverse = [] := by rwa [List.reverse_eq_nil_iff]
    rw [if_neg some, if_neg some', List.reverse_append]
    rfl

theorem trimmed_positive {n : Nat} (positive : n ≠ 0) (rest : List Nat) :
    (n :: rest).rdropWhile (· == 0) = n :: rest.rdropWhile (· == 0) := by
  rw [rdropWhile_cons]
  split
  · rename_i none
    rw [none, if_neg (by rw [beq_iff_eq]; exact positive)]
  · rfl

theorem trimmed_cons (n : Nat) (rest : List Nat) :
    (n :: rest).rdropWhile (· == 0) = [] ∨ (n :: rest).rdropWhile (· == 0) = n :: rest.rdropWhile (· == 0) := by
  rw [rdropWhile_cons]
  split
  · rename_i none
    rw [none]
    split
    · exact Or.inl rfl
    · exact Or.inr rfl
  · exact Or.inr rfl

theorem compareLex_trimmed {left right x y : List Nat} {m n : Nat} (h : firstDifference left right = (m :: x, n :: y)) :
    List.compareLex compare (left.rdropWhile (· == 0)) (right.rdropWhile (· == 0)) = compare m n := by
  have different := Library.firstDifference_heads h
  fun_induction firstDifference left right with
  | case1 xs a ys ih =>
    have rest := ih h
    rw [rdropWhile_cons, rdropWhile_cons]
    by_cases left : xs.rdropWhile (· == 0) = [] <;> by_cases right : ys.rdropWhile (· == 0) = []
    · rw [left, right] at rest
      exact absurd (compare_eq_iff_eq.mp rest.symm) different
    · rw [left] at rest
      rw [if_pos left, if_neg right, ← rest]
      cases shape : ys.rdropWhile (· == 0) with
      | nil => exact absurd shape right
      | cons b ys =>
        split
        · rfl
        · rw [Library.Comparator.compareLex_cons, compare_eq_iff_eq.mpr rfl]
          rfl
    · rw [right] at rest
      rw [if_neg left, if_pos right, ← rest]
      cases shape : xs.rdropWhile (· == 0) with
      | nil => exact absurd shape left
      | cons b xs =>
        split
        · rfl
        · rw [Library.Comparator.compareLex_cons, compare_eq_iff_eq.mpr rfl]
          rfl
    · rw [if_neg left, if_neg right, Library.Comparator.compareLex_cons, compare_eq_iff_eq.mpr rfl, rest]
      rfl
  | case2 _ _ _ _ _ =>
    cases h
    have decided : compare m n ≠ .eq := fun same => different (compare_eq_iff_eq.mp same)
    have heads : ∀ left right : List Nat, List.compareLex compare (m :: left) (n :: right) = compare m n := by
      intro left right
      rw [Library.Comparator.compareLex_cons, then_of_ne_eq decided]
    by_cases left : m = 0
    · have right : n ≠ 0 := fun zero => different (left.trans zero.symm)
      rw [trimmed_positive right]
      rcases trimmed_cons m x with none | kept
      · rw [none, left, compare_lt_iff_lt.mpr (Nat.pos_of_ne_zero right)]
        rfl
      · rw [kept, heads]
    · rw [trimmed_positive left]
      rcases trimmed_cons n y with none | kept
      · by_cases right : n = 0
        · rw [none, right, compare_gt_iff_gt.mpr (Nat.pos_of_ne_zero left)]
          rfl
        · rw [trimmed_positive right] at none
          cases none
      · rw [kept, heads]
  | case3 xs ys short =>
    cases h
    exact absurd rfl (short m x n y rfl)

theorem trimRelease_cons (n : Nat) (rest : List Nat) : trimRelease (n :: rest) = n :: rest.rdropWhile (· == 0) := rfl

theorem release_numbers {left right x y : List Nat} {m n : Nat} (h : firstDifference left right = (m :: x, n :: y)) :
    List.compareLex compare (trimRelease left) (trimRelease right) = compare m n := by
  have decided : compare m n ≠ .eq := fun same => Library.firstDifference_heads h (compare_eq_iff_eq.mp same)
  cases left with
  | nil => cases (Prod.mk.inj h).1
  | cons a left =>
    cases right with
    | nil => cases (Prod.mk.inj h).2
    | cons b right =>
      rw [trimRelease_cons, trimRelease_cons, Library.Comparator.compareLex_cons]
      rw [firstDifference] at h
      split at h
      · rename_i same
        rw [compare_eq_iff_eq.mpr same, Ordering.eq_then]
        exact compareLex_trimmed h
      · cases h
        exact then_of_ne_eq decided _

end Release

section Law

variable {left right : List Char}

theorem mavenOrder_eq_iff : mavenOrder left right = .eq ↔
    trimRelease (mavenRelease left) = trimRelease (mavenRelease right) ∧
      qualifierOrder (mavenQualifiers left) (mavenQualifiers right) = .eq := by
  rw [mavenOrder, Ordering.then_eq_eq, Std.LawfulEqCmp.compare_eq_iff_eq]

theorem keepsTokens_iff : KeepsTokens left right (some (mavenOrder left right)) ↔ ¬ SecondLost left right := by
  have first := first_iff (mavenQualifiers_word left) (mavenQualifiers_word right)
  constructor
  · rintro keeps ⟨releases, heads, none, none', tails, differ⟩
    have same : mavenOrder left right = .eq :=
      mavenOrder_eq_iff.mpr ⟨releases, qualifierOrder_eq_iff.mpr ⟨first.mp heads, none.trans none'.symm, tails⟩⟩
    exact differ (Prod.mk.inj (keeps (congrArg some same))).2
  · intro notLost same
    obtain ⟨releases, equal⟩ := mavenOrder_eq_iff.mp (Option.some.inj same)
    obtain ⟨heads, seconds, tails⟩ := qualifierOrder_eq_iff.mp equal
    have kept : canonicalQualifiers (mavenQualifiers left) = canonicalQualifiers (mavenQualifiers right) := by
      by_contra differ
      by_cases none : secondNumber (mavenQualifiers left) = 0
      · exact notLost ⟨releases, first.mpr heads, none, seconds ▸ none, tails, differ⟩
      · exact differ (canonical_of_second (mavenQualifiers_word left) (mavenQualifiers_word right) heads seconds none tails)
    rw [mavenCanonical, mavenCanonical, releases, kept]

theorem numbersByValue_iff : NumbersByValue left right (some (mavenOrder left right)) ↔ ¬ NumberAsText left right := by
  have wordLeft := mavenQualifiers_word left
  have wordRight := mavenQualifiers_word right
  have sameRelease : trimRelease (mavenRelease left) = trimRelease (mavenRelease right) →
      mavenOrder left right = qualifierOrder (mavenQualifiers left) (mavenQualifiers right) := by
    intro releases
    have equal : List.compareLex compare (trimRelease (mavenRelease left)) (trimRelease (mavenRelease right)) = .eq :=
      Std.LawfulEqCmp.compare_eq_iff_eq.mpr releases
    rw [mavenOrder, equal, Ordering.eq_then]
  constructor
  · rintro ⟨-, byValue⟩ ⟨releases, taken, m, n, x, y, numbers, textual⟩
    have whole : firstDifference ((mavenQualifiers left).map canonicalToken) ((mavenQualifiers right).map canonicalToken) =
        (.number m :: x, .number n :: y) := by
      rw [← List.take_append_drop 2 (mavenQualifiers left), ← List.take_append_drop 2 (mavenQualifiers right),
        List.map_append, List.map_append, taken, Library.firstDifference_append]
      exact numbers
    have order := Option.some.inj (byValue m n x y releases whole)
    rw [sameRelease releases] at order
    exact (qualifier_numbers_iff wordLeft wordRight whole).mp order ⟨taken, m, n, x, y, numbers, textual⟩
  · intro notText
    constructor
    · intro m n x y numbers
      have decided : compare m n ≠ .eq := fun same => Library.firstDifference_heads numbers (compare_eq_iff_eq.mp same)
      rw [mavenOrder, release_numbers numbers, then_of_ne_eq decided]
    · intro m n x y releases numbers
      rw [sameRelease releases, (qualifier_numbers_iff wordLeft wordRight numbers).mpr]
      rintro ⟨taken, textual⟩
      exact notText ⟨releases, taken, textual⟩

end Law

end OpenAssetWatch.Version
