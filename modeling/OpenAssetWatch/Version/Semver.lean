import OpenAssetWatch.Text.Normalize
import OpenAssetWatch.Version.Preorder

namespace OpenAssetWatch.Version

open Library.TupleOrder (Value compare? compareItems? compareItems?_then compare?_nat compare?_pair compare?_ranks compare?_self compareItems?_map)

inductive SemverIdentifier where
  | numeric (n : Nat)
  | alphanumeric (text : List Char)
deriving DecidableEq

structure SemverVersion where
  major : Nat
  minor : Nat
  patch : Nat
  prerelease : Option (List SemverIdentifier)
deriving DecidableEq

/-- Numeric identifiers by value and below the others, which are ordered by character code. -/
def identifierOrder : SemverIdentifier → SemverIdentifier → Ordering
  | .numeric m, .numeric n => compare m n
  | .numeric _, .alphanumeric _ => .lt
  | .alphanumeric _, .numeric _ => .gt
  | .alphanumeric a, .alphanumeric b => compare a b

/-- A prerelease is below its release; of two, the first different identifier decides, then the number of them. -/
def prereleaseOrder : Option (List SemverIdentifier) → Option (List SemverIdentifier) → Ordering
  | none, none => .eq
  | none, some _ => .gt
  | some _, none => .lt
  | some left, some right => List.compareLex identifierOrder left right

def precedence (l r : SemverVersion) : Ordering :=
  (compare l.major r.major).then ((compare l.minor r.minor).then ((compare l.patch r.patch).then
    (prereleaseOrder l.prerelease r.prerelease)))

/-- `0|[1-9]\d*`. -/
def IsSemverNumber (digits : List Char) : Prop := isNumeric digits ∧ (digits = ['0'] ∨ digits.head? ≠ some '0')

/-- A part of the text that its mark announces. -/
def announced (mark : Char) : Option (List Char) → List Char
  | none => []
  | some body => mark :: body

/-- A text that the semantic version pattern matches, part by part. -/
structure SemverText where
  marked : Option Char
  major : List Char
  minor : Option (List Char)
  patch : Option (List Char)
  prerelease : Option (List Char)
  build : Option (List Char)
  markedV : ∀ c ∈ marked, c = 'v' ∨ c = 'V'
  majorNumber : IsSemverNumber major
  minorNumber : ∀ digits ∈ minor, IsSemverNumber digits
  patchNumber : ∀ digits ∈ patch, IsSemverNumber digits
  patchAfterMinor : patch.isSome → minor.isSome
  prereleaseText : ∀ body ∈ prerelease, body ≠ [] ∧ ∀ c ∈ body, isSemverChar c
  buildText : ∀ body ∈ build, body ≠ [] ∧ ∀ c ∈ body, isSemverChar c

namespace SemverText

variable (t : SemverText)

def chars : List Char :=
  t.marked.toList ++ (t.major ++ (announced '.' t.minor ++ (announced '.' t.patch ++
    (announced '-' t.prerelease ++ announced '+' t.build))))

def identifiers : Option (List (List Char)) := t.prerelease.map (·.splitOn '.')

/-- The version a text writes: missing numbers are zero, and the build metadata is not part of it. -/
def version : SemverVersion where
  major := number t.major
  minor := (t.minor.map number).getD 0
  patch := (t.patch.map number).getD 0
  prerelease := t.identifiers.map fun items =>
    items.map fun item => if isNumeric item then .numeric (number item) else .alphanumeric item

/-- No more prerelease identifiers than the code admits. -/
def Bounded : Prop := ∀ items ∈ t.identifiers, items.length ≤ maxVersionParts

end SemverText

theorem takeWhile_stops {p : Char → Bool} {run rest : List Char} (all : ∀ c ∈ run, p c)
    (stops : ∀ c ∈ rest.head?, p c = false) : (run ++ rest).takeWhile p = run ∧ (run ++ rest).dropWhile p = rest := by
  have none : rest.takeWhile p = [] ∧ rest.dropWhile p = rest := by
    cases rest with
    | nil => exact ⟨rfl, rfl⟩
    | cons c rest =>
      have first : ¬ p c := by rw [stops c rfl]; decide
      exact ⟨List.takeWhile_cons_of_neg first, List.dropWhile_cons_of_neg first⟩
  rw [List.takeWhile_append_of_pos all, List.dropWhile_append_of_pos all, none.1, none.2, List.append_nil]
  exact ⟨rfl, rfl⟩

theorem takeNumber_written {digits rest : List Char} (number : IsSemverNumber digits)
    (stops : ∀ c ∈ rest.head?, c.isDigit = false) : takeNumber (digits ++ rest) = some (digits, rest) := by
  obtain ⟨numeric, zero⟩ := number
  simp only [isNumeric, Bool.and_eq_true, List.all_eq_true] at numeric
  cases digits with
  | nil => exact absurd numeric.1 (by decide)
  | cons c digits =>
    have tail := takeWhile_stops (fun d hd => numeric.2 d (List.mem_cons_of_mem _ hd)) stops
    rw [List.cons_append, takeNumber]
    rcases zero with single | positive
    · cases single
      rfl
    · have first : (c == '0') = false := by
        rw [beq_eq_false_iff_ne]
        intro same
        exact positive (congrArg some same)
      rw [first, numeric.2 c List.mem_cons_self, tail.1, tail.2]
      rfl

theorem takeDotNumber_written {minor : Option (List Char)} {rest : List Char} (number : ∀ digits ∈ minor, IsSemverNumber digits)
    (stops : ∀ c ∈ rest.head?, c.isDigit = false) (noDot : minor = none → ∀ c ∈ rest.head?, c ≠ '.') :
    takeDotNumber (announced '.' minor ++ rest) = (minor, rest) := by
  cases minor with
  | none =>
    show takeDotNumber rest = (none, rest)
    cases rest with
    | nil => rfl
    | cons c rest =>
      have first := noDot rfl c rfl
      unfold takeDotNumber
      split
      · rename_i shape
        cases shape
        exact absurd rfl first
      · rfl
  | some digits =>
    show takeDotNumber ('.' :: (digits ++ rest)) = (some digits, rest)
    rw [takeDotNumber, takeNumber_written (number digits rfl) stops]

theorem takeSuffix_written (mark : Char) {suffix : Option (List Char)} {rest : List Char}
    (text : ∀ body ∈ suffix, body ≠ [] ∧ ∀ c ∈ body, isSemverChar c) (stops : ∀ c ∈ rest.head?, isSemverChar c = false)
    (other : suffix = none → ∀ c ∈ rest.head?, c ≠ mark) :
    takeSuffix mark (announced mark suffix ++ rest) = (suffix, rest) := by
  cases suffix with
  | none =>
    show takeSuffix mark rest = (none, rest)
    cases rest with
    | nil => rfl
    | cons c rest =>
      have first : (c == mark) = false := beq_eq_false_iff_ne.mpr (other rfl c rfl)
      simp only [takeSuffix, first, Bool.false_and, Bool.false_eq_true, if_false]
  | some body =>
    obtain ⟨filled, all⟩ := text body rfl
    obtain ⟨taken, left⟩ := takeWhile_stops all stops
    have nonempty : body.isEmpty = false := List.isEmpty_eq_false_iff.mpr filled
    show takeSuffix mark (mark :: (body ++ rest)) = (some body, rest)
    simp only [takeSuffix, taken, left, nonempty, beq_self_eq_true, Bool.not_false, Bool.and_true, if_true]

section Written

variable (t : SemverText)

theorem head_announced {mark c : Char} {body : Option (List Char)} {rest : List Char}
    (h : c ∈ (announced mark body ++ rest).head?) : (body.isSome ∧ c = mark) ∨ (body = none ∧ c ∈ rest.head?) := by
  cases body with
  | none => exact Or.inr ⟨rfl, h⟩
  | some body => exact Or.inl ⟨rfl, (Option.some.inj h).symm⟩

theorem head_build {c : Char} (h : c ∈ (announced '+' t.build).head?) : c = '+' := by
  rw [← List.append_nil (announced '+' t.build)] at h
  rcases head_announced h with ⟨-, same⟩ | ⟨-, none⟩
  · exact same
  · cases none

theorem head_suffixes {c : Char} (h : c ∈ (announced '-' t.prerelease ++ announced '+' t.build).head?) :
    c = '-' ∨ c = '+' := by
  rcases head_announced h with ⟨-, same⟩ | ⟨-, later⟩
  · exact Or.inl same
  · exact Or.inr (head_build t later)

theorem head_patch {c : Char}
    (h : c ∈ (announced '.' t.patch ++ (announced '-' t.prerelease ++ announced '+' t.build)).head?) :
    (t.patch.isSome ∧ c = '.') ∨ c = '-' ∨ c = '+' := by
  rcases head_announced h with same | ⟨-, later⟩
  · exact Or.inl same
  · exact Or.inr (head_suffixes t later)

theorem head_minor {c : Char} (h : c ∈ (announced '.' t.minor ++ (announced '.' t.patch ++
    (announced '-' t.prerelease ++ announced '+' t.build))).head?) : c = '.' ∨ c = '-' ∨ c = '+' := by
  rcases head_announced h with ⟨-, same⟩ | ⟨-, later⟩
  · exact Or.inl same
  · exact (head_patch t later).imp_left And.right

theorem marks_not_digit {c : Char} (h : c = '.' ∨ c = '-' ∨ c = '+') : c.isDigit = false := by
  rcases h with rfl | rfl | rfl <;> decide

theorem stripV_written : stripV t.chars = t.major ++ (announced '.' t.minor ++ (announced '.' t.patch ++
    (announced '-' t.prerelease ++ announced '+' t.build))) := by
  unfold SemverText.chars
  cases marked : t.marked with
  | none =>
    have numeric := t.majorNumber.1
    cases major : t.major with
    | nil =>
      rw [major] at numeric
      exact absurd numeric (by decide)
    | cons c digits =>
      rw [major] at numeric
      simp only [isNumeric, Bool.and_eq_true, List.all_eq_true] at numeric
      have digit := numeric.2 c List.mem_cons_self
      show stripV (c :: _) = c :: _
      unfold stripV
      split
      · rename_i shape
        cases shape
        exact absurd digit (by decide)
      · rename_i shape
        cases shape
        exact absurd digit (by decide)
      · rfl
  | some c =>
    rcases t.markedV c marked with rfl | rfl <;> rfl

theorem semver_written : semver t.chars = (do
    let parts ← prereleaseParts t.prerelease
    return some (.tuple [natural (number t.major), natural (number (t.minor.getD ['0'])),
      natural (number (t.patch.getD ['0'])), parts])) := by
  have major := takeNumber_written t.majorNumber fun c h => marks_not_digit (head_minor t h)
  have minor := takeDotNumber_written t.minorNumber
    (fun c h => marks_not_digit ((head_patch t h).imp_left And.right)) (fun missing c h dot => by
      rcases head_patch t h with ⟨present, -⟩ | hyphen | plus
      · have needs := t.patchAfterMinor present
        rw [missing] at needs
        cases needs
      · rw [dot] at hyphen
        exact absurd hyphen (by decide)
      · rw [dot] at plus
        exact absurd plus (by decide))
  have patch := takeDotNumber_written t.patchNumber
    (fun c h => marks_not_digit (Or.inr (head_suffixes t h))) (fun _ c h dot => by
      rcases head_suffixes t h with hyphen | plus
      · rw [dot] at hyphen
        exact absurd hyphen (by decide)
      · rw [dot] at plus
        exact absurd plus (by decide))
  have prerelease := takeSuffix_written '-' t.prereleaseText
    (fun c h => by rw [head_build t h]; decide) (fun _ c h => by rw [head_build t h]; decide)
  have build : takeSuffix '+' (announced '+' t.build) = (t.build, []) := by
    have written : takeSuffix '+' (announced '+' t.build ++ []) = (t.build, []) :=
      takeSuffix_written '+' t.buildText (fun c h => by cases h) (fun _ c h => by cases h)
    rw [List.append_nil] at written
    exact written
  simp only [semver, stripV_written, major, minor, patch, prerelease, build, List.isEmpty_nil, if_true]

end Written

theorem takeNumber_reads {value digits rest : List Char} (h : takeNumber value = some (digits, rest)) :
    value = digits ++ rest ∧ IsSemverNumber digits := by
  cases value with
  | nil => cases h
  | cons c value =>
    rw [takeNumber] at h
    split at h
    · rename_i zero
      cases h
      have first : c = '0' := by simpa using zero
      rw [first]
      exact ⟨rfl, by decide, Or.inl rfl⟩
    · rename_i positive
      split at h
      · rename_i digit
        cases h
        refine ⟨by rw [List.cons_append, List.takeWhile_append_dropWhile], ?_, Or.inr ?_⟩
        · simp only [isNumeric, List.isEmpty_cons, Bool.not_false, Bool.true_and, List.all_cons, digit, List.all_eq_true]
          exact fun d hd => List.mem_takeWhile_imp hd
        · intro first
          exact positive (by rw [Option.some.inj first]; rfl)
      · cases h

theorem takeDotNumber_reads {value rest : List Char} {minor : Option (List Char)} (h : takeDotNumber value = (minor, rest)) :
    value = announced '.' minor ++ rest ∧ (∀ digits ∈ minor, IsSemverNumber digits) ∧
      (minor = none → takeDotNumber rest = (none, rest)) := by
  have original := h
  unfold takeDotNumber at h
  split at h
  · split at h
    · rename_i digits after taken
      cases h
      obtain ⟨shape, number⟩ := takeNumber_reads taken
      refine ⟨by rw [shape]; rfl, ?_, fun none => by cases none⟩
      intro other same
      cases same
      exact number
    · cases h
      exact ⟨rfl, (fun digits same => by cases same), fun _ => original⟩
  · cases h
    exact ⟨rfl, (fun digits same => by cases same), fun _ => original⟩

theorem takeSuffix_reads {mark : Char} {value rest : List Char} {suffix : Option (List Char)}
    (h : takeSuffix mark value = (suffix, rest)) :
    value = announced mark suffix ++ rest ∧ ∀ body ∈ suffix, body ≠ [] ∧ ∀ c ∈ body, isSemverChar c := by
  unfold takeSuffix at h
  split at h
  · cases h
    exact ⟨rfl, fun body same => by cases same⟩
  · rename_i c value
    dsimp only at h
    split at h
    · rename_i marked
      rw [Bool.and_eq_true, beq_iff_eq] at marked
      cases h
      refine ⟨by rw [marked.1, announced, List.cons_append, List.takeWhile_append_dropWhile], ?_⟩
      intro body same
      cases same
      refine ⟨?_, fun d hd => List.mem_takeWhile_imp hd⟩
      intro empty
      rw [empty] at marked
      exact absurd marked.2 (by decide)
    · cases h
      exact ⟨rfl, fun body same => by cases same⟩

theorem stripV_reads (value : List Char) :
    ∃ marked : Option Char, value = marked.toList ++ stripV value ∧ ∀ c ∈ marked, c = 'v' ∨ c = 'V' := by
  unfold stripV
  split
  · exact ⟨some 'v', rfl, fun c same => Or.inl (Option.some.inj same).symm⟩
  · exact ⟨some 'V', rfl, fun c same => Or.inr (Option.some.inj same).symm⟩
  · exact ⟨none, rfl, fun c same => by cases same⟩

theorem semver_reads {value : List Char} {key : Value} (h : semver value = .ok (some key)) :
    ∃ t : SemverText, t.chars = value ∧ t.Bounded := by
  obtain ⟨marked, start, markedV⟩ := stripV_reads value
  unfold semver at h
  split at h
  · cases h
  · rename_i major afterMajor taken
    obtain ⟨majorText, majorNumber⟩ := takeNumber_reads taken
    cases minorTaken : takeDotNumber afterMajor with
    | mk minor afterMinor =>
      cases patchTaken : takeDotNumber afterMinor with
      | mk patch afterPatch =>
        cases preTaken : takeSuffix '-' afterPatch with
        | mk pre afterPre =>
          cases buildTaken : takeSuffix '+' afterPre with
          | mk build rest =>
            simp only [minorTaken, patchTaken, preTaken, buildTaken] at h
            obtain ⟨minorText, minorNumber, again⟩ := takeDotNumber_reads minorTaken
            obtain ⟨patchText, patchNumber, -⟩ := takeDotNumber_reads patchTaken
            obtain ⟨preText, prereleaseText⟩ := takeSuffix_reads preTaken
            obtain ⟨buildShape, buildText⟩ := takeSuffix_reads buildTaken
            split at h
            · rename_i done
              have patchAfterMinor : patch.isSome → minor.isSome := by
                intro present
                cases minor with
                | some digits => rfl
                | none =>
                  rw [again rfl] at patchTaken
                  cases patchTaken
                  cases present
              refine ⟨{
                marked, major, minor, patch, prerelease := pre, build
                markedV, majorNumber, minorNumber, patchNumber, patchAfterMinor, prereleaseText, buildText }, ?_, ?_⟩
              · show marked.toList ++ (major ++ (announced '.' minor ++ (announced '.' patch ++
                  (announced '-' pre ++ announced '+' build)))) = value
                rw [start, majorText, minorText, patchText, preText, buildShape, List.isEmpty_iff.mp done, List.append_nil]
              · intro items listed
                obtain ⟨body, same, rfl⟩ := Option.map_eq_some_iff.mp listed
                have same : pre = some body := same
                rw [same, prereleaseParts] at h
                split at h
                · cases h
                · rename_i few
                  exact Nat.not_lt.mp few
            · cases h

def identifierKey : SemverIdentifier → Value
  | .numeric n => .tuple [.int 0, natural n]
  | .alphanumeric item => .tuple [.int 1, text item]

def prereleaseKey : Option (List SemverIdentifier) → Value
  | none => .tuple [.tuple [.int 2, .int 0]]
  | some items => .tuple (items.map identifierKey)

def SemverVersion.key (v : SemverVersion) : Value :=
  .tuple [natural v.major, natural v.minor, natural v.patch, prereleaseKey v.prerelease]

theorem semver_key (t : SemverText) (bounded : t.Bounded) : semver t.chars = .ok (some t.version.key) := by
  have minor : number (t.minor.getD ['0']) = (t.minor.map number).getD 0 := by cases t.minor <;> rfl
  have patch : number (t.patch.getD ['0']) = (t.patch.map number).getD 0 := by cases t.patch <;> rfl
  have parts : prereleaseParts t.prerelease = .ok (prereleaseKey t.version.prerelease) := by
    cases pre : t.prerelease with
    | none =>
      simp only [SemverText.version, SemverText.identifiers, pre]
      rfl
    | some body =>
      have few : ¬ maxVersionParts < (body.splitOn '.').length := by
        apply Nat.not_lt.mpr
        apply bounded
        rw [SemverText.identifiers, pre]
        rfl
      have items : ((body.splitOn '.').map fun item =>
            if isNumeric item then Value.tuple [.int 0, natural (number item)] else .tuple [.int 1, text item]) =
          ((body.splitOn '.').map fun item =>
            if isNumeric item then SemverIdentifier.numeric (number item) else .alphanumeric item).map identifierKey := by
        rw [List.map_map]
        apply List.map_congr_left
        intro item _
        show _ = identifierKey (if isNumeric item then _ else _)
        split <;> rfl
      simp only [prereleaseParts, few, if_false, SemverText.version, SemverText.identifiers, pre, Option.map_some,
        prereleaseKey, items]
  rw [semver_written, parts, minor, patch]
  rfl

theorem compare_identifierKey (x y : SemverIdentifier) :
    compare? (identifierKey x) (identifierKey y) = some (identifierOrder x y) := by
  cases x with
  | numeric m =>
    cases y with
    | numeric n => exact compare?_pair (compare?_nat m n)
    | alphanumeric b => exact compare?_ranks (by decide)
  | alphanumeric a =>
    cases y with
    | numeric n => exact compare?_ranks (by decide)
    | alphanumeric b =>
      apply compare?_pair
      rw [text, text, compare?, Library.Comparator.compare_ofList]
      rfl

theorem compare_marker (x : SemverIdentifier) (rest : List Value) :
    compareItems? [.tuple [.int 2, .int 0]] (identifierKey x :: rest) = some .gt ∧
      compareItems? (identifierKey x :: rest) [.tuple [.int 2, .int 0]] = some .lt := by
  cases x with
  | numeric n => constructor <;> rfl
  | alphanumeric item => constructor <;> rfl

theorem compare_prereleaseKey {left right : Option (List SemverIdentifier)} (hl : left ≠ some []) (hr : right ≠ some []) :
    compare? (prereleaseKey left) (prereleaseKey right) = some (prereleaseOrder left right) := by
  cases left with
  | none =>
    cases right with
    | none => rfl
    | some right =>
      cases right with
      | nil => exact absurd rfl hr
      | cons y right => exact (compare_marker y _).1
  | some left =>
    cases right with
    | none =>
      cases left with
      | nil => exact absurd rfl hl
      | cons x left => exact (compare_marker x _).2
    | some right => exact compareItems?_map compare_identifierKey left right

theorem prerelease_nonempty (t : SemverText) : t.version.prerelease ≠ some [] := by
  intro empty
  unfold SemverText.version SemverText.identifiers at empty
  cases pre : t.prerelease with
  | none =>
    rw [pre] at empty
    cases empty
  | some body =>
    rw [pre] at empty
    have none : (body.splitOn '.') = [] := List.map_eq_nil_iff.mp (Option.some.inj empty)
    exact absurd none (List.splitOnP_ne_nil _ _)

theorem compare_versionKey (l r : SemverText) :
    compare? l.version.key r.version.key = some (precedence l.version r.version) := by
  have prerelease := compare_prereleaseKey (prerelease_nonempty l) (prerelease_nonempty r)
  have last : compareItems? [prereleaseKey l.version.prerelease] [prereleaseKey r.version.prerelease] =
      some ((prereleaseOrder l.version.prerelease r.version.prerelease).then .eq) := compareItems?_then prerelease rfl
  rw [Ordering.then_eq] at last
  exact compareItems?_then (compare?_nat _ _) (compareItems?_then (compare?_nat _ _)
    (compareItems?_then (compare?_nat _ _) last))

theorem isSafe_semverChar {c : Char} (h : isSemverChar c) : isSafe c := by
  simp only [isSemverChar, Bool.or_eq_true] at h
  simp only [isSafe, Bool.or_eq_true]
  tauto

theorem isSafe_digits {digits : List Char} (h : isNumeric digits) : ∀ c ∈ digits, isSafe c := by
  simp only [isNumeric, Bool.and_eq_true, List.all_eq_true] at h
  intro c member
  simp only [isSafe, Char.isAlphanum, h.2 c member, Bool.or_true, Bool.true_or]

theorem isSafe_announced {mark : Char} {body : Option (List Char)} (marked : isSafe mark)
    (all : ∀ part ∈ body, ∀ c ∈ part, isSafe c) : ∀ c ∈ announced mark body, isSafe c := by
  cases body with
  | none => exact fun c h => by cases h
  | some part =>
    intro c member
    rcases List.mem_cons.mp member with rfl | inside
    · exact marked
    · exact all part rfl c inside

theorem isSafe_chars (t : SemverText) : ∀ c ∈ t.chars, isSafe c := by
  intro c member
  simp only [SemverText.chars, List.mem_append] at member
  rcases member with mark | major | minor | patch | prerelease | build
  · rcases t.markedV c (Option.mem_toList.mp mark) with rfl | rfl <;> decide
  · exact isSafe_digits t.majorNumber.1 c major
  · exact isSafe_announced (by decide) (fun part h => isSafe_digits (t.minorNumber part h).1) c minor
  · exact isSafe_announced (by decide) (fun part h => isSafe_digits (t.patchNumber part h).1) c patch
  · exact isSafe_announced (by decide) (fun part h d hd => isSafe_semverChar ((t.prereleaseText part h).2 d hd)) c prerelease
  · exact isSafe_announced (by decide) (fun part h d hd => isSafe_semverChar ((t.buildText part h).2 d hd)) c build

theorem chars_nonempty (t : SemverText) : 1 ≤ t.chars.length := by
  have numeric := t.majorNumber.1
  cases major : t.major with
  | nil =>
    rw [major] at numeric
    exact absurd numeric (by decide)
  | cons c digits =>
    simp only [SemverText.chars, major, List.length_append, List.length_cons]
    omega

theorem safeVersion_chars {value : Option String} (t : SemverText) (h : Text.normalizeVersionText value = some t.chars) :
    safeVersion t.chars := by
  simp only [safeVersion, Bool.and_eq_true, decide_eq_true_eq, List.all_eq_true]
  exact ⟨⟨chars_nonempty t, Text.normalizeVersionText_length h⟩, isSafe_chars t⟩

/-- Semantic versions come in the order of semantic version precedence. -/
theorem compareVersions_semver {V : Type*} [LinearOrder V] (pep440 : List Char → Option V) (ecosystem : String)
    (semantic : ecosystem ∈ ["npm", "nuget", "golang"]) (leftValue rightValue : Option String) (l r : SemverText)
    (hl : Text.normalizeVersionText leftValue = some l.chars) (hr : Text.normalizeVersionText rightValue = some r.chars)
    (boundedLeft : l.Bounded) (boundedRight : r.Bounded) :
    (compareVersions pep440 ecosystem leftValue rightValue).order = some (precedence l.version r.version) := by
  have ordered := compare_versionKey l r
  have tuple : compareTuple l.version.key r.version.key = .ok (precedence l.version r.version) := by
    rw [compareTuple, ordered]
  have notPypi : ecosystem ≠ "pypi" := by
    rintro rfl
    exact absurd semantic (by decide)
  apply compareVersions_of_parsed pep440 ecosystem hl hr (safeVersion_chars l hl) (safeVersion_chars r hr)
  · intro same
    have texts := (semver_key l boundedLeft).symm.trans ((congrArg semver same).trans (semver_key r boundedRight))
    have keys : l.version.key = r.version.key := Option.some.inj (Except.ok.inj texts)
    rw [keys] at ordered
    exact compare?_self ordered
  · rw [compareParsed, if_neg notPypi, if_pos semantic, semver_key l boundedLeft, semver_key r boundedRight]
    show (do return supported (← compareTuple l.version.key r.version.key)) = Except.ok (supported _)
    rw [tuple]
    rfl

def repeated (last : Char) : List Char := (List.replicate 64 ['a', '.']).flatten ++ [last]

theorem repeated_text (last : Char) (semver : isSemverChar last) :
    ∀ body ∈ some (repeated last), body ≠ [] ∧ ∀ c ∈ body, isSemverChar c := by
  intro body same
  cases same
  refine ⟨List.append_ne_nil_of_right_ne_nil _ (List.cons_ne_nil _ _), ?_⟩
  intro c member
  rcases List.mem_append.mp member with early | late
  · obtain ⟨pair, listed, inside⟩ := List.mem_flatten.mp early
    have both : ∀ c ∈ ['a', '.'], isSemverChar c := by simp [isSemverChar, Char.isAlphanum, Char.isAlpha, Char.isLower]
    exact both c ((List.mem_replicate.mp listed).2 ▸ inside)
  · rw [List.mem_singleton.mp late]
    exact semver

theorem unmarked : ∀ c ∈ (none : Option Char), c = 'v' ∨ c = 'V' := fun c h => by cases h

theorem no_identifiers : ∀ body ∈ (none : Option (List Char)), body ≠ [] ∧ ∀ c ∈ body, isSemverChar c :=
  fun body h => by cases h

theorem one_number : IsSemverNumber ['1'] := ⟨by decide, Or.inr (by decide)⟩

theorem zero_number : ∀ digits ∈ some ['0'], IsSemverNumber digits := fun digits h => by cases h; exact ⟨by decide, Or.inl rfl⟩

/-- `1.0.0-a.a…` with 65 identifiers. -/
def manyIdentifiers (last : Char) (semver : isSemverChar last) : SemverText where
  marked := none
  major := ['1']
  minor := some ['0']
  patch := some ['0']
  prerelease := some (repeated last)
  build := none
  markedV := unmarked
  majorNumber := one_number
  minorNumber := zero_number
  patchNumber := zero_number
  patchAfterMinor := fun _ => rfl
  prereleaseText := repeated_text last semver
  buildText := no_identifiers

/-- Sixty-five identifiers are one more than the comparison takes. -/
theorem semver_refuses_many : ∃ l r : SemverText, precedence l.version r.version = .lt ∧
    Text.normalizeVersionText (some (String.ofList l.chars)) = some l.chars ∧
    Text.normalizeVersionText (some (String.ofList r.chars)) = some r.chars ∧
    (compareVersions (fun _ => (none : Option Nat)) "npm" (some (String.ofList l.chars))
      (some (String.ofList r.chars))).order = none :=
  ⟨manyIdentifiers 'a' (by decide), manyIdentifiers 'b' (by decide), by decide +kernel, by decide +kernel,
    by decide +kernel, by decide +kernel⟩

/-- `v1.2-rc.1`: the patch is missing. -/
def candidateText : SemverText where
  marked := some 'v'
  major := ['1']
  minor := some ['2']
  patch := none
  prerelease := some ['r', 'c', '.', '1']
  build := none
  markedV := fun c h => Or.inl (Option.some.inj h).symm
  majorNumber := ⟨by decide, Or.inr (by decide)⟩
  minorNumber := fun digits h => by cases h; exact ⟨by decide, Or.inr (by decide)⟩
  patchNumber := fun digits h => by cases h
  patchAfterMinor := fun h => by cases h
  prereleaseText := fun body h => by cases h; simp [isSemverChar, Char.isAlphanum, Char.isAlpha, Char.isLower, Char.isDigit]
  buildText := fun body h => by cases h

def releaseText : SemverText :=
  { candidateText with
    prerelease := none
    prereleaseText := fun body h => by cases h
    build := some ['7']
    buildText := fun body h => by cases h; simp [isSemverChar, Char.isAlphanum, Char.isDigit] }

theorem compareVersions_semver_sample :
    (compareVersions (fun _ => (none : Option Nat)) "golang" (some "v1.2-rc.1") (some "v1.2+7")).order = some .lt ∧
      precedence candidateText.version releaseText.version = .lt := by
  have h := compareVersions_semver (fun _ => (none : Option Nat)) "golang" (by decide) (some "v1.2-rc.1") (some "v1.2+7")
    candidateText releaseText (by decide) (by decide) (by unfold SemverText.Bounded; decide)
    (by unfold SemverText.Bounded; decide)
  have order : precedence candidateText.version releaseText.version = .lt := by decide
  exact ⟨order ▸ h, order⟩

end OpenAssetWatch.Version
