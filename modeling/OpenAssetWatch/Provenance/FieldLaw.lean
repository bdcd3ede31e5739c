import OpenAssetWatch.Provenance.Manifest
import OpenAssetWatch.Text.Normalize

namespace OpenAssetWatch.Provenance

open Library Library.JsonText Text

/-- What is written for a value outside is accepted again, as the same value. -/
structure Externals.ReadsBack (externals : Externals) : Prop where
  int : ∀ value : Nat, externals.int (.number (Nat.toDigits 10 value)) = some value
  bool : ∀ value, externals.bool (.bool value) = some value
  float : ∀ doc literal, externals.float doc = some literal →
    externals.float (.number literal) = some literal ∧ IsNumber literal ∧ ∀ c ∈ literal, c.toNat < 127
  datetime : ∀ doc moment, externals.datetime doc = some moment →
    externals.datetime (.string (externals.showDatetime moment)) = some moment ∧
      permitted (.string (externals.showDatetime moment)) = true

section Texts

theorem trim_trim (value : List Char) : trim (trim value) = trim value := stripChars_stripChars _ _

theorem isControl_trim {value : List Char} (clean : value.any isControl = false) : (trim value).any isControl = false := by
  rw [List.any_eq_false] at clean ⊢
  exact fun c member => clean c (mem_of_mem_stripChars member)

theorem isIdentifierChar_facts {c : Char} (inside : isIdentifierChar c = true ∨ c.isAlphanum = true) :
    isWhite c = false ∧ isControl c = false ∧ c ≠ '/' ∧ c ≠ '\\' := by
  have range : (48 ≤ c.toNat ∧ c.toNat ≤ 57) ∨ (65 ≤ c.toNat ∧ c.toNat ≤ 90) ∨ (97 ≤ c.toNat ∧ c.toNat ≤ 122) ∨
      c = '.' ∨ c = '_' ∨ c = ':' ∨ c = '-' := by
    have letters : c.isAlphanum = true →
        (48 ≤ c.toNat ∧ c.toNat ≤ 57) ∨ (65 ≤ c.toNat ∧ c.toNat ≤ 90) ∨ (97 ≤ c.toNat ∧ c.toNat ≤ 122) := by
      intro letter
      simp only [Char.isAlphanum, Char.isAlpha, Char.isUpper, Char.isLower, Char.isDigit, Bool.or_eq_true, Bool.and_eq_true,
        decide_eq_true_eq, ge_iff_le, UInt32.le_iff_toNat_le] at letter
      rcases letter with (upper | lower) | digit
      · exact .inr (.inl upper)
      · exact .inr (.inr lower)
      · exact .inl digit
    rcases inside with whole | letter
    · simp only [isIdentifierChar, Bool.or_eq_true, decide_eq_true_eq] at whole
      rcases whole with (((letter | rfl) | rfl) | rfl) | rfl
      · rcases letters letter with digit | upper | lower
        · exact .inl digit
        · exact .inr (.inl upper)
        · exact .inr (.inr (.inl lower))
      all_goals simp
    · rcases letters letter with digit | upper | lower
      · exact .inl digit
      · exact .inr (.inl upper)
      · exact .inr (.inr (.inl lower))
  rw [← Char.ofNat_toNat c]
  rcases range with ⟨low, high⟩ | ⟨low, high⟩ | ⟨low, high⟩ | rfl | rfl | rfl | rfl
  · generalize c.toNat = n at low high
    interval_cases n <;> decide
  · generalize c.toNat = n at low high
    interval_cases n <;> decide
  · generalize c.toNat = n at low high
    interval_cases n <;> decide
  all_goals decide

theorem identifier_chars {value : List Char} (shaped : matchesIdentifier value = true) :
    ∀ c ∈ value, isWhite c = false ∧ isControl c = false ∧ c ≠ '/' ∧ c ≠ '\\' := by
  cases value with
  | nil => exact fun c member => by cases member
  | cons first rest =>
    simp only [matchesIdentifier, Bool.and_eq_true, List.all_eq_true] at shaped
    intro c member
    rcases List.mem_cons.mp member with rfl | later
    · exact isIdentifierChar_facts (.inr shaped.1.1)
    · exact isIdentifierChar_facts (.inl (shaped.1.2 c later))

theorem trim_identifier {value : List Char} (shaped : matchesIdentifier value = true) : trim value = value :=
  stripChars_none fun c member => (identifier_chars shaped c member).1

theorem isPrefixOf_of_mem {c : Char} {start value : List Char} (inside : c ∈ start) (outside : c ∉ value) :
    start.isPrefixOf value = false := by
  rw [Bool.eq_false_iff]
  intro whole
  exact outside ((List.isPrefixOf_iff_prefix.mp whole).subset inside)

/-- A text without slashes is no path. -/
theorem not_path_of_no_slash {value : List Char} (slash : '/' ∉ value) (backslash : '\\' ∉ value) :
    looksLikeAbsoluteLocalPath value = false := by
  have drive : startsWithDrive value = false := by
    unfold startsWithDrive
    split
    · rename_i first third rest
      have notSlash : third ≠ '/' := by
        rintro rfl
        exact slash (by simp)
      have notBackslash : third ≠ '\\' := by
        rintro rfl
        exact backslash (by simp)
      simp [notSlash, notBackslash]
    · rfl
  rw [looksLikeAbsoluteLocalPath, drive, isPrefixOf_of_mem (List.mem_singleton_self _) slash,
    isPrefixOf_of_mem (List.mem_singleton_self _) backslash, isPrefixOf_of_mem (by decide : '/' ∈ "file://".toList) slash]
  rfl

theorem identifier_clean {value : List Char} (shaped : matchesIdentifier value = true) :
    looksLikeAbsoluteLocalPath value = false ∧ value.any isControl = false := by
  have chars := identifier_chars shaped
  apply And.intro
  · exact not_path_of_no_slash (fun member => (chars _ member).2.2.1 rfl) fun member => (chars _ member).2.2.2 rfl
  · exact List.any_eq_false.mpr fun c member => by rw [(chars c member).2.1]; exact Bool.false_ne_true

end Texts

section Lists

instance : Std.Total FoldedLe := ⟨fun a b => le_total (toLex (casefold a, a)) (toLex (casefold b, b))⟩

instance : IsTrans (List Char) FoldedLe :=
  ⟨fun a b c => le_trans (a := toLex (casefold a, a)) (b := toLex (casefold b, b)) (c := toLex (casefold c, c))⟩

theorem mapM_stringOf (values : List (List Char)) : (values.map JsonDoc.string).mapM stringOf = some values := by
  induction values with
  | nil => rfl
  | cons value values hypothesis =>
    rw [List.map_cons, List.mapM_cons, hypothesis]
    rfl

/-- A list of identifiers as it is kept. -/
structure BoundedIdentifiers (values : List (List Char)) : Prop where
  bounded : ∀ value ∈ values, value.length ≤ 128 ∧ matchesIdentifier value = true
  ordered : values.Pairwise FoldedLe
  distinct : values.Nodup

theorem boundedIdentifiers_facts {given values : List (List Char)} (kept : boundedIdentifiers given = some values) :
    BoundedIdentifiers values ∧ values.length = given.length := by
  rw [boundedIdentifiers] at kept
  split at kept
  · rename_i shaped
    cases kept
    have sorted := List.perm_insertionSort FoldedLe given
    simp only [List.all_eq_true, Bool.and_eq_true, decide_eq_true_eq] at shaped
    exact ⟨⟨fun value member => shaped.1 value (sorted.mem_iff.mp member), List.pairwise_insertionSort FoldedLe given,
      sorted.nodup_iff.mpr shaped.2⟩, sorted.length_eq⟩
  · cases kept

theorem BoundedIdentifiers.again {values : List (List Char)} (kept : BoundedIdentifiers values) :
    boundedIdentifiers (values.map trim) = some values := by
  have trimmed : values.map trim = values := by
    conv_rhs => rw [← List.map_id values]
    exact List.map_congr_left fun value member => trim_identifier (kept.bounded value member).2
  have shaped : values.all (fun value => value.length ≤ 128 && matchesIdentifier value) = true := by
    simp only [List.all_eq_true, Bool.and_eq_true, decide_eq_true_eq]
    exact kept.bounded
  rw [trimmed, boundedIdentifiers, if_pos ⟨shaped, kept.distinct⟩, kept.ordered.insertionSort_eq]

end Lists

section Kinds

variable {externals : Externals}

/-- The values that a field of a kind takes. -/
def Kind.Fits (externals : Externals) : Kind → Scalar → Prop
  | kind, .null => kind.nullable = true
  | .text shape, .text value => shape.accepts externals value = true ∧ trim value = value ∧ value.any isControl = false
  | .literal values, .text value => value ∈ values ∧ permitted (.string value) = true
  | .natural _ minimum maximum, .natural value => minimum ≤ value ∧ ∀ most ∈ maximum, value ≤ most
  | .flag, .flag _ => True
  | .measure, .measure written => externals.float (.number written) = some written ∧ IsNumber written ∧
    ∀ c ∈ written, c.toNat < 127
  | .instant _, .instant moment => externals.datetime (.string (externals.showDatetime moment)) = some moment ∧
      permitted (.string (externals.showDatetime moment)) = true
  | .identifiers maximum, .texts values => values.length ≤ maximum ∧ BoundedIdentifiers values
  | .literals choices minimum maximum, .texts values => (∀ value ∈ values, value ∈ choices) ∧ minimum ≤ values.length ∧
      values.length ≤ maximum ∧ values.Nodup ∧ values.Pairwise (· ≤ ·)
  | _, _ => False

theorem fits_of_readValue (reads : externals.ReadsBack) {kind : Kind} {doc : JsonDoc} {value : Scalar}
    (allowed : permitted doc = true)
    (given : kind.readValue externals doc = some value) : kind.Fits externals value := by
  cases kind with
  | text shape =>
    obtain ⟨raw, string, kept⟩ := Option.bind_eq_some_iff.mp given
    cases doc <;> cases string
    split at kept
    · rename_i accepted
      cases kept
      rw [permitted, Bool.and_eq_true, Bool.not_eq_true', Bool.not_eq_true'] at allowed
      exact ⟨accepted, trim_trim _, isControl_trim allowed.2⟩
    · cases kept
  | literal values =>
    obtain ⟨raw, string, kept⟩ := Option.bind_eq_some_iff.mp given
    cases doc <;> cases string
    split at kept
    · rename_i chosen
      cases kept
      exact ⟨chosen, allowed⟩
    · cases kept
  | natural nullable minimum maximum =>
    obtain ⟨number, int, kept⟩ := Option.bind_eq_some_iff.mp given
    split at kept
    · rename_i range
      cases kept
      exact ⟨by omega, fun most member => by have := range.2 most member; omega⟩
    · cases kept
  | flag =>
    obtain ⟨flag, bool, rfl⟩ := Option.map_eq_some_iff.mp given
    exact trivial
  | measure =>
    obtain ⟨literal, float, rfl⟩ := Option.map_eq_some_iff.mp given
    exact reads.float doc literal float
  | instant nullable =>
    obtain ⟨moment, datetime, rfl⟩ := Option.map_eq_some_iff.mp given
    exact reads.datetime doc moment datetime
  | identifiers maximum =>
    obtain ⟨items, array, rest⟩ := Option.bind_eq_some_iff.mp given
    obtain ⟨texts, strings, kept⟩ := Option.bind_eq_some_iff.mp rest
    split at kept
    · rename_i short
      obtain ⟨values, bounded, rfl⟩ := Option.map_eq_some_iff.mp kept
      obtain ⟨facts, length⟩ := boundedIdentifiers_facts bounded
      rw [List.length_map] at length
      exact ⟨length ▸ short, facts⟩
    · cases kept
  | literals choices minimum maximum =>
    obtain ⟨items, array, rest⟩ := Option.bind_eq_some_iff.mp given
    obtain ⟨texts, strings, kept⟩ := Option.bind_eq_some_iff.mp rest
    split at kept
    · rename_i chosen
      cases kept
      have sorted := List.perm_insertionSort (· ≤ ·) texts
      rw [← sorted.length_eq] at chosen
      exact ⟨fun value member => chosen.1 value (sorted.mem_iff.mp member), chosen.2.1, chosen.2.2.1,
        sorted.nodup_iff.mpr chosen.2.2.2, List.pairwise_insertionSort _ texts⟩
    · cases kept

/-- What a field reads fits its kind. -/
theorem fits_of_read (reads : externals.ReadsBack) {spec : FieldSpec} {doc : JsonDoc} {value : Scalar}
    (given : (spec.field externals).read doc = some value) : spec.kind.Fits externals value := by
  have given : (if permitted doc = true then spec.kind.read externals doc else none) = some value := given
  split at given
  · rename_i allowed
    rw [Kind.read] at given
    split at given
    · split at given
      · rename_i nullable
        cases given
        cases kind : spec.kind <;> rw [kind] at nullable <;> exact nullable
      · cases given
    · exact fits_of_readValue reads allowed given
  · cases given

/-- The text of a value looks like a path of this machine. -/
def Scalar.isPath : Scalar → Bool
  | .text value => looksLikeAbsoluteLocalPath value
  | _ => false

theorem readValue_dump (reads : externals.ReadsBack) {kind : Kind} {value : Scalar} (fits : kind.Fits externals value)
    (given : value ≠ .null) : kind.readValue externals (value.dump externals) = some value := by
  cases kind with
  | text shape =>
    cases value with
    | null => exact absurd rfl given
    | text value =>
      obtain ⟨accepted, trimmed, -⟩ := fits
      show (if shape.accepts externals (trim value) = true then some (Scalar.text (trim value)) else none) = _
      rw [trimmed, if_pos accepted]
    | _ => cases fits
  | literal values =>
    cases value with
    | null => exact absurd rfl given
    | text value => exact if_pos fits.1
    | _ => cases fits
  | natural nullable minimum maximum =>
    cases value with
    | null => exact absurd rfl given
    | natural value =>
      have range : (minimum : Int) ≤ value ∧ ∀ most ∈ maximum, (value : Int) ≤ most :=
        ⟨Int.ofNat_le.mpr fits.1, fun most member => Int.ofNat_le.mpr (fits.2 most member)⟩
      rw [Kind.readValue, Scalar.dump, reads.int]
      exact if_pos range
    | _ => cases fits
  | flag =>
    cases value with
    | null => exact absurd rfl given
    | flag value =>
      rw [Kind.readValue, Scalar.dump, reads.bool]
      rfl
    | _ => cases fits
  | measure =>
    cases value with
    | null => exact absurd rfl given
    | measure written =>
      rw [Kind.readValue, Scalar.dump, fits.1]
      rfl
    | _ => cases fits
  | instant nullable =>
    cases value with
    | null => exact absurd rfl given
    | instant moment =>
      rw [Kind.readValue, Scalar.dump, fits.1]
      rfl
    | _ => cases fits
  | identifiers maximum =>
    cases value with
    | null => exact absurd rfl given
    | texts values =>
      obtain ⟨short, kept⟩ := fits
      show ((values.map JsonDoc.string).mapM stringOf).bind _ = _
      rw [mapM_stringOf, Option.bind_some, if_pos short, kept.again]
      rfl
    | _ => cases fits
  | literals choices minimum maximum =>
    cases value with
    | null => exact absurd rfl given
    | texts values =>
      obtain ⟨chosen, least, most, distinct, ordered⟩ := fits
      show ((values.map JsonDoc.string).mapM stringOf).bind _ = _
      rw [mapM_stringOf, Option.bind_some, if_pos ⟨chosen, least, most, distinct⟩, ordered.insertionSort_eq]
    | _ => cases fits

theorem isNull_dump (value : Scalar) : isNull (value.dump externals) = true ↔ value = .null := by
  cases value <;> simp [Scalar.dump, isNull]

/-- Only a path is refused when a dump is read. -/
theorem permitted_dump {kind : Kind} {value : Scalar} (fits : kind.Fits externals value) :
    permitted (value.dump externals) = true ↔ value.isPath = false := by
  cases value with
  | text value =>
    have clean : value.any isControl = false := by
      cases kind with
      | text shape => exact fits.2.2
      | literal values =>
        have allowed := fits.2
        rw [permitted, Bool.and_eq_true, Bool.not_eq_true', Bool.not_eq_true'] at allowed
        exact allowed.2
      | _ => cases fits
    rw [Scalar.dump, permitted, clean, Scalar.isPath]
    simp
  | instant moment =>
    cases kind with
    | instant nullable => exact iff_of_true fits.2 rfl
    | _ => cases fits
  | _ => exact iff_of_true rfl rfl

/-- A value comes back from its dump exactly when it does not look like a path. -/
theorem readBack_iff (reads : externals.ReadsBack) {spec : FieldSpec} {value : Scalar} (fits : spec.kind.Fits externals value) :
    (spec.field externals).read (value.dump externals) = some value ↔ value.isPath = false := by
  rw [← permitted_dump fits]
  show (if permitted (value.dump externals) = true then spec.kind.read externals (value.dump externals) else none) =
      some value ↔ _
  by_cases allowed : permitted (value.dump externals) = true
  · rw [if_pos allowed]
    apply iff_of_true _ allowed
    rw [Kind.read]
    by_cases null : value = .null
    · rw [if_pos ((isNull_dump value).mpr null)]
      rw [null] at fits ⊢
      have nullable : spec.kind.nullable = true := by
        rw [Kind.Fits] at fits
        exact fits
      exact if_pos nullable
    · rw [if_neg fun same => null ((isNull_dump value).mp same)]
      exact readValue_dump reads fits null
  · rw [if_neg allowed]
    exact iff_of_false (fun same => by cases same) allowed

theorem not_path_of_read {spec : FieldSpec} {value : Scalar} (fits : spec.kind.Fits externals value)
    (some : ((spec.field externals).read (value.dump externals)).isSome = true) : value.isPath = false := by
  rw [← permitted_dump fits]
  by_contra refused
  have none : (spec.field externals).read (value.dump externals) = none := if_neg refused
  rw [none] at some
  cases some

/-- What is written for the values of a field tells them apart. -/
theorem dump_injective (reads : externals.ReadsBack) {kind : Kind} {first second : Scalar} (firstFits : kind.Fits externals first)
    (secondFits : kind.Fits externals second) (same : first.dump externals = second.dump externals) : first = second := by
  have null : first = .null ↔ second = .null := by rw [← @isNull_dump externals, same, isNull_dump]
  by_cases none : first = .null
  · rw [none, null.mp none]
  · have left := readValue_dump reads firstFits none
    rw [same, readValue_dump reads secondFits fun other => none (null.mpr other)] at left
    exact (Option.some_inj.mp left).symm

end Kinds

end OpenAssetWatch.Provenance
