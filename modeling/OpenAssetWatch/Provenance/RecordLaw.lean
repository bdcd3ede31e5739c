import OpenAssetWatch.Provenance.FieldLaw

namespace OpenAssetWatch.Provenance

open Library Library.JsonText Text

section Defaults

variable {externals : Externals}

/-- A default that its own field would take. -/
def defaultFits : Kind → Scalar → Bool
  | kind, .null => kind.nullable
  | .literal values, .text value => values.contains value && permitted (.string value)
  | .natural _ minimum maximum, .natural value => minimum ≤ value && maximum.all (value ≤ ·)
  | .identifiers _, .texts values => values.isEmpty
  | _, _ => false

theorem fits_of_defaultFits {kind : Kind} {value : Scalar} (fits : defaultFits kind value = true) : kind.Fits externals value := by
  cases value with
  | null =>
    cases kind <;> exact fits
  | text value =>
    cases kind with
    | literal values =>
      rw [defaultFits, Bool.and_eq_true] at fits
      exact ⟨List.contains_iff_mem.mp fits.1, fits.2⟩
    | _ => cases fits
  | natural value =>
    cases kind with
    | natural nullable minimum maximum =>
      simp only [defaultFits, Bool.and_eq_true, decide_eq_true_eq, Option.all_eq_true_iff_get] at fits
      refine ⟨fits.1, fun most member => ?_⟩
      rw [Option.mem_def] at member
      subst member
      exact fits.2 rfl
    | _ => cases fits
  | texts values =>
    cases kind with
    | identifiers maximum =>
      cases values with
      | nil => exact ⟨Nat.zero_le _, ⟨by simp, List.Pairwise.nil, List.nodup_nil⟩⟩
      | cons value values => cases fits
    | _ => cases fits
  | _ => cases kind <;> cases fits

def isClean (value : List Char) : Bool := !looksLikeAbsoluteLocalPath value && !value.any isControl

/-- What a model's fields must be like: distinct names, defaults that fit, choices that are no paths. -/
def wellFormed (specs : List FieldSpec) : Bool :=
  (specs.map fun spec => spec.name.toList).Nodup && specs.all fun spec =>
    spec.default.all (defaultFits spec.kind) && match spec.kind with
      | .literals choices _ _ => choices.all isClean
      | _ => true

theorem wellFormed_facts {specs : List FieldSpec} (formed : wellFormed specs = true) :
    (specs.map fun spec => spec.name.toList).Nodup ∧
      (∀ spec ∈ specs, ∀ value ∈ spec.default, defaultFits spec.kind value = true) ∧
      ∀ spec ∈ specs, ∀ choices minimum maximum, spec.kind = .literals choices minimum maximum → choices.all isClean = true := by
  rw [wellFormed, Bool.and_eq_true, List.all_eq_true, decide_eq_true_eq] at formed
  refine ⟨formed.1, fun spec member value given => ?_, fun spec member choices minimum maximum kind => ?_⟩
  · have fits := (Bool.and_eq_true _ _ ▸ formed.2 spec member).1
    rw [given] at fits
    exact fits
  · have clean := (Bool.and_eq_true _ _ ▸ formed.2 spec member).2
    rw [kind] at clean
    exact clean

end Defaults

section Records

variable {externals : Externals} {specs : List FieldSpec} {entries : List (List Char × JsonDoc)} {record : Record Scalar}

/-- The values of a model, each of the kind of its field. -/
def RecordFits (externals : Externals) (specs : List FieldSpec) (record : Record Scalar) : Prop :=
  List.Forall₂ (fun spec entry => entry.1 = spec.name.toList ∧ spec.kind.Fits externals entry.2) specs record

theorem readSpecs_eq_some : readSpecs externals specs entries = some record ↔
    List.Forall₂ (fun spec entry => entry.1 = spec.name.toList ∧ (spec.field externals).take entries = some entry.2)
      specs record := by
  rw [readSpecs, readRecord_eq_some, List.forall₂_map_left_iff]
  rfl

theorem fits_of_take (reads : externals.ReadsBack) (formed : wellFormed specs = true) {spec : FieldSpec} (member : spec ∈ specs)
    {value : Scalar} (given : (spec.field externals).take entries = some value) : spec.kind.Fits externals value := by
  rw [RecordField.take] at given
  split at given
  · exact fits_of_read reads given
  · exact fits_of_defaultFits ((wellFormed_facts formed).2.1 spec member value given)

theorem recordFits_of_read (reads : externals.ReadsBack) (formed : wellFormed specs = true)
    (given : readSpecs externals specs entries = some record) : RecordFits externals specs record := by
  have taken := readSpecs_eq_some.mp given
  apply List.forall₂_iff_zip.mpr
  apply And.intro taken.length_eq
  intro spec entry member
  have both := (List.forall₂_iff_zip.mp taken).2 member
  exact ⟨both.1, fits_of_take reads formed (List.of_mem_zip member).1 both.2⟩

theorem names_of_fits (fits : RecordFits externals specs record) : record.map (·.1) = specs.map fun spec => spec.name.toList := by
  induction fits with
  | nil => rfl
  | cons here _ hypothesis => rw [List.map_cons, List.map_cons, here.1, hypothesis]

theorem exists_spec_of_mem (fits : RecordFits externals specs record) {entry : List Char × Scalar} (member : entry ∈ record) :
    ∃ spec ∈ specs, entry.1 = spec.name.toList ∧ spec.kind.Fits externals entry.2 := by
  induction fits with
  | nil => cases member
  | cons here _ hypothesis =>
    rcases List.mem_cons.mp member with rfl | later
    · exact ⟨_, List.mem_cons_self, here⟩
    · obtain ⟨spec, listed, facts⟩ := hypothesis later
      exact ⟨spec, List.mem_cons_of_mem _ listed, facts⟩

/-- No value of the record looks like a path of this machine. -/
def pathFree (record : Record Scalar) : Prop := ∀ entry ∈ record, entry.2.isPath = false

theorem distinct_fields (externals : Externals) (formed : wellFormed specs = true) :
    ((specs.map (·.field externals)).map (·.name)).Nodup := by
  rw [List.map_map]
  exact (wellFormed_facts formed).1

theorem named_fields (fits : RecordFits externals specs record) :
    record.map (·.1) = (specs.map (·.field externals)).map (·.name) := by
  rw [List.map_map]
  exact names_of_fits fits

theorem pathFree_of_readSpecs (formed : wellFormed specs = true) (fits : RecordFits externals specs record)
    {others : List (List Char × JsonDoc)} {again : Record Scalar}
    (read : readSpecs externals specs (dumpRecord externals record ++ others) = some again) : pathFree record := by
  intro entry member
  obtain ⟨spec, inside⟩ := exists_zip_of_mem_right fits.length_eq member
  have each := isSome_of_readRecord (distinct_fields externals formed) (named_fields fits) _ others read
    (spec.field externals, entry) (by
      rw [List.zip_map_left]
      exact List.mem_map_of_mem (f := Prod.map (·.field externals) id) inside)
  exact not_path_of_read ((List.forall₂_iff_zip.mp fits).2 inside).2 each

theorem readSpecs_dump (reads : externals.ReadsBack) (formed : wellFormed specs = true) (fits : RecordFits externals specs record)
    (others : List (List Char × JsonDoc)) :
    readSpecs externals specs (dumpRecord externals record ++ others) = some record ↔ pathFree record := by
  constructor
  · exact fun read => pathFree_of_readSpecs formed fits read
  · intro free
    apply (readRecord_writeRecord (distinct_fields externals formed) (named_fields fits) _ others).mpr
    intro pair member
    rw [List.zip_map_left] at member
    obtain ⟨⟨spec, entry⟩, inside, rfl⟩ := List.mem_map.mp member
    exact (readBack_iff reads ((List.forall₂_iff_zip.mp fits).2 inside).2).mpr (free entry (List.of_mem_zip inside).2)

/-- The strings that a value holds. -/
def Scalar.strings : Scalar → List (List Char)
  | .text value => [value]
  | .texts values => values
  | _ => []

theorem strings_clean (formed : wellFormed specs = true) (fits : RecordFits externals specs record) :
    (∀ entry ∈ record, ∀ value ∈ entry.2.strings, looksLikeAbsoluteLocalPath value = false ∧ value.any isControl = false) ↔
      pathFree record := by
  constructor
  · intro clean entry member
    cases held : entry.2 with
    | text value =>
      have inside : value ∈ entry.2.strings := by
        rw [held]
        exact List.mem_singleton_self _
      exact (clean entry member value inside).1
    | _ => rfl
  · intro free entry member value inside
    obtain ⟨spec, listed, -, kept⟩ := exists_spec_of_mem fits member
    have path := free entry member
    cases held : entry.2 with
    | text stored =>
      rw [held] at inside path kept
      rw [List.mem_singleton.mp inside]
      have allowed := (permitted_dump kept).mpr path
      rw [Scalar.dump, permitted, Bool.and_eq_true, Bool.not_eq_true', Bool.not_eq_true'] at allowed
      exact allowed
    | texts stored =>
      rw [held] at inside kept
      cases kind : spec.kind with
      | identifiers maximum =>
        rw [kind] at kept
        exact identifier_clean (kept.2.bounded value inside).2
      | literals choices minimum maximum =>
        rw [kind] at kept
        have clean := List.all_eq_true.mp ((wellFormed_facts formed).2.2 spec listed _ _ _ kind) value (kept.1 value inside)
        rw [isClean, Bool.and_eq_true, Bool.not_eq_true', Bool.not_eq_true'] at clean
        exact clean
      | _ =>
        rw [kind] at kept
        cases kept
    | _ =>
      rw [held] at inside
      cases inside

/-- Whether a field takes any text. -/
def Kind.isText : Kind → Bool
  | .text _ => true
  | _ => false

/-- No text of a payload looks like a path of this machine once its blanks are stripped. -/
def noHiddenPath (specs : List FieldSpec) (entries : List (List Char × JsonDoc)) : Prop :=
  ∀ spec ∈ specs, spec.kind.isText = true → ∀ raw, entries.lookup spec.name.toList = some (.string raw) →
    looksLikeAbsoluteLocalPath (trim raw) = false

theorem path_of_take (reads : externals.ReadsBack) (formed : wellFormed specs = true) {spec : FieldSpec} (member : spec ∈ specs)
    {value : Scalar} (given : (spec.field externals).take entries = some value) :
    value.isPath = false ↔ (spec.kind.isText = true → ∀ raw, entries.lookup spec.name.toList = some (.string raw) →
      looksLikeAbsoluteLocalPath (trim raw) = false) := by
  have fits := fits_of_take reads formed member given
  rw [RecordField.take] at given
  cases found : entries.lookup spec.name.toList with
  | none =>
    rw [show entries.lookup (spec.field externals).name = none from found] at given
    have given : spec.default = some value := given
    have default := (wellFormed_facts formed).2.1 spec member value given
    apply iff_of_true _ (fun _ raw impossible => by cases impossible)
    cases held : value with
    | text stored =>
      rw [held] at default
      cases kind : spec.kind with
      | literal values =>
        rw [kind] at default
        have allowed := (Bool.and_eq_true _ _ ▸ default).2
        rw [permitted, Bool.and_eq_true, Bool.not_eq_true'] at allowed
        exact allowed.1
      | _ =>
        rw [kind] at default
        cases default
    | _ => rfl
  | some doc =>
    rw [show entries.lookup (spec.field externals).name = some doc from found] at given
    have given : (if permitted doc = true then spec.kind.read externals doc else none) = some value := given
    split at given
    · rename_i allowed
      cases kind : spec.kind with
      | text shape =>
        rw [kind] at given
        cases doc with
        | string raw =>
          have given : (if shape.accepts externals (trim raw) = true then some (Scalar.text (trim raw)) else none) = some value :=
            given
          split at given
          · cases given
            exact ⟨fun path _ other same => by cases same; exact path, fun all => all rfl raw rfl⟩
          · cases given
        | null =>
          have given : (if shape.nullable = true then some Scalar.null else none) = some value := given
          split at given
          · cases given
            exact iff_of_true rfl fun _ other same => by cases same
          · cases given
        | _ => cases given
      | literal values =>
        apply iff_of_true _ (fun impossible => by cases impossible)
        rw [kind] at fits
        cases held : value with
        | text stored =>
          rw [held] at fits
          have allowed := fits.2
          rw [permitted, Bool.and_eq_true, Bool.not_eq_true'] at allowed
          exact allowed.1
        | _ => rfl
      | _ =>
        apply iff_of_true _ (fun impossible => by cases impossible)
        rw [kind] at fits
        cases value <;> first | rfl | cases fits
    · cases given

theorem pathFree_iff (reads : externals.ReadsBack) (formed : wellFormed specs = true)
    (given : readSpecs externals specs entries = some record) : pathFree record ↔ noHiddenPath specs entries := by
  have taken := readSpecs_eq_some.mp given
  have each : ∀ spec entry, (spec, entry) ∈ specs.zip record → (entry.2.isPath = false ↔ (spec.kind.isText = true →
      ∀ raw, entries.lookup spec.name.toList = some (.string raw) → looksLikeAbsoluteLocalPath (trim raw) = false)) := by
    intro spec entry member
    exact path_of_take reads formed (List.of_mem_zip member).1 ((List.forall₂_iff_zip.mp taken).2 member).2
  constructor
  · intro free spec member
    obtain ⟨entry, inside⟩ := exists_zip_of_mem_left taken.length_eq member
    exact (each spec entry inside).mp (free entry (List.of_mem_zip inside).2)
  · intro hidden entry member
    obtain ⟨spec, inside⟩ := exists_zip_of_mem_right taken.length_eq member
    exact (each spec entry inside).mpr (hidden spec (List.of_mem_zip inside).1)

theorem dumpRecord_injective (reads : externals.ReadsBack) {other : Record Scalar} (fits : RecordFits externals specs record)
    (otherFits : RecordFits externals specs other) (same : dumpRecord externals record = dumpRecord externals other) :
    record = other := by
  induction fits generalizing other with
  | nil =>
    cases otherFits
    rfl
  | cons here _ hypothesis =>
    cases otherFits with
    | cons there rest =>
      rw [dumpRecord, dumpRecord, writeRecord, writeRecord, List.map_cons, List.map_cons, List.cons.injEq, Prod.mk.injEq] at same
      have value := dump_injective reads here.2 there.2 same.1.2
      rw [hypothesis rest same.2, Prod.ext same.1.1 value]

section Numbers

theorem numbers_dump {kind : Kind} {value : Scalar} (fits : kind.Fits externals value) :
    numbersPrinted (value.dump externals) := by
  cases value with
  | natural value =>
    apply And.intro (isNumber_toDigits value)
    apply List.all_eq_true.mpr
    intro c member
    have digit := isDigit_of_mem_toDigits member
    rw [isDigit, Bool.and_eq_true] at digit
    have high : c.toNat ≤ 57 := of_decide_eq_true digit.2
    exact decide_eq_true (by omega)
  | measure written =>
    cases kind with
    | measure =>
      apply And.intro fits.2.1
      exact List.all_eq_true.mpr fun c member => decide_eq_true (fits.2.2 c member)
    | _ => cases fits
  | texts values =>
    apply And.intro
    · apply itemsRead_iff.mpr
      intro item member
      obtain ⟨text, -, rfl⟩ := List.mem_map.mp member
      trivial
    · rw [Scalar.dump, plainNumbers_array, List.all_map]
      exact List.all_eq_true.mpr fun text _ => rfl
  | _ => exact ⟨trivial, rfl⟩

theorem settle_dump (value : Scalar) : settle id (value.dump externals) = value.dump externals := by
  cases value with
  | texts values =>
    rw [Scalar.dump, settle_array, List.map_map]
    rfl
  | _ => rfl

end Numbers

end Records

end OpenAssetWatch.Provenance
