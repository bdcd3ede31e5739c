import OpenAssetWatch.Library.Guard
import OpenAssetWatch.Provenance.RecordLaw

namespace OpenAssetWatch.Provenance

open Library Library.JsonText Text

section Models

theorem wellFormed_models :
    ∀ specs ∈ [manifestFields, modelIdentity, sourceCheckpoint, conversion, quantization, artifactIdentity,
    artifactSplit, runtimeCompatibility, resourceObservations], wellFormed specs = true := by
  decide +kernel

variable {externals : Externals} {specs : List FieldSpec} {record : Record Scalar}

theorem onlyKeys_of_fits (fits : RecordFits externals specs record) {keys : List String}
    (inside : ∀ spec ∈ specs, spec.name ∈ keys) : onlyKeys keys (dumpRecord externals record) = true := by
  apply List.all_eq_true.mpr
  intro entry member
  obtain ⟨source, listed, rfl⟩ := List.mem_map.mp member
  obtain ⟨spec, known, named, -⟩ := exists_spec_of_mem fits listed
  apply List.contains_iff_mem.mpr
  show source.1 ∈ _
  rw [named]
  exact List.mem_map_of_mem (inside spec known)

theorem readModel_eq_some {doc : JsonDoc} : readModel externals specs doc = some record ↔
    ∃ entries, doc = .object entries ∧ onlyKeys (specs.map (·.name)) entries = true ∧ readSpecs externals specs entries =
      some record := by
  constructor
  · intro given
    cases doc with
    | object entries =>
      have given : (if onlyKeys (specs.map (·.name)) entries = true then readSpecs externals specs entries else none) =
          some record :=
        given
      split at given
      · rename_i only
        exact ⟨entries, rfl, only, given⟩
      · cases given
    | _ => cases given
  · rintro ⟨entries, rfl, only, given⟩
    exact (if_pos only).trans given

theorem fits_of_readModel (reads : externals.ReadsBack) (formed : wellFormed specs = true) {doc : JsonDoc}
    (given : readModel externals specs doc = some record) : RecordFits externals specs record := by
  obtain ⟨entries, -, -, read⟩ := readModel_eq_some.mp given
  exact recordFits_of_read reads formed read

theorem pathFree_of_readModel (formed : wellFormed specs = true) (fits : RecordFits externals specs record)
    {again : Record Scalar} (read : readModel externals specs (dumpModel externals record) = some again) : pathFree record := by
  obtain ⟨entries, same, -, given⟩ := readModel_eq_some.mp read
  cases same
  rw [← List.append_nil (dumpRecord externals record)] at given
  exact pathFree_of_readSpecs formed fits given

theorem readModel_dump (reads : externals.ReadsBack) (formed : wellFormed specs = true) (fits : RecordFits externals specs record) :
    readModel externals specs (dumpModel externals record) = some record ↔ pathFree record := by
  apply Iff.intro (pathFree_of_readModel formed fits)
  intro free
  have only : onlyKeys (specs.map (·.name)) (dumpRecord externals record) = true :=
    onlyKeys_of_fits fits fun spec member => List.mem_map_of_mem member
  have read := (readSpecs_dump reads formed fits []).mpr free
  rw [List.append_nil] at read
  exact readModel_eq_some.mpr ⟨_, rfl, only, read⟩

theorem lookup_dump_none (fits : RecordFits externals specs record) {key : List Char}
    (outside : key ∉ specs.map fun spec => spec.name.toList) (others : List (List Char × JsonDoc)) :
    (dumpRecord externals record ++ others).lookup key = others.lookup key := by
  have absent : (dumpRecord externals record).lookup key = none := by
    apply List.lookup_eq_none_iff.mpr
    intro entry member
    obtain ⟨source, listed, rfl⟩ := List.mem_map.mp member
    rw [bne_iff_ne]
    rintro rfl
    apply outside
    rw [← names_of_fits fits]
    exact List.mem_map_of_mem (f := (·.1)) listed
  rw [List.lookup_append, absent, Option.none_or]

end Models

section Artifacts

variable {externals : Externals} {sha256 : ByteArray → List Char}

theorem ordinal_total : Std.Total (fun a b : Record Scalar => ordinal a ≤ ordinal b) :=
  ⟨fun a b => le_total (ordinal a) (ordinal b)⟩

theorem ordinal_trans : IsTrans (Record Scalar) (fun a b => ordinal a ≤ ordinal b) := ⟨fun _ _ _ => le_trans⟩

theorem sortByOrdinal_perm (splits : List (Record Scalar)) : (sortByOrdinal splits).Perm splits := List.perm_insertionSort _ _

theorem sortByOrdinal_again (splits : List (Record Scalar)) : sortByOrdinal (sortByOrdinal splits) = sortByOrdinal splits := by
  have total := ordinal_total
  have trans := ordinal_trans
  exact (List.pairwise_insertionSort _ splits).insertionSort_eq

/-- What an artifact is read from. -/
structure ArtifactRead (externals : Externals) (sha256 : ByteArray → List Char) (entries : List (List Char × JsonDoc))
    (artifact : ModelArtifactIdentity) : Prop where
  keys : onlyKeys (artifactIdentity.map (·.name) ++ ["splits"]) entries = true
  fields : readSpecs externals artifactIdentity entries = some artifact.fields
  splits : ∃ splits, readSplits externals entries = some splits ∧ artifact.splits = sortByOrdinal splits
  valid : artifact.validSplits externals sha256 = true

theorem readArtifact_eq_some {entries : List (List Char × JsonDoc)} {artifact : ModelArtifactIdentity} :
    readArtifact externals sha256 (.object entries) = some artifact ↔ ArtifactRead externals sha256 entries artifact := by
  rw [readArtifact]
  constructor
  · intro given
    obtain ⟨keys, given⟩ := guard_bind_eq_some.mp given
    obtain ⟨fields, read, given⟩ := Option.bind_eq_some_iff.mp given
    obtain ⟨splits, listed, given⟩ := Option.bind_eq_some_iff.mp given
    obtain ⟨valid, given⟩ := guard_bind_eq_some.mp given
    cases given
    exact ⟨keys, read, ⟨splits, listed, rfl⟩, valid⟩
  · rintro ⟨keys, fields, ⟨splits, listed, same⟩, valid⟩
    obtain ⟨record, sorted⟩ := artifact
    cases same
    apply guard_bind_eq_some.mpr ⟨keys, _⟩
    apply Option.bind_eq_some_iff.mpr ⟨_, fields, _⟩
    apply Option.bind_eq_some_iff.mpr ⟨_, listed, _⟩
    exact guard_bind_eq_some.mpr ⟨valid, rfl⟩

theorem readSplits_eq_some {entries : List (List Char × JsonDoc)} {splits : List (Record Scalar)} :
    readSplits externals entries = some splits ↔
      (entries.lookup "splits".toList = none ∧ splits = []) ∨
        ∃ items, entries.lookup "splits".toList = some (.array items) ∧ items.length ≤ maxArtifactSplits ∧
          items.mapM (readModel externals artifactSplit) = some splits := by
  rw [readSplits]
  cases entries.lookup "splits".toList with
  | none =>
    constructor
    · intro same
      cases same
      exact .inl ⟨rfl, rfl⟩
    · rintro (⟨-, rfl⟩ | ⟨items, impossible, -⟩)
      · rfl
      · cases impossible
  | some doc =>
    constructor
    · intro given
      obtain ⟨items, array, rest⟩ := Option.bind_eq_some_iff.mp given
      cases doc <;> cases array
      split at rest
      · rename_i short
        exact .inr ⟨items, rfl, short, rest⟩
      · cases rest
    · rintro (⟨impossible, -⟩ | ⟨items, same, short, read⟩)
      · cases impossible
      · cases same
        exact (if_pos short).trans read

theorem mapM_eq_some {α β : Type} {read : α → Option β} {items : List α} {values : List β} :
    items.mapM read = some values ↔ List.Forall₂ (fun item value => read item = some value) items values := by
  induction items generalizing values with
  | nil =>
    rw [List.mapM_nil, List.forall₂_nil_left_iff]
    exact ⟨fun same => (Option.some_inj.mp same).symm, fun empty => congrArg some empty.symm⟩
  | cons item items hypothesis =>
    rw [List.mapM_cons, Option.bind_eq_bind, Option.bind_eq_some_iff, List.forall₂_cons_left_iff]
    constructor
    · rintro ⟨first, given, rest⟩
      obtain ⟨others, all, same⟩ := Option.bind_eq_some_iff.mp rest
      cases same
      exact ⟨first, others, given, hypothesis.mp all, rfl⟩
    · rintro ⟨first, others, given, all, rfl⟩
      exact ⟨first, given, Option.bind_eq_some_iff.mpr ⟨others, hypothesis.mpr all, rfl⟩⟩

/-- The models of an artifact, each of the kind of its fields. -/
structure ArtifactFits (externals : Externals) (artifact : ModelArtifactIdentity) : Prop where
  fields : RecordFits externals artifactIdentity artifact.fields
  splits : ∀ split ∈ artifact.splits, RecordFits externals artifactSplit split

theorem ArtifactRead.fits (reads : externals.ReadsBack) {entries : List (List Char × JsonDoc)} {artifact : ModelArtifactIdentity}
    (read : ArtifactRead externals sha256 entries artifact) : ArtifactFits externals artifact := by
  apply ArtifactFits.mk
  · exact recordFits_of_read reads (wellFormed_models artifactIdentity (by simp)) read.fields
  · intro split member
    obtain ⟨splits, given, same⟩ := read.splits
    rw [same] at member
    have member := (sortByOrdinal_perm splits).mem_iff.mp member
    rcases readSplits_eq_some.mp given with ⟨-, rfl⟩ | ⟨items, -, -, all⟩
    · cases member
    · obtain ⟨item, -, here⟩ := exists_left_of_forall₂ (mapM_eq_some.mp all) member
      exact fits_of_readModel reads (wellFormed_models artifactSplit (by simp)) here

def ModelArtifactIdentity.pathFree (artifact : ModelArtifactIdentity) : Prop :=
  Provenance.pathFree artifact.fields ∧ ∀ split ∈ artifact.splits, Provenance.pathFree split

theorem readArtifact_dump (reads : externals.ReadsBack) {entries : List (List Char × JsonDoc)} {artifact : ModelArtifactIdentity}
    (read : ArtifactRead externals sha256 entries artifact) :
    readArtifact externals sha256 (artifact.dump externals) = some artifact ↔ artifact.pathFree := by
  have fits := read.fits reads
  have formed := wellFormed_models artifactSplit (by simp)
  have fields := readSpecs_dump reads (wellFormed_models artifactIdentity (by simp)) fits.fields
    [("splits".toList, .array (artifact.splits.map (dumpModel externals)))]
  have listed : (dumpRecord externals artifact.fields ++
      [("splits".toList, JsonDoc.array (artifact.splits.map (dumpModel externals)))]).lookup "splits".toList =
        some (.array (artifact.splits.map (dumpModel externals))) := by
    rw [lookup_dump_none fits.fields (by decide)]
    rfl
  have sorted : sortByOrdinal artifact.splits = artifact.splits := by
    obtain ⟨splits, -, same⟩ := read.splits
    rw [same, sortByOrdinal_again]
  have short : (artifact.splits.map (dumpModel externals)).length ≤ maxArtifactSplits := by
    obtain ⟨splits, given, same⟩ := read.splits
    rw [List.length_map, same, (sortByOrdinal_perm splits).length_eq]
    rcases readSplits_eq_some.mp given with ⟨-, rfl⟩ | ⟨items, -, short, all⟩
    · exact Nat.zero_le _
    · rw [← (mapM_eq_some.mp all).length_eq]
      exact short
  have keys : onlyKeys (artifactIdentity.map (·.name) ++ ["splits"]) (dumpRecord externals artifact.fields ++
      [("splits".toList, JsonDoc.array (artifact.splits.map (dumpModel externals)))]) = true := by
    have own : onlyKeys (artifactIdentity.map (·.name) ++ ["splits"]) (dumpRecord externals artifact.fields) = true :=
      onlyKeys_of_fits fits.fields fun spec member => List.mem_append_left _ (List.mem_map_of_mem member)
    rw [onlyKeys, List.all_append, Bool.and_eq_true]
    apply And.intro own
    rw [List.all_cons, List.all_nil, Bool.and_true]
    show ((artifactIdentity.map (·.name) ++ ["splits"]).map String.toList).contains "splits".toList = true
    decide
  rw [ModelArtifactIdentity.dump, readArtifact_eq_some]
  constructor
  · intro again
    apply And.intro (fields.mp again.fields)
    intro split member
    obtain ⟨splits, given, same⟩ := again.splits
    rcases readSplits_eq_some.mp given with ⟨absent, -⟩ | ⟨items, found, -, all⟩
    · rw [listed] at absent
      cases absent
    · rw [listed] at found
      cases found
      have pairs := mapM_eq_some.mp all
      rw [List.forall₂_map_left_iff] at pairs
      obtain ⟨other, inside⟩ := exists_zip_of_mem_left pairs.length_eq member
      exact pathFree_of_readModel formed (fits.splits split member) ((List.forall₂_iff_zip.mp pairs).2 inside)
  · rintro ⟨free, splitsFree⟩
    apply ArtifactRead.mk keys (fields.mpr free)
    · refine ⟨artifact.splits, readSplits_eq_some.mpr (.inr ⟨_, listed, short, mapM_eq_some.mpr ?_⟩), sorted.symm⟩
      rw [List.forall₂_map_left_iff, List.forall₂_same]
      exact fun split member => (readModel_dump reads formed (fits.splits split member)).mpr (splitsFree split member)
    · exact read.valid

end Artifacts

section Contents

variable {externals : Externals} {sha256 : ByteArray → List Char} {entries : List (List Char × JsonDoc)}

theorem readConversion_eq_some {doc : JsonDoc} {record : Record Scalar} : readConversion externals doc = some record ↔
    readModel externals conversion doc = some record ∧
      validInterval record "conversion_started_at" "conversion_completed_at" = true := by
  rw [readConversion]
  constructor
  · intro given
    obtain ⟨read, model, rest⟩ := Option.bind_eq_some_iff.mp given
    obtain ⟨valid, same⟩ := guard_bind_eq_some.mp rest
    cases same
    exact ⟨model, valid⟩
  · rintro ⟨model, valid⟩
    exact Option.bind_eq_some_iff.mpr ⟨_, model, guard_bind_eq_some.mpr ⟨valid, rfl⟩⟩

theorem readQuantization_eq_some {doc : JsonDoc} {record : Record Scalar} : readQuantization externals doc = some record ↔
    readModel externals quantization doc = some record ∧
      validInterval record "quantization_started_at" "quantization_completed_at" = true := by
  rw [readQuantization]
  constructor
  · intro given
    obtain ⟨read, model, rest⟩ := Option.bind_eq_some_iff.mp given
    obtain ⟨valid, same⟩ := guard_bind_eq_some.mp rest
    cases same
    exact ⟨model, valid⟩
  · rintro ⟨model, valid⟩
    exact Option.bind_eq_some_iff.mpr ⟨_, model, guard_bind_eq_some.mpr ⟨valid, rfl⟩⟩

/-- What the contents of a manifest are read from. -/
structure ContentsRead (externals : Externals) (sha256 : ByteArray → List Char) (entries : List (List Char × JsonDoc))
    (contents : ManifestContents) : Prop where
  keys : onlyKeys manifestKeys entries = true
  fields : readSpecs externals manifestFields entries = some contents.fields
  modelIdentity : nested "model_identity" (readModel externals modelIdentity) entries = some contents.modelIdentity
  sourceCheckpoint : nested "source_checkpoint" (readModel externals sourceCheckpoint) entries = some contents.sourceCheckpoint
  conversion : nested "conversion" (readConversion externals) entries = some contents.conversion
  quantization : nested "quantization" (readQuantization externals) entries = some contents.quantization
  artifact : nested "artifact" (readArtifact externals sha256) entries = some contents.artifact
  runtimeCompatibility :
    nested "runtime_compatibility" (readModel externals runtimeCompatibility) entries = some contents.runtimeCompatibility
  resourceObservations : readResources externals entries = some contents.resourceObservations

theorem readContents_eq_some {contents : ManifestContents} :
    readContents externals sha256 entries = some contents ↔ ContentsRead externals sha256 entries contents := by
  rw [readContents]
  constructor
  · intro given
    obtain ⟨keys, given⟩ := guard_bind_eq_some.mp given
    obtain ⟨_, fields, given⟩ := Option.bind_eq_some_iff.mp given
    obtain ⟨_, modelIdentity, given⟩ := Option.bind_eq_some_iff.mp given
    obtain ⟨_, sourceCheckpoint, given⟩ := Option.bind_eq_some_iff.mp given
    obtain ⟨_, conversion, given⟩ := Option.bind_eq_some_iff.mp given
    obtain ⟨_, quantization, given⟩ := Option.bind_eq_some_iff.mp given
    obtain ⟨_, artifact, given⟩ := Option.bind_eq_some_iff.mp given
    obtain ⟨_, runtimeCompatibility, given⟩ := Option.bind_eq_some_iff.mp given
    obtain ⟨_, resourceObservations, given⟩ := Option.bind_eq_some_iff.mp given
    cases given
    exact ⟨keys, fields, modelIdentity, sourceCheckpoint, conversion, quantization, artifact, runtimeCompatibility,
      resourceObservations⟩
  · intro read
    apply guard_bind_eq_some.mpr ⟨read.keys, _⟩
    apply Option.bind_eq_some_iff.mpr ⟨_, read.fields, _⟩
    apply Option.bind_eq_some_iff.mpr ⟨_, read.modelIdentity, _⟩
    apply Option.bind_eq_some_iff.mpr ⟨_, read.sourceCheckpoint, _⟩
    apply Option.bind_eq_some_iff.mpr ⟨_, read.conversion, _⟩
    apply Option.bind_eq_some_iff.mpr ⟨_, read.quantization, _⟩
    apply Option.bind_eq_some_iff.mpr ⟨_, read.artifact, _⟩
    apply Option.bind_eq_some_iff.mpr ⟨_, read.runtimeCompatibility, _⟩
    exact Option.bind_eq_some_iff.mpr ⟨_, read.resourceObservations, rfl⟩

/-- What a manifest is read from. -/
structure ManifestRead (externals : Externals) (sha256 : ByteArray → List Char) (entries : List (List Char × JsonDoc))
    (manifest : ModelArtifactManifest) : Prop where
  contents : ContentsRead externals sha256 entries manifest.contents
  lineage : manifest.contents.validLineage = true
  digest : manifest.manifestDigest = computeManifestDigest externals sha256 manifest.contents
  given : ∃ given, (manifestDigestField.field externals).take entries = some given ∧
    (given = .null ∨ given = .text manifest.manifestDigest)

theorem read_eq_some {manifest : ModelArtifactManifest} :
    ModelArtifactManifest.read externals sha256 (.object entries) = some manifest ↔ ManifestRead externals sha256 entries manifest := by
  rw [ModelArtifactManifest.read]
  constructor
  · intro accepted
    obtain ⟨contents, read, accepted⟩ := Option.bind_eq_some_iff.mp accepted
    obtain ⟨given, taken, accepted⟩ := Option.bind_eq_some_iff.mp accepted
    obtain ⟨lineage, accepted⟩ := guard_bind_eq_some.mp accepted
    obtain ⟨digest, accepted⟩ := guard_bind_eq_some.mp accepted
    cases accepted
    exact ⟨readContents_eq_some.mp read, lineage, rfl, ⟨given, taken, digest⟩⟩
  · rintro ⟨contents, lineage, digest, given, taken, same⟩
    obtain ⟨inner, text⟩ := manifest
    obtain rfl : text = computeManifestDigest externals sha256 inner := digest
    apply Option.bind_eq_some_iff.mpr ⟨_, readContents_eq_some.mpr contents, _⟩
    apply Option.bind_eq_some_iff.mpr ⟨given, taken, _⟩
    apply guard_bind_eq_some.mpr ⟨lineage, _⟩
    exact guard_bind_eq_some.mpr ⟨same, rfl⟩

/-- The models of a manifest, each of the kind of its fields. -/
structure ContentsFit (externals : Externals) (contents : ManifestContents) : Prop where
  fields : RecordFits externals manifestFields contents.fields
  modelIdentity : RecordFits externals modelIdentity contents.modelIdentity
  sourceCheckpoint : RecordFits externals sourceCheckpoint contents.sourceCheckpoint
  conversion : RecordFits externals conversion contents.conversion
  quantization : RecordFits externals quantization contents.quantization
  artifact : ArtifactFits externals contents.artifact
  runtimeCompatibility : RecordFits externals runtimeCompatibility contents.runtimeCompatibility
  resourceObservations : ∀ record ∈ contents.resourceObservations, RecordFits externals resourceObservations record

theorem nested_eq_some {α : Type} {name : String} {read : JsonDoc → Option α} {value : α} :
    nested name read entries = some value ↔ ∃ doc, entries.lookup name.toList = some doc ∧ read doc = some value :=
  Option.bind_eq_some_iff

theorem readArtifact_object {doc : JsonDoc} {artifact : ModelArtifactIdentity}
    (read : readArtifact externals sha256 doc = some artifact) :
    ∃ inner, doc = .object inner ∧ ArtifactRead externals sha256 inner artifact := by
  cases doc with
  | object inner => exact ⟨inner, rfl, readArtifact_eq_some.mp read⟩
  | _ => cases read

theorem readResources_eq_some {resources : Option (Record Scalar)} : readResources externals entries = some resources ↔
    (resources = none ∧ ∀ doc ∈ entries.lookup "resource_observations".toList, isNull doc = true) ∨
      ∃ record doc, resources = some record ∧ entries.lookup "resource_observations".toList = some doc ∧
        readModel externals resourceObservations doc = some record := by
  rw [readResources]
  cases entries.lookup "resource_observations".toList with
  | none =>
    constructor
    · intro same
      cases same
      exact .inl ⟨rfl, by simp⟩
    · rintro (⟨rfl, -⟩ | ⟨_, _, -, impossible, -⟩)
      · rfl
      · cases impossible
  | some doc =>
    dsimp only
    by_cases null : isNull doc = true
    · rw [if_pos null]
      constructor
      · intro same
        cases same
        exact .inl ⟨rfl, by simpa using null⟩
      · rintro (⟨rfl, -⟩ | ⟨record, other, rfl, same, read⟩)
        · rfl
        · cases same
          cases doc with
          | null => cases read
          | _ => cases null
    · rw [if_neg null]
      constructor
      · intro same
        obtain ⟨record, read, rfl⟩ := Option.map_eq_some_iff.mp same
        exact .inr ⟨record, doc, rfl, rfl, read⟩
      · rintro (⟨-, all⟩ | ⟨record, other, rfl, same, read⟩)
        · exact absurd (all doc rfl) null
        · cases same
          rw [read]
          rfl

theorem ContentsRead.fits (reads : externals.ReadsBack) {contents : ManifestContents}
    (read : ContentsRead externals sha256 entries contents) : ContentsFit externals contents := by
  obtain ⟨_, -, modelRead⟩ := nested_eq_some.mp read.modelIdentity
  obtain ⟨_, -, sourceRead⟩ := nested_eq_some.mp read.sourceCheckpoint
  obtain ⟨_, -, conversionRead⟩ := nested_eq_some.mp read.conversion
  obtain ⟨_, -, quantizationRead⟩ := nested_eq_some.mp read.quantization
  obtain ⟨_, -, artifactRead⟩ := nested_eq_some.mp read.artifact
  obtain ⟨_, -, runtimeRead⟩ := nested_eq_some.mp read.runtimeCompatibility
  obtain ⟨_, -, artifact⟩ := readArtifact_object artifactRead
  apply ContentsFit.mk
  · exact recordFits_of_read reads (wellFormed_models manifestFields (by simp)) read.fields
  · exact fits_of_readModel reads (wellFormed_models Provenance.modelIdentity (by simp)) modelRead
  · exact fits_of_readModel reads (wellFormed_models Provenance.sourceCheckpoint (by simp)) sourceRead
  · exact fits_of_readModel reads (wellFormed_models Provenance.conversion (by simp)) (readConversion_eq_some.mp conversionRead).1
  · exact fits_of_readModel reads (wellFormed_models Provenance.quantization (by simp))
      (readQuantization_eq_some.mp quantizationRead).1
  · exact artifact.fits reads
  · exact fits_of_readModel reads (wellFormed_models Provenance.runtimeCompatibility (by simp)) runtimeRead
  · intro record member
    rcases readResources_eq_some.mp read.resourceObservations with ⟨none, -⟩ | ⟨_, doc, some, -, model⟩
    · rw [none] at member
      cases member
    · rw [some] at member
      cases member
      exact fits_of_readModel reads (wellFormed_models Provenance.resourceObservations (by simp)) model

end Contents

end OpenAssetWatch.Provenance
