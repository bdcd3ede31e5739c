import OpenAssetWatch.Provenance.ManifestLaw

namespace OpenAssetWatch.Provenance

open Library Library.JsonText Text

/-- What the hex digest gives. -/
def HexDigest (sha256 : ByteArray → List Char) : Prop := ∀ data, matchesSha256 (sha256 data) = true

section RoundTrip

variable {externals : Externals} {sha256 : ByteArray → List Char} {entries : List (List Char × JsonDoc)}

/-- No value of the contents looks like a path of this machine. -/
structure ManifestContents.PathFree (contents : ManifestContents) : Prop where
  fields : pathFree contents.fields
  modelIdentity : pathFree contents.modelIdentity
  sourceCheckpoint : pathFree contents.sourceCheckpoint
  conversion : pathFree contents.conversion
  quantization : pathFree contents.quantization
  artifact : contents.artifact.pathFree
  runtimeCompatibility : pathFree contents.runtimeCompatibility
  resourceObservations : ∀ record ∈ contents.resourceObservations, pathFree record

theorem sha256_chars {value : List Char} (shaped : matchesSha256 value = true) :
    ∀ c ∈ value, isWhite c = false ∧ isControl c = false ∧ c ≠ '/' ∧ c ≠ '\\' := by
  rw [matchesSha256, Bool.and_eq_true, List.all_eq_true] at shaped
  intro c member
  have hex := shaped.2 c member
  apply isIdentifierChar_facts
  apply Or.inr
  simp only [Bool.or_eq_true, Bool.and_eq_true, decide_eq_true_eq, isDigit] at hex
  simp only [Char.isAlphanum, Char.isAlpha, Char.isUpper, Char.isLower, Char.isDigit, Bool.or_eq_true, Bool.and_eq_true,
    decide_eq_true_eq]
  rcases hex with ⟨low, high⟩ | ⟨low, high⟩
  · exact .inr ⟨low, high⟩
  · exact .inl (.inr ⟨low, high.trans (by decide)⟩)

theorem sha256_clean {value : List Char} (shaped : matchesSha256 value = true) :
    trim value = value ∧ looksLikeAbsoluteLocalPath value = false ∧ value.any isControl = false := by
  have chars := sha256_chars shaped
  refine ⟨stripChars_none fun c member => (chars c member).1, ?_, ?_⟩
  · exact not_path_of_no_slash (fun member => (chars _ member).2.2.1 rfl) fun member => (chars _ member).2.2.2 rfl
  · exact List.any_eq_false.mpr fun c member => by rw [(chars c member).2.1]; exact Bool.false_ne_true

theorem take_digest {others : List (List Char × JsonDoc)} {value : List Char} (shaped : matchesSha256 value = true)
    (found : others.lookup "manifest_digest".toList = some (.string value)) :
    (manifestDigestField.field externals).take others = some (.text value) := by
  obtain ⟨trimmed, path, control⟩ := sha256_clean shaped
  have named : (manifestDigestField.field externals).name = "manifest_digest".toList := rfl
  have allowed : permitted (.string value) = true := by
    rw [permitted, path, control]
    rfl
  have accepted : TextShape.accepts externals { pattern := .sha256 } value = true := by
    simp [TextShape.accepts, TextPattern.holds, TextRule.holds, shaped]
  rw [RecordField.take, named, found]
  show (if permitted (.string value) = true then Kind.read externals (.text { pattern := .sha256 }) (.string value) else none) = _
  rw [if_pos allowed]
  show (if TextShape.accepts externals { pattern := .sha256 } (trim value) = true then some
      (Scalar.text (trim value)) else none) = _
  rw [trimmed, if_pos accepted]

/-- The entries of a dump behind the plain fields. -/
def ManifestContents.models (externals : Externals) (manifest : ModelArtifactManifest) : List (List Char × JsonDoc) :=
  [("model_identity".toList, dumpModel externals manifest.contents.modelIdentity),
    ("source_checkpoint".toList, dumpModel externals manifest.contents.sourceCheckpoint),
    ("conversion".toList, dumpModel externals manifest.contents.conversion),
    ("quantization".toList, dumpModel externals manifest.contents.quantization),
    ("artifact".toList, manifest.contents.artifact.dump externals),
    ("runtime_compatibility".toList, dumpModel externals manifest.contents.runtimeCompatibility),
    ("resource_observations".toList, manifest.contents.resourceObservations.elim .null (dumpModel externals)),
    ("manifest_digest".toList, .string manifest.manifestDigest)]

theorem read_dump_iff (reads : externals.ReadsBack) (hex : HexDigest sha256) {manifest : ModelArtifactManifest}
    (read : ManifestRead externals sha256 entries manifest) :
    ModelArtifactManifest.read externals sha256 (manifest.dump externals) = some manifest ↔ manifest.contents.PathFree := by
  have fits := read.contents.fits reads
  have same : manifest.dump externals =
      .object (dumpRecord externals manifest.contents.fields ++ ManifestContents.models externals manifest) := by
    rw [ModelArtifactManifest.dump, ManifestContents.dumpEntries, List.append_assoc]
    rfl
  generalize dumped : dumpRecord externals manifest.contents.fields ++ ManifestContents.models externals manifest = dump at same
  have fields := readSpecs_dump reads (wellFormed_models manifestFields (by simp)) fits.fields
    (ManifestContents.models externals manifest)
  rw [dumped] at fields
  have keys : onlyKeys manifestKeys dump = true := by
    have own : onlyKeys manifestKeys (dumpRecord externals _) = true := onlyKeys_of_fits fits.fields fun spec member =>
      List.mem_append_left _ (List.mem_map_of_mem member)
    rw [← dumped, onlyKeys, List.all_append, Bool.and_eq_true]
    apply And.intro own
    show ([_, _, _, _, _, _, _, _].all fun entry : List Char × JsonDoc =>
        (manifestKeys.map String.toList).contains entry.1) = true
    simp only [List.all_cons, List.all_nil, Bool.and_true]
    decide
  have found : ∀ key : List Char, key ∉ manifestFields.map (fun spec => spec.name.toList) →
      dump.lookup key = (ManifestContents.models externals manifest).lookup key := by
    intro key outside
    rw [← dumped, lookup_dump_none fits.fields outside]
  have modelIdentity : dump.lookup "model_identity".toList = some (dumpModel externals manifest.contents.modelIdentity) :=
    found _ (by decide)
  have sourceCheckpoint : dump.lookup "source_checkpoint".toList = some
      (dumpModel externals manifest.contents.sourceCheckpoint) :=
    found _ (by decide)
  have conversion : dump.lookup "conversion".toList = some (dumpModel externals manifest.contents.conversion) :=
    found _ (by decide)
  have quantization : dump.lookup "quantization".toList = some (dumpModel externals manifest.contents.quantization) :=
    found _ (by decide)
  have artifact : dump.lookup "artifact".toList = some (manifest.contents.artifact.dump externals) := found _ (by decide)
  have runtime : dump.lookup "runtime_compatibility".toList = some (dumpModel externals manifest.contents.runtimeCompatibility) :=
    found _ (by decide)
  have resources : dump.lookup "resource_observations".toList =
      some (manifest.contents.resourceObservations.elim .null (dumpModel externals)) := found _ (by decide)
  have digest : dump.lookup "manifest_digest".toList = some (.string manifest.manifestDigest) := found _ (by decide)
  obtain ⟨_, -, artifactRead⟩ := nested_eq_some.mp read.contents.artifact
  obtain ⟨_, -, artifactFacts⟩ := readArtifact_object artifactRead
  have artifactBack := readArtifact_dump reads artifactFacts
  rw [same, read_eq_some]
  constructor
  · intro again
    obtain ⟨_, at1, model⟩ := nested_eq_some.mp again.contents.modelIdentity
    obtain ⟨_, at2, source⟩ := nested_eq_some.mp again.contents.sourceCheckpoint
    obtain ⟨_, at3, converted⟩ := nested_eq_some.mp again.contents.conversion
    obtain ⟨_, at4, quantized⟩ := nested_eq_some.mp again.contents.quantization
    obtain ⟨_, at5, identity⟩ := nested_eq_some.mp again.contents.artifact
    obtain ⟨_, at6, compatible⟩ := nested_eq_some.mp again.contents.runtimeCompatibility
    obtain rfl := Option.some_inj.mp (modelIdentity.symm.trans at1)
    obtain rfl := Option.some_inj.mp (sourceCheckpoint.symm.trans at2)
    obtain rfl := Option.some_inj.mp (conversion.symm.trans at3)
    obtain rfl := Option.some_inj.mp (quantization.symm.trans at4)
    obtain rfl := Option.some_inj.mp (artifact.symm.trans at5)
    obtain rfl := Option.some_inj.mp (runtime.symm.trans at6)
    apply ManifestContents.PathFree.mk
    · exact fields.mp again.contents.fields
    · exact pathFree_of_readModel (wellFormed_models _ (by simp)) fits.modelIdentity model
    · exact pathFree_of_readModel (wellFormed_models _ (by simp)) fits.sourceCheckpoint source
    · exact pathFree_of_readModel (wellFormed_models _ (by simp)) fits.conversion (readConversion_eq_some.mp converted).1
    · exact pathFree_of_readModel (wellFormed_models _ (by simp)) fits.quantization (readQuantization_eq_some.mp quantized).1
    · exact artifactBack.mp identity
    · exact pathFree_of_readModel (wellFormed_models _ (by simp)) fits.runtimeCompatibility compatible
    · intro record member
      have member : manifest.contents.resourceObservations = some record := member
      rcases readResources_eq_some.mp again.contents.resourceObservations with ⟨none, -⟩ | ⟨other, doc, some, at7, model⟩
      · rw [none] at member
        cases member
      · rw [resources, member] at at7
        obtain rfl := Option.some_inj.mp at7
        exact pathFree_of_readModel (wellFormed_models _ (by simp)) (fits.resourceObservations record member) model
  · intro free
    have converted := nested_eq_some.mp read.contents.conversion
    have quantized := nested_eq_some.mp read.contents.quantization
    obtain ⟨_, -, converted⟩ := converted
    obtain ⟨_, -, quantized⟩ := quantized
    apply ManifestRead.mk
    · apply ContentsRead.mk keys (fields.mpr free.fields)
      · exact nested_eq_some.mpr ⟨_, modelIdentity,
          (readModel_dump reads (wellFormed_models _ (by simp)) fits.modelIdentity).mpr free.modelIdentity⟩
      · exact nested_eq_some.mpr ⟨_, sourceCheckpoint,
          (readModel_dump reads (wellFormed_models _ (by simp)) fits.sourceCheckpoint).mpr free.sourceCheckpoint⟩
      · exact nested_eq_some.mpr ⟨_, conversion, readConversion_eq_some.mpr
          ⟨(readModel_dump reads (wellFormed_models _ (by simp)) fits.conversion).mpr free.conversion,
            (readConversion_eq_some.mp converted).2⟩⟩
      · exact nested_eq_some.mpr ⟨_, quantization, readQuantization_eq_some.mpr
          ⟨(readModel_dump reads (wellFormed_models _ (by simp)) fits.quantization).mpr free.quantization,
            (readQuantization_eq_some.mp quantized).2⟩⟩
      · exact nested_eq_some.mpr ⟨_, artifact, artifactBack.mpr free.artifact⟩
      · exact nested_eq_some.mpr ⟨_, runtime,
          (readModel_dump reads (wellFormed_models _ (by simp)) fits.runtimeCompatibility).mpr free.runtimeCompatibility⟩
      · apply readResources_eq_some.mpr
        cases held : manifest.contents.resourceObservations with
        | none =>
          rw [held] at resources
          exact .inl ⟨rfl, fun doc found => by rw [resources] at found; cases found; rfl⟩
        | some record =>
          rw [held] at resources
          exact .inr ⟨record, _, rfl, resources, (readModel_dump reads (wellFormed_models _ (by simp))
            (fits.resourceObservations record held)).mpr (free.resourceObservations record held)⟩
    · exact read.lineage
    · exact read.digest
    · have shaped : matchesSha256 manifest.manifestDigest = true := by
        rw [read.digest]
        exact hex _
      exact ⟨_, take_digest shaped digest, .inr rfl⟩

end RoundTrip

section Hidden

def fieldsOf : JsonDoc → List (List Char × JsonDoc)
  | .object entries => entries
  | _ => []

def memberOf (name : String) (entries : List (List Char × JsonDoc)) : JsonDoc := (entries.lookup name.toList).getD .null

/-- The models of a manifest under their names. -/
def manifestModels : List (String × List FieldSpec) :=
  [("model_identity", modelIdentity), ("source_checkpoint", sourceCheckpoint), ("conversion", conversion),
    ("quantization", quantization), ("artifact", artifactIdentity), ("runtime_compatibility", runtimeCompatibility),
    ("resource_observations", resourceObservations)]

/-- No text of the payload, its models and its splits looks like a path of this machine once its blanks are stripped. -/
structure NoHiddenPath (payload : JsonDoc) : Prop where
  fields : noHiddenPath manifestFields (fieldsOf payload)
  models : ∀ model ∈ manifestModels, noHiddenPath model.2 (fieldsOf (memberOf model.1 (fieldsOf payload)))
  splits : ∀ split ∈ (itemsOf (memberOf "splits" (fieldsOf (memberOf "artifact" (fieldsOf payload))))).getD [],
    noHiddenPath artifactSplit (fieldsOf split)

variable {externals : Externals} {sha256 : ByteArray → List Char} {entries : List (List Char × JsonDoc)}

theorem hidden_of_readModel (reads : externals.ReadsBack) {specs : List FieldSpec} (formed : wellFormed specs = true)
    {doc : JsonDoc}
    {record : Record Scalar} (read : readModel externals specs doc = some record) :
    pathFree record ↔ noHiddenPath specs (fieldsOf doc) := by
  obtain ⟨inner, rfl, -, given⟩ := readModel_eq_some.mp read
  exact pathFree_iff reads formed given

theorem memberOf_eq {name : String} {doc : JsonDoc} (found : entries.lookup name.toList = some doc) :
    memberOf name entries = doc := by
  rw [memberOf, found]
  rfl

theorem hidden_of_artifact (reads : externals.ReadsBack) {artifact : ModelArtifactIdentity}
    (read : ArtifactRead externals sha256 entries artifact) :
    artifact.pathFree ↔ noHiddenPath artifactIdentity entries ∧
      ∀ split ∈ (itemsOf (memberOf "splits" entries)).getD [], noHiddenPath artifactSplit (fieldsOf split) := by
  have formed := wellFormed_models artifactSplit (by simp)
  have fields := pathFree_iff reads (wellFormed_models artifactIdentity (by simp)) read.fields
  obtain ⟨splits, given, same⟩ := read.splits
  have each : (∀ split ∈ artifact.splits, pathFree split) ↔
      ∀ split ∈ (itemsOf (memberOf "splits" entries)).getD [], noHiddenPath artifactSplit (fieldsOf split) := by
    have sorted : (∀ split ∈ artifact.splits, pathFree split) ↔ ∀ split ∈ splits, pathFree split := by
      rw [same]
      exact forall_congr' fun split => imp_congr_left (sortByOrdinal_perm splits).mem_iff
    rw [sorted]
    rcases readSplits_eq_some.mp given with ⟨absent, rfl⟩ | ⟨items, found, -, all⟩
    · have none : memberOf "splits" entries = .null := by
        rw [memberOf, absent]
        rfl
      rw [none]
      exact iff_of_true (by simp) (by simp [itemsOf])
    · rw [memberOf_eq found]
      show _ ↔ ∀ split ∈ items, noHiddenPath artifactSplit (fieldsOf split)
      have pairs := mapM_eq_some.mp all
      constructor
      · intro free item member
        obtain ⟨split, inside⟩ := exists_zip_of_mem_left pairs.length_eq member
        exact (hidden_of_readModel reads formed ((List.forall₂_iff_zip.mp pairs).2 inside)).mp
          (free split (List.of_mem_zip inside).2)
      · intro hidden split member
        obtain ⟨item, inside⟩ := exists_zip_of_mem_right pairs.length_eq member
        exact (hidden_of_readModel reads formed ((List.forall₂_iff_zip.mp pairs).2 inside)).mpr
          (hidden item (List.of_mem_zip inside).1)
  rw [ModelArtifactIdentity.pathFree, fields, each]

theorem pathFree_iff_hidden (reads : externals.ReadsBack) {manifest : ModelArtifactManifest}
    (read : ManifestRead externals sha256 entries manifest) : manifest.contents.PathFree ↔ NoHiddenPath (.object entries) := by
  obtain ⟨doc1, at1, model⟩ := nested_eq_some.mp read.contents.modelIdentity
  obtain ⟨doc2, at2, source⟩ := nested_eq_some.mp read.contents.sourceCheckpoint
  obtain ⟨doc3, at3, converted⟩ := nested_eq_some.mp read.contents.conversion
  obtain ⟨doc4, at4, quantized⟩ := nested_eq_some.mp read.contents.quantization
  obtain ⟨doc5, at5, identity⟩ := nested_eq_some.mp read.contents.artifact
  obtain ⟨doc6, at6, compatible⟩ := nested_eq_some.mp read.contents.runtimeCompatibility
  obtain ⟨inner, rfl, artifact⟩ := readArtifact_object identity
  have fields := pathFree_iff reads (wellFormed_models manifestFields (by simp)) read.contents.fields
  have first := hidden_of_readModel reads (wellFormed_models modelIdentity (by simp)) model
  have second := hidden_of_readModel reads (wellFormed_models sourceCheckpoint (by simp)) source
  have third := hidden_of_readModel reads (wellFormed_models conversion (by simp)) (readConversion_eq_some.mp converted).1
  have fourth := hidden_of_readModel reads (wellFormed_models quantization (by simp)) (readQuantization_eq_some.mp quantized).1
  have fifth := hidden_of_artifact reads artifact
  have sixth := hidden_of_readModel reads (wellFormed_models runtimeCompatibility (by simp)) compatible
  have last : (∀ record ∈ manifest.contents.resourceObservations, pathFree record) ↔
      noHiddenPath resourceObservations (fieldsOf (memberOf "resource_observations" entries)) := by
    rcases readResources_eq_some.mp read.contents.resourceObservations with ⟨none, absent⟩ | ⟨record, doc, some, at7, observed⟩
    · rw [none]
      apply iff_of_true (by simp)
      have empty : fieldsOf (memberOf "resource_observations" entries) = [] := by
        rw [memberOf]
        cases found : entries.lookup "resource_observations".toList with
        | none => rfl
        | some doc =>
          have null := absent doc found
          cases doc with
          | null => rfl
          | _ => cases null
      rw [empty]
      exact fun spec member text raw impossible => by cases impossible
    · rw [some, memberOf_eq at7]
      exact ⟨fun free => (hidden_of_readModel reads (wellFormed_models _ (by simp)) observed).mp (free record rfl),
        fun hidden other same => by
        cases same
        exact (hidden_of_readModel reads (wellFormed_models _ (by simp)) observed).mpr hidden⟩
  constructor
  · intro free
    apply NoHiddenPath.mk
    · exact fields.mp free.fields
    · simp only [manifestModels, List.forall_mem_cons, List.not_mem_nil, false_imp_iff, implies_true, and_true, fieldsOf]
      rw [memberOf_eq at1, memberOf_eq at2, memberOf_eq at3, memberOf_eq at4, memberOf_eq at5, memberOf_eq at6]
      exact ⟨first.mp free.modelIdentity, second.mp free.sourceCheckpoint, third.mp free.conversion, fourth.mp free.quantization,
        (fifth.mp free.artifact).1, sixth.mp free.runtimeCompatibility, last.mp free.resourceObservations⟩
    · simp only [fieldsOf]
      rw [memberOf_eq at5]
      exact (fifth.mp free.artifact).2
  · rintro ⟨own, models, splits⟩
    simp only [manifestModels, List.forall_mem_cons, List.not_mem_nil, false_imp_iff, implies_true, and_true, fieldsOf] at models
    rw [memberOf_eq at1, memberOf_eq at2, memberOf_eq at3, memberOf_eq at4, memberOf_eq at5, memberOf_eq at6] at models
    simp only [fieldsOf] at splits
    rw [memberOf_eq at5] at splits
    obtain ⟨h1, h2, h3, h4, h5, h6, h7⟩ := models
    exact ⟨fields.mpr own, first.mpr h1, second.mpr h2, third.mpr h3, fourth.mpr h4, fifth.mpr ⟨h5, splits⟩,
      sixth.mpr h6, last.mpr h7⟩

end Hidden

section Strings

variable {externals : Externals} {sha256 : ByteArray → List Char} {entries : List (List Char × JsonDoc)}

/-- The models of a manifest, with the fields of each. -/
def recordsOf (contents : ManifestContents) : List (List FieldSpec × Record Scalar) :=
  [(manifestFields, contents.fields), (modelIdentity, contents.modelIdentity), (sourceCheckpoint, contents.sourceCheckpoint),
      (conversion, contents.conversion), (quantization, contents.quantization), (artifactIdentity, contents.artifact.fields),
      (runtimeCompatibility, contents.runtimeCompatibility)] ++
    contents.artifact.splits.map (fun split => (artifactSplit, split)) ++
    contents.resourceObservations.toList.map fun record => (resourceObservations, record)

/-- Every string that is stored in a manifest. -/
def ModelArtifactManifest.strings (manifest : ModelArtifactManifest) : List (List Char) :=
  manifest.manifestDigest :: (recordsOf manifest.contents).flatMap fun model => model.2.flatMap fun entry => entry.2.strings

theorem forall_records {contents : ManifestContents} {holds : List FieldSpec × Record Scalar → Prop} :
    (∀ model ∈ recordsOf contents, holds model) ↔ holds (manifestFields, contents.fields) ∧
      holds (modelIdentity, contents.modelIdentity) ∧ holds (sourceCheckpoint, contents.sourceCheckpoint) ∧
      holds (conversion, contents.conversion) ∧ holds (quantization, contents.quantization) ∧
      holds (artifactIdentity, contents.artifact.fields) ∧ holds (runtimeCompatibility, contents.runtimeCompatibility) ∧
      (∀ split ∈ contents.artifact.splits, holds (artifactSplit, split)) ∧
      ∀ record ∈ contents.resourceObservations, holds (resourceObservations, record) := by
  simp only [recordsOf, List.forall_mem_append, List.forall_mem_cons, List.not_mem_nil, false_imp_iff, implies_true,
    and_true, List.forall_mem_map, Option.mem_toList, Option.mem_def, and_assoc]

theorem records_fit (reads : externals.ReadsBack) {contents : ManifestContents}
    (read : ContentsRead externals sha256 entries contents) :
    ∀ model ∈ recordsOf contents, wellFormed model.1 = true ∧ RecordFits externals model.1 model.2 := by
  have fits := read.fits reads
  rw [forall_records]
  exact ⟨⟨wellFormed_models _ (by simp), fits.fields⟩, ⟨wellFormed_models _ (by simp), fits.modelIdentity⟩,
    ⟨wellFormed_models _ (by simp), fits.sourceCheckpoint⟩, ⟨wellFormed_models _ (by simp), fits.conversion⟩,
    ⟨wellFormed_models _ (by simp), fits.quantization⟩, ⟨wellFormed_models _ (by simp), fits.artifact.fields⟩,
    ⟨wellFormed_models _ (by simp), fits.runtimeCompatibility⟩,
    fun split member => ⟨wellFormed_models _ (by simp), fits.artifact.splits split member⟩,
    fun record member => ⟨wellFormed_models _ (by simp), fits.resourceObservations record member⟩⟩

theorem pathFree_iff_records {contents : ManifestContents} :
    contents.PathFree ↔ ∀ model ∈ recordsOf contents, pathFree model.2 := by
  rw [forall_records]
  constructor
  · intro free
    exact ⟨free.fields, free.modelIdentity, free.sourceCheckpoint, free.conversion, free.quantization, free.artifact.1,
      free.runtimeCompatibility, free.artifact.2, free.resourceObservations⟩
  · rintro ⟨fields, model, source, converted, quantized, artifact, runtime, splits, resources⟩
    exact ⟨fields, model, source, converted, quantized, ⟨artifact, splits⟩, runtime, resources⟩

theorem strings_clean_iff (reads : externals.ReadsBack) (hex : HexDigest sha256) {manifest : ModelArtifactManifest}
    (read : ManifestRead externals sha256 entries manifest) :
    (∀ value ∈ manifest.strings, looksLikeAbsoluteLocalPath value = false ∧ value.any isControl = false) ↔
      manifest.contents.PathFree := by
  have digest : matchesSha256 manifest.manifestDigest = true := by
    rw [read.digest]
    exact hex _
  have fit := records_fit reads read.contents
  rw [pathFree_iff_records, ModelArtifactManifest.strings, List.forall_mem_cons, and_iff_right (sha256_clean digest).2]
  constructor
  · intro clean model member
    apply (strings_clean (fit model member).1 (fit model member).2).mp
    intro entry listed value inside
    exact clean value (List.mem_flatMap.mpr ⟨model, member, List.mem_flatMap.mpr ⟨entry, listed, inside⟩⟩)
  · intro free value inside
    obtain ⟨model, member, inside⟩ := List.mem_flatMap.mp inside
    obtain ⟨entry, listed, inside⟩ := List.mem_flatMap.mp inside
    exact (strings_clean (fit model member).1 (fit model member).2).mpr (free model member) entry listed value inside

end Strings

section Digests

variable {externals : Externals} {sha256 : ByteArray → List Char} {entries : List (List Char × JsonDoc)}

theorem settle_dumpRecord (record : Record Scalar) :
    (dumpRecord externals record).map (fun entry => (entry.1, settle id entry.2)) = dumpRecord externals record := by
  rw [dumpRecord, writeRecord, List.map_map]
  exact List.map_congr_left fun entry _ => congrArg (Prod.mk entry.1) (settle_dump entry.2)

theorem keys_dumpRecord {specs : List FieldSpec} {record : Record Scalar} (fits : RecordFits externals specs record) :
    (dumpRecord externals record).map (·.1) = specs.map fun spec => spec.name.toList := by
  rw [dumpRecord, writeRecord, List.map_map]
  exact names_of_fits fits

theorem settle_dumpModel_injective (reads : externals.ReadsBack) {specs : List FieldSpec} (formed : wellFormed specs = true)
    {first second : Record Scalar} (firstFits : RecordFits externals specs first) (secondFits : RecordFits externals specs second)
    (same : settle id (dumpModel externals first) = settle id (dumpModel externals second)) : first = second := by
  rw [dumpModel, dumpModel, settle_object, settle_object, settle_dumpRecord, settle_dumpRecord] at same
  have keys : (dumpRecord externals first).map (·.1) = (dumpRecord externals second).map (·.1) := by
    rw [keys_dumpRecord firstFits, keys_dumpRecord secondFits]
  have distinct : ((dumpRecord externals first).map (·.1)).Nodup := by
    rw [keys_dumpRecord firstFits]
    exact (wellFormed_facts formed).1
  exact dumpRecord_injective reads firstFits secondFits (dictOf_inj keys distinct (JsonDoc.object.inj same))

theorem map_injective_on {α β : Type} {f : α → β} {holds : α → Prop} (injective : ∀ a b, holds a → holds b → f a = f b → a = b)
    {first second : List α} (firstHolds : ∀ a ∈ first, holds a) (secondHolds : ∀ a ∈ second, holds a)
    (same : first.map f = second.map f) : first = second := by
  induction first generalizing second with
  | nil => exact (List.map_eq_nil_iff.mp same.symm).symm
  | cons a first hypothesis =>
    cases second with
    | nil => cases same
    | cons b second =>
      rw [List.forall_mem_cons] at firstHolds secondHolds
      rw [List.map_cons, List.map_cons, List.cons.injEq] at same
      rw [injective a b firstHolds.1 secondHolds.1 same.1, hypothesis firstHolds.2 secondHolds.2 same.2]

theorem settle_artifact_injective (reads : externals.ReadsBack) {first second : ModelArtifactIdentity}
    (firstFits : ArtifactFits externals first) (secondFits : ArtifactFits externals second)
    (same : settle id (first.dump externals) = settle id (second.dump externals)) : first = second := by
  rw [ModelArtifactIdentity.dump, ModelArtifactIdentity.dump, settle_object, settle_object, List.map_append, List.map_append,
    settle_dumpRecord, settle_dumpRecord] at same
  have entries := dictOf_inj (by
      rw [List.map_append, List.map_append, keys_dumpRecord firstFits.fields, keys_dumpRecord secondFits.fields]
      rfl) (by
      rw [List.map_append, keys_dumpRecord firstFits.fields]
      show (artifactIdentity.map (fun spec => spec.name.toList) ++ ["splits".toList]).Nodup
      decide) (JsonDoc.object.inj same)
  obtain ⟨fields, rest⟩ := List.append_inj' entries rfl
  have own := dumpRecord_injective reads firstFits.fields secondFits.fields fields
  have arrays : settle id (.array (first.splits.map (dumpModel externals))) =
      settle id (.array (second.splits.map (dumpModel externals))) := (Prod.mk.inj (List.cons.inj rest).1).2
  rw [settle_array, settle_array, List.map_map, List.map_map] at arrays
  have splits := map_injective_on (fun a b => settle_dumpModel_injective reads (wellFormed_models artifactSplit (by simp)))
    firstFits.splits secondFits.splits (JsonDoc.array.inj arrays)
  obtain ⟨firstFields, firstSplits⟩ := first
  exact congr (congrArg ModelArtifactIdentity.mk own) splits

/-- The names of the entries of a manifest's contents. -/
def contentKeys : List (List Char) := manifestFields.map (fun spec => spec.name.toList) ++
  ["model_identity".toList, "source_checkpoint".toList, "conversion".toList, "quantization".toList, "artifact".toList,
    "runtime_compatibility".toList, "resource_observations".toList]

theorem keys_dumpEntries {contents : ManifestContents} (fits : ContentsFit externals contents) :
    ((contents.dumpEntries externals).map fun entry => (entry.1, settle id entry.2)).map (·.1) = contentKeys := by
  rw [List.map_map]
  show (contents.dumpEntries externals).map (·.1) = contentKeys
  rw [ManifestContents.dumpEntries, List.map_append, keys_dumpRecord fits.fields]
  rfl

theorem settle_resources_injective (reads : externals.ReadsBack) {first second : Option (Record Scalar)}
    (firstFits : ∀ record ∈ first, RecordFits externals resourceObservations record)
    (secondFits : ∀ record ∈ second, RecordFits externals resourceObservations record)
    (same : settle id (first.elim .null (dumpModel externals)) = settle id (second.elim .null (dumpModel externals))) :
    first = second := by
  cases first with
  | none =>
    cases second with
    | none => rfl
    | some record => cases same
  | some record =>
    cases second with
    | none => cases same
    | some other =>
      exact congrArg some (settle_dumpModel_injective reads (wellFormed_models _ (by simp)) (firstFits record rfl)
        (secondFits other rfl) same)

theorem settle_contents_injective (reads : externals.ReadsBack) {first second : ManifestContents}
    (firstFits : ContentsFit externals first) (secondFits : ContentsFit externals second)
    (same : settle id (.object (first.dumpEntries externals)) = settle id (.object (second.dumpEntries externals))) :
    first = second := by
  rw [settle_object, settle_object] at same
  have entries := dictOf_inj ((keys_dumpEntries firstFits).trans (keys_dumpEntries secondFits).symm) (by
    rw [keys_dumpEntries firstFits]
    decide) (JsonDoc.object.inj same)
  rw [ManifestContents.dumpEntries, ManifestContents.dumpEntries, List.map_append, List.map_append, settle_dumpRecord,
    settle_dumpRecord] at entries
  obtain ⟨own, rest⟩ := List.append_inj' entries rfl
  have fields := dumpRecord_injective reads firstFits.fields secondFits.fields own
  simp only [List.map_cons, List.map_nil, List.cons.injEq, Prod.mk.injEq, true_and, and_true] at rest
  obtain ⟨h1, h2, h3, h4, h5, h6, h7⟩ := rest
  have model :=
    settle_dumpModel_injective reads (wellFormed_models _ (by simp)) firstFits.modelIdentity secondFits.modelIdentity h1
  have source := settle_dumpModel_injective reads (wellFormed_models _ (by simp)) firstFits.sourceCheckpoint
    secondFits.sourceCheckpoint h2
  have converted := settle_dumpModel_injective reads (wellFormed_models _ (by simp)) firstFits.conversion secondFits.conversion h3
  have quantized := settle_dumpModel_injective reads (wellFormed_models _ (by simp)) firstFits.quantization
    secondFits.quantization h4
  have artifact := settle_artifact_injective reads firstFits.artifact secondFits.artifact h5
  have runtime := settle_dumpModel_injective reads (wellFormed_models _ (by simp)) firstFits.runtimeCompatibility
    secondFits.runtimeCompatibility h6
  have resources := settle_resources_injective reads firstFits.resourceObservations secondFits.resourceObservations h7
  cases first
  cases second
  cases fields
  cases model
  cases source
  cases converted
  cases quantized
  cases artifact
  cases runtime
  cases resources
  rfl

theorem numbers_dumpRecord {specs : List FieldSpec} {record : Record Scalar} (fits : RecordFits externals specs record) :
    ∀ entry ∈ dumpRecord externals record, numbersPrinted entry.2 := by
  intro entry member
  obtain ⟨source, listed, rfl⟩ := List.mem_map.mp member
  obtain ⟨spec, -, -, kept⟩ := exists_spec_of_mem fits listed
  exact numbers_dump kept

theorem numbers_dumpModel {specs : List FieldSpec} {record : Record Scalar} (fits : RecordFits externals specs record) :
    numbersPrinted (dumpModel externals record) :=
  numbersPrinted_object.mpr (numbers_dumpRecord fits)

theorem numbers_artifact {artifact : ModelArtifactIdentity} (fits : ArtifactFits externals artifact) :
    numbersPrinted (artifact.dump externals) := by
  apply numbersPrinted_object.mpr
  intro entry member
  rcases List.mem_append.mp member with own | splits
  · exact numbers_dumpRecord fits.fields entry own
  · rw [List.mem_singleton.mp splits]
    apply numbersPrinted_array.mpr
    intro item listed
    obtain ⟨split, known, rfl⟩ := List.mem_map.mp listed
    exact numbers_dumpModel (fits.splits split known)

theorem numbers_contents {contents : ManifestContents} (fits : ContentsFit externals contents) :
    numbersPrinted (.object (contents.dumpEntries externals)) := by
  have resources : numbersPrinted (contents.resourceObservations.elim .null (dumpModel externals)) := by
    cases held : contents.resourceObservations with
    | none => exact ⟨trivial, rfl⟩
    | some record => exact numbers_dumpModel (fits.resourceObservations record held)
  apply numbersPrinted_object.mpr
  rw [ManifestContents.dumpEntries, List.forall_mem_append]
  apply And.intro (numbers_dumpRecord fits.fields)
  simp only [List.forall_mem_cons, List.not_mem_nil, false_imp_iff, implies_true, and_true]
  exact ⟨numbers_dumpModel fits.modelIdentity, numbers_dumpModel fits.sourceCheckpoint, numbers_dumpModel fits.conversion,
    numbers_dumpModel fits.quantization, numbers_artifact fits.artifact, numbers_dumpModel fits.runtimeCompatibility, resources⟩

theorem canonicalManifestBytes_injective (reads : externals.ReadsBack) {first second : ManifestContents}
    (firstFits : ContentsFit externals first) (secondFits : ContentsFit externals second)
    (same : canonicalManifestBytes externals first = canonicalManifestBytes externals second) : first = second := by
  have texts := congrArg String.fromUTF8? same
  rw [canonicalManifestBytes, canonicalManifestBytes, fromUTF8?_encode, fromUTF8?_encode, Option.some_inj,
    String.ofList_inj] at texts
  apply settle_contents_injective reads firstFits secondFits
  exact printRaw_injective (numbersPrinted_settle _ (numbers_contents firstFits))
    (numbersPrinted_settle _ (numbers_contents secondFits))
    texts

end Digests

section Law

/-- Nothing that is stored is a path or has a control character, the dump is accepted as the same manifest, and the digest tells
manifests apart by their contents. -/
structure CanonicallyClosed (externals : Externals) (sha256 : ByteArray → List Char)
    (manifest : ModelArtifactManifest) : Prop where
  strings : ∀ value ∈ manifest.strings, looksLikeAbsoluteLocalPath value = false ∧ value.any isControl = false
  readBack : ModelArtifactManifest.read externals sha256 (manifest.dump externals) = some manifest
  digests : ∀ payload other, ModelArtifactManifest.read externals sha256 payload = some other →
    (sha256 (canonicalManifestBytes externals manifest.contents) = sha256 (canonicalManifestBytes externals other.contents) →
      canonicalManifestBytes externals manifest.contents = canonicalManifestBytes externals other.contents) →
    (manifest.manifestDigest = other.manifestDigest ↔ manifest.contents = other.contents)

variable {externals : Externals} {sha256 : ByteArray → List Char}

theorem read_object {payload : JsonDoc} {manifest : ModelArtifactManifest}
    (read : ModelArtifactManifest.read externals sha256 payload = some manifest) :
    ∃ entries, payload = .object entries ∧ ManifestRead externals sha256 entries manifest := by
  cases payload with
  | object entries => exact ⟨entries, rfl, read_eq_some.mp read⟩
  | _ => cases read

theorem digests_apart (reads : externals.ReadsBack) {payload second : JsonDoc} {manifest other : ModelArtifactManifest}
    (read : ModelArtifactManifest.read externals sha256 payload = some manifest)
    (otherRead : ModelArtifactManifest.read externals sha256 second = some other)
    (noCollision : sha256 (canonicalManifestBytes externals manifest.contents) =
      sha256 (canonicalManifestBytes externals other.contents) →
        canonicalManifestBytes externals manifest.contents = canonicalManifestBytes externals other.contents) :
    manifest.manifestDigest = other.manifestDigest ↔ manifest.contents = other.contents := by
  obtain ⟨entries, rfl, facts⟩ := read_object read
  obtain ⟨others, rfl, otherFacts⟩ := read_object otherRead
  rw [facts.digest, otherFacts.digest]
  constructor
  · intro same
    exact canonicalManifestBytes_injective reads (facts.contents.fits reads) (otherFacts.contents.fits reads) (noCollision same)
  · intro same
    rw [same]

/-- An accepted manifest is closed under its canonical form exactly when no text of the payload hides a path behind blanks. -/
theorem manifest_closed_iff (reads : externals.ReadsBack) (hex : HexDigest sha256) {payload : JsonDoc}
    {manifest : ModelArtifactManifest} (accepted : ModelArtifactManifest.read externals sha256 payload = some manifest) :
    CanonicallyClosed externals sha256 manifest ↔ NoHiddenPath payload := by
  obtain ⟨entries, rfl, facts⟩ := read_object accepted
  rw [← pathFree_iff_hidden reads facts]
  constructor
  · intro closed
    exact (strings_clean_iff reads hex facts).mp closed.strings
  · intro free
    apply CanonicallyClosed.mk
    · exact (strings_clean_iff reads hex facts).mpr free
    · exact (read_dump_iff reads hex facts).mpr free
    · exact fun second other otherRead noCollision => digests_apart reads accepted otherRead noCollision

end Law

section Samples

def sampleMoment : List Char := "2026-07-01T00:00:00Z".toList

/-- Integers, flags and one moment; no other values, and no URLs. -/
def sampleExternals : Externals where
  int
    | .number literal => some (Nat.ofDigitChars 10 literal 0)
    | _ => none
  bool
    | .bool value => some value
    | _ => none
  float _ := none
  datetime
    | .string text => if text = sampleMoment then some 1782864000000000 else none
    | _ => none
  showDatetime _ := sampleMoment
  urlsplit _ := none

theorem sampleExternals_readsBack : sampleExternals.ReadsBack := by
  apply Externals.ReadsBack.mk
  · intro value
    show some ((Nat.ofDigitChars 10 (Nat.toDigits 10 value) 0 : Nat) : Int) = some (value : Int)
    rw [Nat.ofDigitChars_ten_toDigits]
  · exact fun value => rfl
  · exact fun doc literal impossible => by cases impossible
  · intro doc moment given
    have shown : permitted (.string sampleMoment) = true := by decide
    cases doc with
    | string text =>
      have given : (if text = sampleMoment then some (1782864000000000 : Int) else none) = some moment := given
      split at given
      · cases given
        have again : (if sampleMoment = sampleMoment then some (1782864000000000 : Int) else none) = some 1782864000000000 :=
          if_pos rfl
        exact ⟨again, shown⟩
      · cases given
    | _ => cases given

def sampleDigest (_ : ByteArray) : List Char := List.replicate 64 '0'

theorem sampleDigest_hex : HexDigest sampleDigest := by
  intro data
  show matchesSha256 (List.replicate 64 '0') = true
  decide

/-- A manifest with the fields that are required, for a checkpoint of this name. -/
def samplePayload (sourceName : String) : JsonDoc :=
  let string (text : String) : JsonDoc := .string text.toList
  let object (entries : List (String × JsonDoc)) : JsonDoc := .object (entries.map fun entry => (entry.1.toList, entry.2))
  object
    [("manifest_id", string "fixture-manifest"),
      ("model_identity", object
        [("model_name", string "Fixture"), ("model_family", string "fixture"), ("model_architecture", string "dense"),
          ("model_purpose", string "advice"), ("model_capabilities", .array [string "reasoning"]),
          ("upstream_model_name", string "Fixture"), ("license", string "Apache-2.0")]),
      ("source_checkpoint", object [("source_name", string sourceName)]),
      ("conversion", object []),
      ("quantization", object []),
      ("artifact", object
        [("artifact_name", string "fixture.gguf"), ("artifact_format", string "gguf"),
          ("artifact_digest", .string (List.replicate 64 'a')), ("artifact_size_bytes", .number ['1']),
          ("created_at", .string sampleMoment)]),
      ("runtime_compatibility", object []),
      ("provenance_state", string "partial"),
      ("created_at", .string sampleMoment)]

theorem samplePayload_accepted (sourceName : String) (shown : sourceName = "checkpoint" ∨ sourceName = " /etc/passwd") :
    ∃ manifest, ModelArtifactManifest.read sampleExternals sampleDigest (samplePayload sourceName) = some manifest := by
  apply Option.isSome_iff_exists.mp
  rcases shown with rfl | rfl
  · decide +kernel
  · decide +kernel

theorem noHiddenPath_of_check {specs : List FieldSpec} {entries : List (List Char × JsonDoc)}
    (clean : (specs.all fun spec => match entries.lookup spec.name.toList with
      | some (.string raw) => !looksLikeAbsoluteLocalPath (trim raw)
      | _ => true) = true) : noHiddenPath specs entries := by
  intro spec member _ raw found
  have each := List.all_eq_true.mp clean spec member
  rw [found, Bool.not_eq_true'] at each
  exact each

theorem manifest_closed_checkpoint :
    ∃ manifest, ModelArtifactManifest.read sampleExternals sampleDigest (samplePayload "checkpoint") = some manifest ∧
      CanonicallyClosed sampleExternals sampleDigest manifest := by
  obtain ⟨manifest, accepted⟩ := samplePayload_accepted "checkpoint" (.inl rfl)
  apply Exists.intro manifest
  apply And.intro accepted
  apply (manifest_closed_iff sampleExternals_readsBack sampleDigest_hex accepted).mpr
  apply NoHiddenPath.mk
  · exact noHiddenPath_of_check (by decide +kernel)
  · simp only [manifestModels, List.forall_mem_cons, List.not_mem_nil, false_imp_iff, implies_true, and_true]
    exact ⟨noHiddenPath_of_check (by decide +kernel), noHiddenPath_of_check (by decide +kernel),
      noHiddenPath_of_check (by decide +kernel), noHiddenPath_of_check (by decide +kernel),
      noHiddenPath_of_check (by decide +kernel), noHiddenPath_of_check (by decide +kernel),
      noHiddenPath_of_check (by decide +kernel)⟩
  · exact fun split impossible => by cases impossible

/-- The check for paths is made before the blanks are stripped, so that a path behind a blank is stored. -/
theorem manifest_hidden_path :
    ∃ manifest, ModelArtifactManifest.read sampleExternals sampleDigest (samplePayload " /etc/passwd") = some manifest ∧
      ¬ CanonicallyClosed sampleExternals sampleDigest manifest := by
  obtain ⟨manifest, accepted⟩ := samplePayload_accepted " /etc/passwd" (.inr rfl)
  apply Exists.intro manifest
  apply And.intro accepted
  intro closed
  obtain ⟨entries, same, facts⟩ := read_object accepted
  have free := (strings_clean_iff sampleExternals_readsBack sampleDigest_hex facts).mp closed.strings
  have hidden := (pathFree_iff_hidden sampleExternals_readsBack facts).mp free
  rw [← same] at hidden
  have visible := hidden.models ("source_checkpoint", sourceCheckpoint) (by simp [manifestModels]) (text "source_name" 1 256)
    (by simp [sourceCheckpoint]) rfl " /etc/passwd".toList rfl
  exact absurd visible (by decide)

end Samples

end OpenAssetWatch.Provenance
