import OpenAssetWatch.Clock
import OpenAssetWatch.Library.Guard

namespace OpenAssetWatch.Advisory

open Library

/-- What a call raises: a security error by its code and summary, or a model that does not validate. -/
inductive MirrorFailure where
  | refused (code summary : String)
  | invalid (message : String)
deriving DecidableEq

/-- The metadata in which every catalog of a mirror agrees with its index; the upstream provenance by its source and its rest. -/
structure MirrorMetadata where
  licenseIdentifier : String
  attribution : String
  sourceName : String
  adapterVersion : String
  minimumSupportedCatalogVersion : Nat
deriving DecidableEq

/-- A verified bundle, as the entry of a mirror records it. -/
structure LocalMirrorBundle where
  catalogVersion : String
  catalogSequence : Nat
  createdAt : Time
  expiresAt : Time
  publisherKeyId : String
  manifestDigest : String
  payloadDigest : String
  provenance : String
  metadata : MirrorMetadata
deriving DecidableEq

/-- An index whose catalogs are in the order of their sequences; what it says of the latest is what the latest says. -/
structure AdvisoryMirrorIndex where
  publishedAt : Time
  catalogs : List LocalMirrorBundle
deriving DecidableEq

def AdvisoryMirrorIndex.latest? (index : AdvisoryMirrorIndex) : Option LocalMirrorBundle := index.catalogs.getLast?

/-- The reviewed source: its limits, and its checks of an index (its bytes, its key and its signature; its licence,
provenance, publishers and payloads), of an entry, and of the artifacts of an entry that is read again. -/
structure FeedSource where
  maximumMirrorCatalogs : Nat
  maximumMirrorIndexAgeSeconds : Nat
  authenticate : AdvisoryMirrorIndex → Time → Except MirrorFailure Unit
  approve : AdvisoryMirrorIndex → Except MirrorFailure Unit
  formed : LocalMirrorBundle → Except MirrorFailure Unit
  reread : LocalMirrorBundle → Except MirrorFailure Unit

variable (source : FeedSource)

/-- `validate_catalogs`, as far as an index built from its catalogs can fail it. -/
def validateCatalogs (index : AdvisoryMirrorIndex) : Except MirrorFailure Unit := do
  require (decide ((index.catalogs.map (·.catalogSequence)).Pairwise (· < ·)))
    (.invalid "mirror catalogs must have unique increasing sequences")
  require (decide ((index.catalogs.map (·.catalogVersion)).Nodup)) (.invalid "mirror catalogs must have unique versions")
  match index.latest? with
  | none => .error (.invalid "List should have at least 1 item after validation, not 0")
  | some latest =>
    require (latest.createdAt ≤ index.publishedAt) (.invalid "mirror publication cannot predate the latest catalog")
    require (index.catalogs.all fun entry => entry.metadata = latest.metadata)
      (.invalid "mirror catalog policy metadata must agree with the index")

/-- `verify_mirror_index`; the skew for a date in the future is five minutes. -/
def verifyMirrorIndex (index : AdvisoryMirrorIndex) (now : Time) : Except MirrorFailure Unit := do
  source.authenticate index now
  require (index.publishedAt ≤ now + 300 * 1000000)
    (.refused "mirror-index-future-dated" "mirror index publication time is in the future")
  require (now - index.publishedAt ≤ source.maximumMirrorIndexAgeSeconds * 1000000)
    (.refused "mirror-index-stale" "mirror index is stale and older than the reviewed freshness limit")
  require (index.catalogs.length ≤ source.maximumMirrorCatalogs)
    (.refused "mirror-index-catalog-limit" "mirror index exceeds the reviewed catalog-retention limit")
  require (index.latest?.all fun latest => now < latest.expiresAt)
    (.refused "mirror-latest-expired" "mirror latest catalog has expired")
  source.approve index

/-- `load_existing_mirror` of a mirror that was built. -/
def loadExistingMirror (index : AdvisoryMirrorIndex) (now : Time) : Except MirrorFailure (List LocalMirrorBundle) := do
  verifyMirrorIndex source index now
  index.catalogs.forM source.reread
  .ok index.catalogs

/-- One bundle of the loop that looks for conflicts, behind those that it has seen. -/
def admitBundle (seen : List LocalMirrorBundle) (item : LocalMirrorBundle) : Except MirrorFailure (List LocalMirrorBundle) :=
  match seen.find? (·.catalogSequence = item.catalogSequence) with
  | some previous =>
    if previous.manifestDigest ≠ item.manifestDigest then
      .error (.refused "mirror-sequence-conflict" "catalog sequence maps to conflicting signed manifests")
    else .error (.refused "mirror-bundle-duplicate" "signed bundle appears more than once in mirror input")
  | none =>
    if seen.any fun other => other.catalogVersion = item.catalogVersion && other.catalogSequence ≠ item.catalogSequence then
      .error (.refused "mirror-version-conflict" "catalog version maps to conflicting sequences")
    else .ok (seen ++ [item])

/-- The last `count` of the bundles in the order of their sequences. -/
def newest (count : Nat) (bundles : List LocalMirrorBundle) : List LocalMirrorBundle :=
  let sorted := bundles.insertionSort fun first second => first.catalogSequence ≤ second.catalogSequence
  sorted.drop (sorted.length - count)

def highest (bundles : List LocalMirrorBundle) : Nat := (bundles.map (·.catalogSequence)).max?.getD 0

/-- What `build_advisory_mirror` is called with; each input is what loading its directory gives. -/
structure MirrorBuild where
  inputs : List (Except MirrorFailure LocalMirrorBundle)
  publishedAt : Time
  retainPrior : Int

/-- `build_advisory_mirror`, up to the writing of its files. -/
def buildAdvisoryMirror (call : MirrorBuild) (existing : Option AdvisoryMirrorIndex) :
    Except MirrorFailure AdvisoryMirrorIndex := do
  require (!call.inputs.isEmpty) (.refused "mirror-input-empty" "at least one complete signed bundle is required")
  require (0 ≤ call.retainPrior && call.retainPrior ≤ 31)
    (.refused "mirror-retention-invalid" "mirror retention is outside the reviewed bound")
  require (call.retainPrior + 1 ≤ source.maximumMirrorCatalogs)
    (.refused "mirror-retention-too-large" "mirror retention exceeds the source catalog limit")
  let existingBundles ← existing.elim (.ok []) (loadExistingMirror source · call.publishedAt)
  let inputBundles ← call.inputs.mapM id
  require (existingBundles.isEmpty || highest existingBundles < highest inputBundles)
    (.refused "mirror-catalog-not-advanced" "new bundle does not advance the verified mirror sequence")
  let bundles ← (existingBundles ++ inputBundles).foldlM admitBundle []
  let retained := newest (call.retainPrior + 1).toNat bundles
  require (retained.getLast?.all fun latest => call.publishedAt < latest.expiresAt)
    (.refused "mirror-latest-expired" "latest catalog expires before publication")
  retained.forM source.formed
  let index : AdvisoryMirrorIndex := { publishedAt := call.publishedAt, catalogs := retained }
  validateCatalogs index
  verifyMirrorIndex source index call.publishedAt
  .ok index

/-- The mirrors that were published, each built from the one before it; the writing of the files may fail. -/
def publish (published : List AdvisoryMirrorIndex) (event : MirrorBuild × Bool) : List AdvisoryMirrorIndex :=
  match buildAdvisoryMirror source event.1 published.getLast?, event.2 with
  | .ok index, true => published ++ [index]
  | _, _ => published

section Selection

variable {bundles seen items result : List LocalMirrorBundle} {count : Nat} {bundle : LocalMirrorBundle}

theorem admit_ok (distinct : (seen.map (·.catalogSequence)).Nodup) (admitted : items.foldlM admitBundle seen = .ok result) :
    result = seen ++ items ∧ (result.map (·.catalogSequence)).Nodup := by
  induction items generalizing seen with
  | nil =>
    cases admitted
    exact ⟨(List.append_nil _).symm, distinct⟩
  | cons item rest hypothesis =>
    rw [List.foldlM_cons] at admitted
    obtain ⟨next, first, others⟩ := bind_eq_ok.mp admitted
    unfold admitBundle at first
    split at first
    · split at first <;> cases first
    · rename_i absent
      split at first
      · cases first
      · cases first
        have fresh : item.catalogSequence ∉ seen.map (·.catalogSequence) := by
          intro listed
          obtain ⟨other, member, same⟩ := List.mem_map.mp listed
          exact List.find?_eq_none.mp absent other member (decide_eq_true same)
        have all : ((seen ++ [item]).map (·.catalogSequence)).Nodup := by
          rw [List.map_append, List.nodup_append]
          refine ⟨distinct, List.nodup_singleton _, fun one listed other single same => ?_⟩
          rw [List.map_singleton, List.mem_singleton] at single
          exact fresh (single ▸ same ▸ listed)
        obtain ⟨same, nodup⟩ := hypothesis all others
        exact ⟨by rw [same, List.append_assoc, List.singleton_append], nodup⟩

def sorted (bundles : List LocalMirrorBundle) : List LocalMirrorBundle :=
  bundles.insertionSort fun first second => first.catalogSequence ≤ second.catalogSequence

theorem sorted_perm (bundles : List LocalMirrorBundle) : (sorted bundles).Perm bundles := List.perm_insertionSort _ bundles

theorem newest_eq (count : Nat) (bundles : List LocalMirrorBundle) :
    newest count bundles = (sorted bundles).drop ((sorted bundles).length - count) := rfl

theorem sorted_strict (distinct : (bundles.map (·.catalogSequence)).Nodup) :
    (sorted bundles).Pairwise fun first second => first.catalogSequence < second.catalogSequence := by
  have ordered : (sorted bundles).Pairwise fun first second => first.catalogSequence ≤ second.catalogSequence :=
    @List.pairwise_insertionSort _ (fun first second : LocalMirrorBundle => first.catalogSequence ≤ second.catalogSequence) _
      ⟨fun first second => Nat.le_total first.catalogSequence second.catalogSequence⟩ ⟨fun _ _ _ => Nat.le_trans⟩ bundles
  have nodup : ((sorted bundles).map (·.catalogSequence)).Nodup :=
    ((sorted_perm bundles).map (·.catalogSequence)).nodup_iff.mpr distinct
  have apart : (sorted bundles).Pairwise fun first second => first.catalogSequence ≠ second.catalogSequence :=
    List.pairwise_map.mp nodup
  exact (ordered.and apart).imp fun both => Nat.lt_of_le_of_ne both.1 both.2

theorem length_newest : (newest count bundles).length = min count bundles.length := by
  rw [newest_eq, List.length_drop, (sorted_perm bundles).length_eq]
  omega

theorem newest_or_below (distinct : (bundles.map (·.catalogSequence)).Nodup) (member : bundle ∈ bundles) :
    bundle ∈ newest count bundles ∨
      (∀ other ∈ newest count bundles, bundle.catalogSequence < other.catalogSequence) ∧
        (newest count bundles).length = count := by
  have here : bundle ∈ (sorted bundles).take ((sorted bundles).length - count) ++ newest count bundles := by
    rw [newest_eq, List.take_append_drop]
    exact (sorted_perm bundles).mem_iff.mpr member
  rcases List.mem_append.mp here with front | back
  · right
    have strict := sorted_strict distinct
    rw [← List.take_append_drop ((sorted bundles).length - count) (sorted bundles), List.pairwise_append] at strict
    refine ⟨fun other behind => strict.2.2 bundle front other behind, ?_⟩
    have some := List.length_pos_of_mem front
    rw [List.length_take, (sorted_perm bundles).length_eq] at some
    rw [length_newest]
    omega
  · exact .inl back

theorem below_newest {kept : List LocalMirrorBundle} (distinct : (bundles.map (·.catalogSequence)).Nodup)
    (nodup : (kept.map (·.catalogSequence)).Nodup) (among : ∀ other ∈ kept, other ∈ bundles) (many : count ≤ kept.length)
    (below : ∀ other ∈ kept, bundle.catalogSequence < other.catalogSequence) :
    ∀ other ∈ newest count bundles, bundle.catalogSequence < other.catalogSequence := by
  intro other member
  by_contra above
  have later : ∀ one ∈ kept, one ∈ newest count bundles := by
    intro one listed
    rcases @newest_or_below bundles count one distinct (among one listed) with newest | ⟨older, _⟩
    · exact newest
    · have first := older other member
      have second := below one listed
      omega
  have fresh : other ∉ kept := fun listed => above (below other listed)
  have more : (other :: kept).length ≤ (newest count bundles).length :=
    ((List.Nodup.of_map _ nodup).cons fresh).length_le_of_subset fun one listed => by
      rcases List.mem_cons.mp listed with rfl | tail
      · exact member
      · exact later one tail
  rw [length_newest, List.length_cons] at more
  omega

theorem le_highest (member : bundle ∈ bundles) : bundle.catalogSequence ≤ highest bundles :=
  List.le_max?_getD_of_mem (List.mem_map_of_mem member)

theorem exists_highest (filled : bundles ≠ []) : ∃ bundle ∈ bundles, bundle.catalogSequence = highest bundles := by
  cases top : (bundles.map (·.catalogSequence)).max? with
  | none =>
    rw [List.max?_eq_none_iff, List.map_eq_nil_iff] at top
    exact absurd top filled
  | some sequence =>
    obtain ⟨bundle, member, same⟩ := List.mem_map.mp (List.max?_mem top)
    exact ⟨bundle, member, by rw [highest, top, same, Option.getD_some]⟩

end Selection

section Build

variable {source : FeedSource} {call : MirrorBuild} {existing : Option AdvisoryMirrorIndex} {index : AdvisoryMirrorIndex}

/-- The bundles that a mirror holds. -/
def held (existing : Option AdvisoryMirrorIndex) : List LocalMirrorBundle := existing.elim [] (·.catalogs)

/-- What a build that succeeds with these bundles makes. -/
structure Built (source : FeedSource) (call : MirrorBuild) (existing : Option AdvisoryMirrorIndex) (index : AdvisoryMirrorIndex)
    (given : List LocalMirrorBundle) : Prop where
  retention : 0 ≤ call.retainPrior
  filled : given ≠ []
  advances : held existing = [] ∨ highest (held existing) < highest given
  distinct : ((held existing ++ given).map (·.catalogSequence)).Nodup
  catalogs : index.catalogs = newest (call.retainPrior + 1).toNat (held existing ++ given)
  valid : validateCatalogs index = .ok ()
  verified : verifyMirrorIndex source index index.publishedAt = .ok ()

theorem loadExistingMirror_ok {now : Time} {bundles : List LocalMirrorBundle}
    (loaded : existing.elim (.ok []) (loadExistingMirror source · now) = .ok bundles) : bundles = held existing := by
  cases existing with
  | none =>
    cases loaded
    rfl
  | some index =>
    obtain ⟨_, _, loaded⟩ := bind_eq_ok.mp loaded
    obtain ⟨_, _, loaded⟩ := bind_eq_ok.mp loaded
    cases loaded
    rfl

theorem build_ok (done : buildAdvisoryMirror source call existing = .ok index) : ∃ given,
    Built source call existing index given := by
  obtain ⟨some, done⟩ := require_bind_eq_ok.mp done
  obtain ⟨bound, done⟩ := require_bind_eq_ok.mp done
  obtain ⟨_, done⟩ := require_bind_eq_ok.mp done
  obtain ⟨existingBundles, loaded, done⟩ := bind_eq_ok.mp done
  obtain ⟨given, read, done⟩ := bind_eq_ok.mp done
  obtain ⟨advances, done⟩ := require_bind_eq_ok.mp done
  obtain ⟨bundles, admitted, done⟩ := bind_eq_ok.mp done
  obtain ⟨_, done⟩ := require_bind_eq_ok.mp done
  obtain ⟨_, _, done⟩ := bind_eq_ok.mp done
  obtain ⟨_, valid, done⟩ := bind_eq_ok.mp done
  obtain ⟨_, verified, done⟩ := bind_eq_ok.mp done
  cases done
  obtain rfl := loadExistingMirror_ok loaded
  obtain ⟨rfl, distinct⟩ := @admit_ok [] _ _ List.nodup_nil admitted
  refine ⟨given, ?_, ?_, ?_, distinct, rfl, valid, verified⟩
  · rw [Bool.and_eq_true, decide_eq_true_iff] at bound
    exact bound.1
  · rintro rfl
    cases List.forall₂_nil_right_iff.mp (mapM_eq_ok.mp read) ▸ some
  · rw [Bool.or_eq_true, List.isEmpty_iff, decide_eq_true_iff] at advances
    exact advances

variable {given : List LocalMirrorBundle}

theorem strict_of_valid (valid : validateCatalogs index = .ok ()) :
    index.catalogs.Pairwise fun first second => first.catalogSequence < second.catalogSequence :=
  List.pairwise_map.mp (of_decide_eq_true (require_bind_eq_ok.mp valid).1)

theorem filled_of_valid (valid : validateCatalogs index = .ok ()) : index.catalogs ≠ [] := by
  intro empty
  obtain ⟨_, valid⟩ := require_bind_eq_ok.mp valid
  obtain ⟨_, valid⟩ := require_bind_eq_ok.mp valid
  rw [AdvisoryMirrorIndex.latest?, empty] at valid
  cases valid

theorem le_latest (valid : validateCatalogs index = .ok ()) {latest bundle : LocalMirrorBundle} (last : latest ∈ index.latest?)
    (member : bundle ∈ index.catalogs) : bundle.catalogSequence ≤ latest.catalogSequence := by
  obtain ⟨front, split⟩ := List.getLast?_eq_some_iff.mp last
  have strict := strict_of_valid valid
  rw [split, List.pairwise_append] at strict
  rw [split, List.mem_append, List.mem_singleton] at member
  rcases member with before | rfl
  · exact Nat.le_of_lt (strict.2.2 bundle before latest List.mem_cons_self)
  · exact Nat.le_refl _

variable (built : Built source call existing index given)
include built

theorem Built.top {latest bundle : LocalMirrorBundle} (last : latest ∈ index.latest?) (member : bundle ∈ held existing ++ given) :
    bundle.catalogSequence ≤ latest.catalogSequence := by
  rcases newest_or_below built.distinct member with kept | ⟨older, _⟩
  · exact le_latest built.valid last (built.catalogs ▸ kept)
  · exact Nat.le_of_lt (older latest (built.catalogs ▸ List.mem_of_getLast? last))

theorem Built.advance {latest bundle : LocalMirrorBundle} (last : latest ∈ index.latest?) (member : bundle ∈ held existing) :
    bundle.catalogSequence < latest.catalogSequence := by
  rcases built.advances with empty | further
  · cases empty ▸ member
  · obtain ⟨input, listed, top⟩ := exists_highest built.filled
    have first := le_highest member
    have second := built.top last (List.mem_append_right _ listed)
    omega

end Build

section History

variable {source : FeedSource}

def mirrors (source : FeedSource) (events : List (MirrorBuild × Bool)) : List AdvisoryMirrorIndex :=
  events.foldl (publish source) []

theorem mirrors_concat (events : List (MirrorBuild × Bool)) (event : MirrorBuild × Bool) :
    mirrors source (events ++ [event]) = publish source (mirrors source events) event := by
  rw [mirrors, List.foldl_append]
  rfl

theorem publish_cases (published : List AdvisoryMirrorIndex) (event : MirrorBuild × Bool) :
    publish source published event = published ∨
      ∃ index given, publish source published event = published ++ [index] ∧
        Built source event.1 published.getLast? index given := by
  cases made : buildAdvisoryMirror source event.1 published.getLast? with
  | error failure =>
    left
    rw [publish, made]
  | ok index =>
    obtain ⟨given, built⟩ := build_ok made
    cases written : event.2 with
    | false =>
      left
      rw [publish, made, written]
    | true =>
      right
      refine ⟨index, given, ?_, built⟩
      rw [publish, made, written]

theorem held_concat (front : List AdvisoryMirrorIndex) (last : AdvisoryMirrorIndex) :
    held (front ++ [last]).getLast? = last.catalogs := by
  rw [List.getLast?_concat]
  rfl

theorem Built.newer_than_all {published : List AdvisoryMirrorIndex} {call : MirrorBuild} {index : AdvisoryMirrorIndex}
    {given : List LocalMirrorBundle} (built : Built source call published.getLast? index given)
    (checked : ∀ other ∈ published, validateCatalogs other = .ok () ∧ verifyMirrorIndex source other other.publishedAt = .ok ())
    (ordered : published.Pairwise fun older newer =>
      ∀ latest ∈ newer.latest?, ∀ bundle ∈ older.catalogs, bundle.catalogSequence < latest.catalogSequence)
    {older : AdvisoryMirrorIndex} {latest bundle : LocalMirrorBundle} (last : latest ∈ index.latest?) (before : older ∈ published)
    (member : bundle ∈ older.catalogs) : bundle.catalogSequence < latest.catalogSequence := by
  obtain rfl | ⟨front, final, rfl⟩ := List.eq_nil_or_concat' published
  · cases before
  · have present : ∀ bundle ∈ final.catalogs, bundle.catalogSequence < latest.catalogSequence := fun bundle listed =>
      built.advance last (held_concat front final ▸ listed)
    rcases List.mem_append.mp before with earlier | here
    · have filled := filled_of_valid (checked final (List.mem_append_right _ List.mem_cons_self)).1
      obtain ⟨top, highest⟩ := List.getLast?_isSome.mpr filled |> Option.isSome_iff_exists.mp
      have first := (List.pairwise_append.mp ordered).2.2 older earlier final List.mem_cons_self top highest bundle member
      have second := present top (List.mem_of_getLast? highest)
      omega
    · cases List.mem_singleton.mp here
      exact present bundle member

/-- Every published mirror is in order and passes its own verification at its publication, and its latest catalog is newer than
every catalog of the mirrors before it. -/
theorem mirror_published (events : List (MirrorBuild × Bool)) :
    (∀ index ∈ mirrors source events,
        validateCatalogs index = .ok () ∧ verifyMirrorIndex source index index.publishedAt = .ok ()) ∧
      (mirrors source events).Pairwise fun older newer =>
        ∀ latest ∈ newer.latest?, ∀ bundle ∈ older.catalogs, bundle.catalogSequence < latest.catalogSequence := by
  induction events using List.reverseRecOn with
  | nil => exact ⟨nofun, List.Pairwise.nil⟩
  | append_singleton events event hypothesis =>
    obtain ⟨checked, ordered⟩ := hypothesis
    rw [mirrors_concat]
    rcases @publish_cases source (mirrors source events) event with same | ⟨index, given, more, built⟩
    · rw [same]
      exact ⟨checked, ordered⟩
    · rw [more]
      refine ⟨?_, List.pairwise_append.mpr ⟨ordered, List.pairwise_singleton _ _, ?_⟩⟩
      · intro other member
        rcases List.mem_append.mp member with before | new
        · exact checked other before
        · cases List.mem_singleton.mp new
          exact ⟨built.valid, built.verified⟩
      · intro older before newer new latest last bundle member
        cases List.mem_singleton.mp new
        exact built.newer_than_all checked ordered last before member

/-- The bundle is older than all that the last mirror holds, which are as many as may be retained. -/
def Outdated (retainPrior : Int) (last : AdvisoryMirrorIndex) (bundle : LocalMirrorBundle) : Prop :=
  (∀ other ∈ last.catalogs, bundle.catalogSequence < other.catalogSequence) ∧ retainPrior + 1 ≤ last.catalogs.length

/-- What a later mirror no longer holds of an earlier one is outdated. -/
def NoReturn (published : List AdvisoryMirrorIndex) (retainPrior : Int) : Prop :=
  ∀ last ∈ published.getLast?, published.Pairwise fun older middle =>
    ∀ bundle ∈ older.catalogs, bundle ∉ middle.catalogs → Outdated retainPrior last bundle

theorem Outdated.anti {first second : Int} {last : AdvisoryMirrorIndex} {bundle : LocalMirrorBundle} (fewer : second ≤ first)
    (outdated : Outdated first last bundle) : Outdated second last bundle := ⟨outdated.1, by have := outdated.2; omega⟩

theorem Built.outdated {call : MirrorBuild} {last index : AdvisoryMirrorIndex} {given : List LocalMirrorBundle}
    {bundle : LocalMirrorBundle} (built : Built source call (some last) index given)
    (outdated : Outdated call.retainPrior last bundle) : Outdated call.retainPrior index bundle := by
  obtain ⟨below, many⟩ := outdated
  have nonnegative := built.retention
  have nodup : (last.catalogs.map (·.catalogSequence)).Nodup := by
    have both := built.distinct
    rw [List.map_append] at both
    exact both.of_append_left
  constructor
  · rw [built.catalogs]
    exact below_newest built.distinct nodup (fun other listed => List.mem_append_left _ listed) (by omega) below
  · have held_length : (held (some last) ++ given).length = last.catalogs.length + given.length := List.length_append
    rw [built.catalogs, length_newest, held_length]
    omega

theorem Built.kept_or_outdated {call : MirrorBuild} {last index : AdvisoryMirrorIndex} {given : List LocalMirrorBundle}
    {bundle : LocalMirrorBundle} (built : Built source call (some last) index given) (member : bundle ∈ last.catalogs) :
    bundle ∈ index.catalogs ∨ Outdated call.retainPrior index bundle := by
  have nonnegative := built.retention
  have among : bundle ∈ held (some last) ++ given := List.mem_append_left _ member
  rw [Outdated, built.catalogs]
  refine (newest_or_below built.distinct among).imp id fun ⟨below, all⟩ => ⟨below, ?_⟩
  omega

theorem NoReturn.anti {published : List AdvisoryMirrorIndex} {first second : Int} (fewer : second ≤ first)
    (noReturn : NoReturn published first) : NoReturn published second := fun last final =>
  (noReturn last final).imp fun pair bundle member missing => (pair bundle member missing).anti fewer

theorem NoReturn.concat {published : List AdvisoryMirrorIndex} {call : MirrorBuild} {index : AdvisoryMirrorIndex}
    {given : List LocalMirrorBundle} (built : Built source call published.getLast? index given)
    (noReturn : NoReturn published call.retainPrior) : NoReturn (published ++ [index]) call.retainPrior := by
  intro final here
  rw [List.getLast?_concat] at here
  cases here
  obtain rfl | ⟨front, last, rfl⟩ := List.eq_nil_or_concat' published
  · exact List.pairwise_singleton _ _
  · have final : (front ++ [last]).getLast? = some last := List.getLast?_concat
    rw [final] at built
    have pairs := noReturn last final
    have still : ∀ bundle, Outdated call.retainPrior last bundle → Outdated call.retainPrior index bundle :=
      fun bundle => built.outdated
    refine List.pairwise_append.mpr ⟨?_, List.pairwise_singleton _ _, ?_⟩
    · exact pairs.imp fun pair bundle member missing => still bundle (pair bundle member missing)
    · intro older before newer new bundle member missing
      cases List.mem_singleton.mp new
      have present : ∀ bundle ∈ last.catalogs, bundle ∉ index.catalogs → Outdated call.retainPrior index bundle :=
        fun bundle listed dropped => (built.kept_or_outdated listed).resolve_left dropped
      rcases List.mem_append.mp before with earlier | same
      · by_cases listed : bundle ∈ last.catalogs
        · exact present bundle listed missing
        · exact still bundle ((List.pairwise_append.mp pairs).2.2 older earlier last List.mem_cons_self bundle member listed)
      · cases List.mem_singleton.mp same
        exact present bundle member missing

/-- When no publication retains more than the one before it, a catalog that a mirror held and a later mirror did not is older than
every catalog of the mirror that is published last: it does not return. -/
theorem mirror_never_returns (events : List (MirrorBuild × Bool))
    (shrinking : events.Pairwise fun earlier later => later.1.retainPrior ≤ earlier.1.retainPrior) :
    ∀ last ∈ (mirrors source events).getLast?, (mirrors source events).Pairwise fun older middle =>
      ∀ bundle ∈ older.catalogs, bundle ∉ middle.catalogs →
        ∀ other ∈ last.catalogs, bundle.catalogSequence < other.catalogSequence := by
  suffices noReturn : ∀ event ∈ events.getLast?, NoReturn (mirrors source events) event.1.retainPrior by
    intro last final
    cases ended : events.getLast? with
    | none =>
      rw [List.getLast?_eq_none_iff] at ended
      rw [ended] at final
      cases final
    | some event => exact (noReturn event ended last final).imp fun pair bundle member missing => (pair bundle member missing).1
  induction events using List.reverseRecOn with
  | nil => exact nofun
  | append_singleton events event hypothesis =>
    obtain ⟨shorter, _, fewer⟩ := List.pairwise_append.mp shrinking
    have before : NoReturn (mirrors source events) event.1.retainPrior := by
      obtain rfl | ⟨front, previous, rfl⟩ := List.eq_nil_or_concat' events
      · exact fun last final => by cases final
      · have bound := fewer previous (List.mem_append_right _ List.mem_cons_self) event List.mem_cons_self
        exact (hypothesis shorter previous List.getLast?_concat).anti bound
    intro last final
    rw [List.getLast?_concat] at final
    cases final
    rw [mirrors_concat]
    rcases @publish_cases source (mirrors source events) event with same | ⟨index, given, more, built⟩
    · rw [same]
      exact before
    · rw [more]
      exact before.concat built

/-- A source whose limits are all that it checks. -/
def roomy : FeedSource where
  maximumMirrorCatalogs := 32
  maximumMirrorIndexAgeSeconds := 86400
  authenticate := fun _ _ => .ok ()
  approve := fun _ => .ok ()
  formed := fun _ => .ok ()
  reread := fun _ => .ok ()

def numbered (catalogSequence : Nat) (catalogVersion : String) : LocalMirrorBundle where
  catalogVersion := catalogVersion
  catalogSequence := catalogSequence
  createdAt := 0
  expiresAt := 1000000
  publisherKeyId := "publisher-1"
  manifestDigest := catalogVersion
  payloadDigest := catalogVersion
  provenance := "catalog"
  metadata :=
    { licenseIdentifier := "CC0-1.0"
      attribution := "catalog"
      sourceName := "catalog"
      adapterVersion := "1"
      minimumSupportedCatalogVersion := 1 }

def building (retainPrior : Int) (inputs : List LocalMirrorBundle) : MirrorBuild × Bool :=
  ({ inputs := inputs.map .ok, publishedAt := 0, retainPrior := retainPrior }, true)

/-- A mirror that retains one more catalog than its latest, and then none. -/
def shrunk : List (MirrorBuild × Bool) := [building 1 [numbered 1 "a", numbered 2 "b"], building 0 [numbered 3 "c"]]

theorem mirror_never_returns_second :
    (mirrors roomy shrunk).Pairwise fun older middle => ∀ bundle ∈ older.catalogs, bundle ∉ middle.catalogs →
      ∀ other ∈ [numbered 3 "c"], bundle.catalogSequence < other.catalogSequence :=
  mirror_never_returns shrunk (by decide) { publishedAt := 0, catalogs := [numbered 3 "c"] } (Option.mem_def.mpr (by decide))

-- A build that retains more takes back a catalog that was dropped.
example : (mirrors roomy (shrunk ++ [building 2 [numbered 1 "a", numbered 4 "d"]])).map (·.catalogs.map (·.catalogSequence)) = [[1, 2], [3], [1, 3, 4]] := by
  decide

end History

end OpenAssetWatch.Advisory
