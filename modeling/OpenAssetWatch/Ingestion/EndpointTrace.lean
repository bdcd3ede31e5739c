import OpenAssetWatch.Ingestion.EndpointEnvelope
import OpenAssetWatch.Ingestion.NativeRecords

namespace OpenAssetWatch.Ingestion

open Library Text Component

/-- `value` is what the bounds of the envelope leave of `raw`. -/
def Visited (raw value : Json) : Prop := ∃ depth nodes left, visit depth nodes raw = .ok (value, left)

variable {raw value : Json} {entries visited : List (String × Json)} {key : String}

theorem Visited.string {text : String} (bounded : Visited (.string text) value) : value = .string text := by
  obtain ⟨depth, nodes, left, found⟩ := bounded
  rw [visit] at found
  obtain ⟨_, -, found⟩ := bind_eq_ok.mp found
  obtain ⟨-, found⟩ := require_bind_eq_ok.mp found
  cases found
  rfl

theorem Visited.object (bounded : Visited (.object entries) value) :
    ∃ visited depth nodes left, value = .object visited ∧ visitEntries depth nodes entries = .ok (visited, left) := by
  obtain ⟨depth, nodes, left, found⟩ := bounded
  rw [visit] at found
  obtain ⟨inner, -, found⟩ := bind_eq_ok.mp found
  obtain ⟨-, found⟩ := require_bind_eq_ok.mp found
  obtain ⟨⟨visited, last⟩, listed, done⟩ := bind_eq_ok.mp found
  cases done
  exact ⟨visited, _, _, _, rfl, listed⟩

theorem visitItems_visited {depth nodes left : Nat} {items results : List Json}
    (found : visitItems depth nodes items = .ok (results, left)) : List.Forall₂ Visited items results := by
  induction items generalizing nodes results with
  | nil =>
    rw [visitItems] at found
    cases found
    exact .nil
  | cons item rest ih =>
    rw [visitItems] at found
    obtain ⟨⟨first, between⟩, here, found⟩ := bind_eq_ok.mp found
    obtain ⟨⟨others, last⟩, tail, done⟩ := bind_eq_ok.mp found
    cases done
    exact .cons ⟨_, _, _, here⟩ (ih tail)

theorem Visited.array {items : List Json} (bounded : Visited (.array items) value) :
    ∃ results, value = .array results ∧ List.Forall₂ Visited items results := by
  obtain ⟨depth, nodes, left, found⟩ := bounded
  rw [visit] at found
  obtain ⟨inner, -, found⟩ := bind_eq_ok.mp found
  obtain ⟨-, found⟩ := require_bind_eq_ok.mp found
  obtain ⟨⟨results, last⟩, listed, done⟩ := bind_eq_ok.mp found
  cases done
  exact ⟨results, rfl, visitItems_visited listed⟩

variable (key) in
theorem visitEntries_lookup {depth nodes left : Nat} (found : visitEntries depth nodes entries = .ok (visited, left))
    (free : isAuthorityField key = false) :
    (entries.lookup key = none → visited.lookup key = none) ∧
      ∀ raw, entries.lookup key = some raw → ∃ value, visited.lookup key = some value ∧ Visited raw value := by
  induction entries generalizing nodes visited with
  | nil =>
    rw [visitEntries] at found
    cases found
    exact ⟨fun _ => rfl, fun raw absent => by cases absent⟩
  | cons entry rest ih =>
    obtain ⟨name, raw⟩ := entry
    rw [visitEntries] at found
    obtain ⟨-, found⟩ := require_bind_eq_ok.mp found
    split at found
    · rename_i authority
      have apart : key ≠ name := by
        rintro rfl
        rw [free] at authority
        cases authority
      rw [DictEntries.lookup_cons, if_neg apart]
      exact ih found
    · obtain ⟨⟨value, between⟩, here, found⟩ := bind_eq_ok.mp found
      obtain ⟨⟨others, last⟩, tail, done⟩ := bind_eq_ok.mp found
      cases done
      rw [DictEntries.lookup_cons, DictEntries.lookup_cons]
      by_cases same : key = name
      · rw [if_pos same, if_pos same]
        refine ⟨fun absent => (by cases absent), fun other listed => ?_⟩
        cases listed
        exact ⟨value, rfl, _, _, _, here⟩
      · rw [if_neg same, if_neg same]
        exact ih tail

theorem lookup_present (nodup : (entries.map Prod.fst).Nodup) :
    (present entries).lookup key = (entries.lookup key).filter (!·.isNull) := by
  induction entries with
  | nil => rfl
  | cons entry rest ih =>
    obtain ⟨name, value⟩ := entry
    obtain ⟨fresh, nodup⟩ := List.nodup_cons.mp nodup
    rw [DictEntries.lookup_cons, present]
    by_cases same : key = name
    · rw [if_pos same]
      cases null : value.isNull with
      | true =>
        have absent : rest.lookup key = none := by
          rw [List.lookup_eq_none_iff]
          intro other member
          rw [bne_iff_ne]
          rintro rfl
          exact fresh (List.mem_map.mpr ⟨other, member, same⟩)
        rw [List.filter_cons_of_neg (by simp [null]), Option.filter_some, if_neg (by simp [null])]
        exact (ih nodup).trans (by rw [absent]; rfl)
      | false =>
        rw [List.filter_cons_of_pos (by simp [null]), DictEntries.lookup_cons, if_pos same, Option.filter_some,
          if_pos (by simp [null])]
    · rw [if_neg same, ← ih nodup]
      cases null : value.isNull with
      | true => rw [List.filter_cons_of_neg (by simp [null]), present]
      | false => rw [List.filter_cons_of_pos (by simp [null]), DictEntries.lookup_cons, if_neg same, present]

theorem clientComponent_eq (component : ComponentObservation) :
    ∃ entries, clientComponent component = .object (present entries) ∧ (entries.map Prod.fst).Nodup ∧
      entries.lookup "collection_source_id" = some (.ofText component.collectionSourceId) :=
  ⟨_, rfl, by simp, by simp [List.lookup]⟩

theorem visited_source {component : ComponentObservation} (bounded : Visited (clientComponent component) value) :
    ∃ visited, value = .object visited ∧
      (Json.object visited).get "collection_source_id" = .ofText component.collectionSourceId := by
  obtain ⟨entries, same, nodup, source⟩ := clientComponent_eq component
  rw [same] at bounded
  obtain ⟨visited, depth, nodes, left, rfl, found⟩ := bounded.object
  obtain ⟨absent, kept⟩ := visitEntries_lookup "collection_source_id" found (by decide)
  rw [lookup_present nodup, source] at absent kept
  refine ⟨visited, rfl, ?_⟩
  rw [Json.get_object]
  cases named : component.collectionSourceId with
  | none =>
    rw [absent (by rw [named]; rfl)]
    rfl
  | some sourceId =>
    obtain ⟨value, listed, bounded⟩ := kept (.string sourceId) (by rw [named]; rfl)
    rw [listed, bounded.string]
    rfl

variable {printed : Json → String}

theorem fieldText_sourceName {text : String} (named : isSourceName text = true) :
    fieldText printed 64 (.string text) = some text := by
  obtain ⟨filled, short, chars⟩ := sourceName_chars named
  have bare : strip text = text := by
    rw [strip, stripChars_none fun c member => nameChar_not_space (chars c member), String.ofList_toList]
  have clean : cleanText printed (.string text) = some text := by
    show (if strip text = "" then none else some (strip text)) = some text
    rw [bare, if_neg fun empty => filled (by rw [empty]; rfl)]
  have white : stripChars isWhiteSpace text.toList = text.toList := by
    apply stripChars_none
    intro c member
    rw [isWhiteSpace, nameChar_not_space (chars c member), Bool.false_and]
  rw [fieldText, shortText, clean, Option.map_some, Option.map_some, List.take_of_length_le short, String.ofList_toList, white,
    String.ofList_toList]

theorem componentFrom_some {defaultType : ComponentType} {component : ComponentObservation}
    (found : componentFrom printed defaultType value = .ok (some component)) :
    component.collectionSourceId = fieldText printed 64 (value.get "collection_source_id") ∧
      validateComponent 0 component = .ok () := by
  rw [componentFrom] at found
  split at found
  · cases found
  · obtain ⟨_, -, found⟩ := bind_eq_ok.mp found
    obtain ⟨_, -, found⟩ := bind_eq_ok.mp found
    obtain ⟨_, valid, done⟩ := bind_eq_ok.mp found
    have same := Option.some.inj (Except.ok.inj done)
    rw [← same]
    exact ⟨rfl, mapError_eq_ok.mp valid⟩

/-- What the canonical asset keeps of the reported one. -/
structure Traced (asset : EndpointAsset) (canonical : CanonicalAsset) : Prop where
  valid : ∀ component ∈ canonical.components, validateComponent 0 component = .ok ()
  reported : ∀ component ∈ canonical.components, ∀ sourceId, component.collectionSourceId = some sourceId →
    ∃ original ∈ asset.components, original.collectionSourceId = some sourceId
  few : canonical.components.length ≤ 2000
  only : ∀ field ∈ ["software", "packages", "firmware"], canonical.metadata.lookup field = none

theorem componentsUnder_traced {safe : Json} {asset : EndpointAsset} {components : List ComponentObservation} {results : List Json}
    (names : ∀ component ∈ asset.components, ∀ sourceId, component.collectionSourceId = some sourceId →
      isSourceName sourceId = true)
    (listed : safe.get "components" = .array results)
    (bounded : List.Forall₂ Visited (asset.components.map clientComponent) results)
    (found : componentsUnder printed safe ("components", .application) = .ok components) :
    (∀ component ∈ components, validateComponent 0 component = .ok () ∧ ∀ sourceId,
      component.collectionSourceId = some sourceId → ∃ original ∈ asset.components,
        original.collectionSourceId = some sourceId) ∧ components.length ≤ 2000 := by
  rw [componentsUnder, listed] at found
  obtain ⟨options, mapped, done⟩ := bind_eq_ok.mp found
  cases done
  have pairs := mapM_eq_ok.mp mapped
  constructor
  · intro component member
    obtain ⟨option, kept, same⟩ := List.mem_filterMap.mp member
    rw [id_eq] at same
    rw [same] at kept
    obtain ⟨entry, taken, result⟩ := exists_left_of_forall₂ pairs kept
    obtain ⟨reported, listed, visited⟩ := exists_left_of_forall₂ bounded (List.mem_of_mem_take taken)
    obtain ⟨original, own, rfl⟩ := List.mem_map.mp listed
    obtain ⟨entries, rfl, source⟩ := visited_source visited
    obtain ⟨from_source, valid⟩ := componentFrom_some result
    refine ⟨valid, fun sourceId named => ⟨original, own, ?_⟩⟩
    rw [source, named] at from_source
    cases known : original.collectionSourceId with
    | none =>
      rw [known] at from_source
      cases from_source
    | some known_source =>
      rw [known] at from_source
      exact ((fieldText_sourceName (names original own known_source known)).symm.trans from_source.symm)
  · refine (List.length_filterMap_le _ _).trans ?_
    rw [← pairs.length_eq]
    exact List.length_take_le _ _

theorem client_eq (asset : EndpointAsset) (inventoryComplete : Bool) :
    ∃ entries, asset.client inventoryComplete = .object (present entries) ∧ (entries.map Prod.fst).Nodup ∧
      entries.lookup "components" = some (.array (asset.components.map clientComponent)) ∧
      ∀ field ∈ ["software", "packages", "firmware"], entries.lookup field = none := by
  refine ⟨_, rfl, by simp, by simp [List.lookup], ?_⟩
  simp [List.lookup]

theorem componentsUnder_absent {safe : Json} {field : String × ComponentType} (absent : safe.get field.1 = .null) :
    componentsUnder printed safe field = .ok [] := by
  rw [componentsUnder, absent]
  rfl

theorem assetFromMapping_traced {asset : EndpointAsset} {inventoryComplete : Bool} {index : Nat} {canonical : CanonicalAsset}
    (names : ∀ component ∈ asset.components, ∀ sourceId, component.collectionSourceId = some sourceId →
      isSourceName sourceId = true)
    (found : assetFromMapping printed (asset.client inventoryComplete) index = .ok canonical) : Traced asset canonical := by
  obtain ⟨entries, same, nodup, components, only⟩ := client_eq asset inventoryComplete
  rw [assetFromMapping, same] at found
  obtain ⟨safe, bounded, found⟩ := bind_eq_ok.mp found
  have bounded : Visited (.object (present entries)) safe := by
    rw [boundedJson] at bounded
    cases visited : visit 0 0 (.object (present entries)) with
    | error error =>
      rw [visited] at bounded
      cases bounded
    | ok result =>
      rw [visited] at bounded
      cases bounded
      exact ⟨0, 0, result.2, visited⟩
  obtain ⟨visited, depth, nodes, left, rfl, kept⟩ := bounded.object
  obtain ⟨-, found⟩ := require_bind_eq_ok.mp found
  have none_under (field : String) (member : field ∈ ["software", "packages", "firmware"]) : visited.lookup field = none := by
    have free : isAuthorityField field = false := by
      revert field
      decide
    apply (visitEntries_lookup field kept free).1
    rw [lookup_present nodup, only field member]
    rfl
  obtain ⟨results, listed, pairs⟩ : ∃ results, (Json.object visited).get "components" = .array results ∧
      List.Forall₂ Visited (asset.components.map clientComponent) results := by
    obtain ⟨value, listed, bounded⟩ := (visitEntries_lookup "components" kept (by decide)).2
      (.array (asset.components.map clientComponent)) (by rw [lookup_present nodup, components]; rfl)
    obtain ⟨results, rfl, pairs⟩ := bounded.array
    exact ⟨results, by rw [Json.get_object, listed]; rfl, pairs⟩
  have software : componentsUnder printed (.object visited) ("software", .application) = .ok [] :=
    componentsUnder_absent (by rw [Json.get_object, none_under "software" (by decide)]; rfl)
  have packages : componentsUnder printed (.object visited) ("packages", .operatingSystemPackage) = .ok [] :=
    componentsUnder_absent (by rw [Json.get_object, none_under "packages" (by decide)]; rfl)
  obtain ⟨groups, mapped, done⟩ := bind_eq_ok.mp found
  rw [← Except.ok.inj done]
  simp only [List.mapM_cons, List.mapM_nil, software, packages] at mapped
  obtain ⟨reported, first, rest⟩ := bind_eq_ok.mp mapped
  have groups_eq : [reported, [], []] = groups := Except.ok.inj rest
  obtain ⟨each, few⟩ := componentsUnder_traced names listed pairs first
  have flat : groups.flatten = reported := by
    rw [← groups_eq]
    simp
  refine ⟨fun component member => ?_, fun component member => ?_, ?_, none_under⟩
  · rw [flat] at member
    exact (each component member).1
  · rw [flat] at member
    exact (each component member).2
  · rw [flat]
    exact few

end OpenAssetWatch.Ingestion
