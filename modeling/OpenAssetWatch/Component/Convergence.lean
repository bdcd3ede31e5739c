import OpenAssetWatch.Component.Store
import OpenAssetWatch.Library.Replacement

namespace OpenAssetWatch.Component

open Library

/-- What decides which observation is current: its time and its columns. -/
structure Standing where
  time : Time
  facts : ComponentFacts

def ComponentRow.standing (row : ComponentRow) : Standing := ⟨row.boundary, row.toComponentFacts⟩
def NormalizedComponent.standing (component : NormalizedComponent) : Standing :=
  ⟨component.observedAt, component.toComponentFacts⟩

def outranks (text : String → String → Ordering) (previous next : Standing) : Bool :=
  (previous.time < next.time && sourceTrust previous.facts.sourceType ≤ sourceTrust next.facts.sourceType) ||
    (next.time == previous.time && (compareKeys text previous.facts next.facts).isLE)

section

variable (collation : String → String → Ordering)

/-- The next observation may replace the previous one by both tests; anything replaces nothing. -/
def mayReplace : Option Standing → Option Standing → Bool
  | none, _ => true
  | some _, none => false
  | some previous, some next => outranks compare previous next && outranks collation previous next

/-- The row of one component after its observations in the order of their arrival. -/
def observe (stored : Option ComponentRow) (observations : List NormalizedComponent) : Option ComponentRow :=
  observations.foldl
    (fun previous component => if replaces collation previous component then some (upsertedRow previous component) else previous)
    stored

/-- The calls in the order of their arrival; none of them reports a complete inventory. -/
def persistAll (rows : ComponentTable) (calls : List (List NormalizedComponent)) : ComponentTable :=
  calls.foldl (fun rows components => (persistComponents collation components [] rows).rows) rows

end

/-- The observations that the calls persist. -/
def persisted (calls : List (List NormalizedComponent)) : List NormalizedComponent := calls.flatMap bounded

def SameExceptFirstSeen (first second : Option ComponentRow) : Prop :=
  first.map (fun row => { row with firstSeenAt := 0 }) = second.map fun row => { row with firstSeenAt := 0 }

section

variable (text : String → String → Ordering) [Std.TransCmp text]

instance : Std.TransCmp (compareKeys text) := by
  have types := Comparator.transCmp_onKey (fun facts : ComponentFacts => facts.sourceType) text
  have sources := Comparator.transCmp_onKey (fun facts : ComponentFacts => facts.sourceId) text
  have versions := Comparator.transCmp_onKey (fun facts : ComponentFacts => facts.normalizedVersion.getD "") text
  exact inferInstanceAs (Std.TransCmp (compareLex (compareOn fun facts : ComponentFacts => sourceTrust facts.sourceType)
    (compareLex (compareOn fun facts : ComponentFacts => facts.confidence)
      (compareLex (fun x y : ComponentFacts => text x.sourceType y.sourceType)
        (compareLex (fun x y : ComponentFacts => text x.sourceId y.sourceId)
          fun x y : ComponentFacts => text (x.normalizedVersion.getD "") (y.normalizedVersion.getD ""))))))

omit [Std.TransCmp text] in
theorem trust_of_key {previous next : ComponentFacts} (ordered : (compareKeys text previous next).isLE = true) :
    sourceTrust previous.sourceType ≤ sourceTrust next.sourceType := by
  by_contra lower
  have greater : compare (sourceTrust previous.sourceType) (sourceTrust next.sourceType) = .gt :=
    Nat.compare_eq_gt.mpr (not_le.mp lower)
  rw [compareKeys, greater] at ordered
  cases ordered

theorem outranks_refl (standing : Standing) : outranks text standing standing = true := by
  have same : compareKeys text standing.facts standing.facts = .eq := Std.ReflCmp.compare_self
  simp [outranks, same]

variable {text} in
omit [Std.TransCmp text] in
theorem outranks_iff {previous next : Standing} : outranks text previous next = true ↔
    (previous.time < next.time ∧ sourceTrust previous.facts.sourceType ≤ sourceTrust next.facts.sourceType) ∨
      (next.time = previous.time ∧ (compareKeys text previous.facts next.facts).isLE = true) := by
  simp only [outranks, Bool.or_eq_true, Bool.and_eq_true, decide_eq_true_eq, beq_iff_eq]

variable {text} in
omit [Std.TransCmp text] in
theorem outranks_later {previous next : Standing} (ranked : outranks text previous next = true) :
    previous.time ≤ next.time ∧ sourceTrust previous.facts.sourceType ≤ sourceTrust next.facts.sourceType := by
  rcases outranks_iff.mp ranked with ⟨later, trusted⟩ | ⟨same, ordered⟩
  · exact ⟨later.le, trusted⟩
  · exact ⟨same.ge, trust_of_key text ordered⟩

theorem outranks_trans {first second third : Standing} (before : outranks text first second = true)
    (after : outranks text second third = true) : outranks text first third = true := by
  obtain ⟨earlier, trusted⟩ := outranks_later before
  obtain ⟨later, trusted'⟩ := outranks_later after
  rw [outranks_iff]
  rcases lt_or_eq_of_le (earlier.trans later) with less | same
  · exact .inl ⟨less, trusted.trans trusted'⟩
  · have here : second.time = first.time := le_antisymm (same ▸ later) earlier
    rw [outranks_iff] at before after
    have low := (before.resolve_left fun strict => strict.1.ne here.symm).2
    have high := (after.resolve_left fun strict => strict.1.ne (here.trans same)).2
    exact .inr ⟨same.symm, Std.TransCmp.isLE_trans low high⟩

end

section

variable (collation : String → String → Ordering) [Std.TransCmp collation]

theorem mayReplace_refl (standing : Option Standing) : mayReplace collation standing standing = true := by
  cases standing with
  | none => rfl
  | some standing =>
    simp only [mayReplace, outranks_refl, Bool.and_self]

theorem mayReplace_trans (first second third : Option Standing) (before : mayReplace collation first second = true)
    (after : mayReplace collation second third = true) : mayReplace collation first third = true := by
  cases first with
  | none => rfl
  | some first =>
    cases second with
    | none => cases before
    | some second =>
      cases third with
      | none => cases after
      | some third =>
        simp only [mayReplace, Bool.and_eq_true] at before after ⊢
        exact ⟨outranks_trans compare before.1 after.1, outranks_trans collation before.2 after.2⟩

end

section

variable {collation : String → String → Ordering} {row : ComponentRow} {component : NormalizedComponent}
  {stored : Option ComponentRow} {observations : List NormalizedComponent}

theorem shouldReplace_eq : shouldReplaceComponent (some row) component = outranks compare row.standing component.standing := by
  rw [Bool.eq_iff_iff, outranks_iff]
  show (if component.observedAt < row.boundary then false
    else if row.boundary < component.observedAt then decide (sourceTrust row.sourceType ≤ sourceTrust component.sourceType)
    else (compareKeys compare row.toComponentFacts component.toComponentFacts).isLE) = true ↔
      (row.boundary < component.observedAt ∧ sourceTrust row.sourceType ≤ sourceTrust component.sourceType) ∨
        (component.observedAt = row.boundary ∧
          (compareKeys compare row.toComponentFacts component.toComponentFacts).isLE = true)
  rcases lt_trichotomy component.observedAt row.boundary with earlier | same | later
  · simp [earlier, earlier.not_gt, earlier.ne]
  · simp [same]
  · simp [later, later.not_gt, later.ne']

theorem replaces_eq : replaces collation stored component =
    mayReplace collation (stored.map (·.standing)) (some component.standing) := by
  cases stored with
  | none => rfl
  | some row =>
    rw [replaces, shouldReplace_eq]
    rfl

/-- What a replacement leaves in the row, apart from the time of the first sighting. -/
structure CurrentOf (stored : Option ComponentRow) (standing : Standing) (row : ComponentRow) : Prop where
  facts : row.toComponentFacts = standing.facts
  observedAt : row.observedAt = standing.time
  lastSeenAt : row.lastSeenAt = stored.elim standing.time (max ·.lastSeenAt standing.time)
  active : row.active = true
  notObservedAt : row.notObservedAt = none

theorem CurrentOf.standing_eq {standing : Standing} (current : CurrentOf stored standing row) : row.standing = standing := by
  rw [ComponentRow.standing, current.facts, ComponentRow.boundary, current.notObservedAt]
  exact congrArg (Standing.mk · standing.facts) current.observedAt

theorem observed_le_boundary (row : ComponentRow) : row.observedAt ≤ row.boundary := by
  rw [ComponentRow.boundary]
  split
  · exact le_refl _
  · split
    · rename_i later
      exact later.le
    · exact le_refl _

theorem upserted_current (replaced : replaces collation stored component = true) :
    CurrentOf stored component.standing (upsertedRow stored component) := by
  cases stored with
  | none => exact ⟨rfl, rfl, component.lastSeen, rfl, rfl⟩
  | some row =>
    rw [replaces_eq] at replaced
    simp only [Option.map_some, mayReplace, Bool.and_eq_true] at replaced
    have later : row.observedAt ≤ component.observedAt := (observed_le_boundary row).trans (outranks_later replaced.1).1
    refine ⟨rfl, max_eq_right later, ?_, rfl, rfl⟩
    show max row.lastSeenAt component.lastSeenAt = max row.lastSeenAt component.observedAt
    rw [component.lastSeen]

def standings (observations : List NormalizedComponent) : List (Option Standing) :=
  observations.map (some ·.standing)

theorem observe_cons (component : NormalizedComponent) (rest : List NormalizedComponent) :
    observe collation stored (component :: rest) =
      observe collation (if replaces collation stored component then some (upsertedRow stored component) else stored) rest := rfl

theorem observe_unbeaten (unbeaten : ∀ component ∈ observations, replaces collation stored component = false) :
    observe collation stored observations = stored := by
  induction observations with
  | nil => rfl
  | cons component rest ih =>
    rw [observe_cons, unbeaten component List.mem_cons_self]
    exact ih fun other member => unbeaten other (List.mem_cons_of_mem _ member)

variable [Std.TransCmp collation]

theorem observe_settles (replaced : ∃ component ∈ observations, replaces collation stored component = true) :
    ∃ standing row, settle (mayReplace collation) (stored.map (·.standing)) (standings observations) = some standing ∧
      observe collation stored observations = some row ∧ CurrentOf stored standing row := by
  induction observations generalizing stored with
  | nil =>
    obtain ⟨component, impossible, -⟩ := replaced
    cases impossible
  | cons component rest ih =>
    rw [standings, List.map_cons, settle_cons, ← replaces_eq, observe_cons]
    by_cases first : replaces collation stored component = true
    · have current := upserted_current first
      rw [if_pos first, if_pos first]
      by_cases again : ∃ other ∈ rest, replaces collation (some (upsertedRow stored component)) other = true
      · obtain ⟨standing, row, settled, observed, last⟩ := ih again
        rw [Option.map_some, current.standing_eq] at settled
        refine ⟨standing, row, settled, observed, last.facts, last.observedAt, ?_, last.active, last.notObservedAt⟩
        have ranked : mayReplace collation (some component.standing) (some standing) = true := by
          rw [← settled]
          exact le_settle (mayReplace_refl collation) (mayReplace_trans collation)
        simp only [mayReplace, Bool.and_eq_true] at ranked
        have later : component.standing.time ≤ standing.time := (outranks_later ranked.1).1
        rw [last.lastSeenAt, Option.elim_some, current.lastSeenAt]
        cases stored with
        | none => exact max_eq_right later
        | some before =>
          show max (max before.lastSeenAt component.standing.time) standing.time = max before.lastSeenAt standing.time
          rw [max_assoc, max_eq_right later]
      · have unbeaten : ∀ other ∈ rest, replaces collation (some (upsertedRow stored component)) other = false :=
          fun other member => Bool.eq_false_iff.mpr fun beaten => again ⟨other, member, beaten⟩
        refine ⟨component.standing, upsertedRow stored component, ?_, observe_unbeaten unbeaten, current⟩
        apply settle_unbeaten
        intro x member
        obtain ⟨other, later, rfl⟩ := List.mem_map.mp member
        have kept := unbeaten other later
        rw [replaces_eq, Option.map_some, current.standing_eq] at kept
        exact kept
    · rw [if_neg first, if_neg first]
      apply ih
      obtain ⟨other, member, beaten⟩ := replaced
      rcases List.mem_cons.mp member with rfl | later
      · exact absurd beaten first
      · exact ⟨other, later, beaten⟩

end

section

variable (collation : String → String → Ordering) (stored : Option ComponentRow) (observations : List NormalizedComponent)

/-- It may replace the stored row, and whichever observation may replace it ranks the same. -/
def Unbeaten (component : NormalizedComponent) : Prop :=
  component ∈ observations ∧ replaces collation stored component = true ∧
    ∀ other ∈ observations, mayReplace collation (some component.standing) (some other.standing) = true →
      mayReplace collation (some other.standing) (some component.standing) = true

end

section

variable {collation : String → String → Ordering} {stored : Option ComponentRow}
  {observations order : List NormalizedComponent}

theorem observed_rows {row : ComponentRow} {standing : Standing} (current : CurrentOf stored standing row) {time : Time} :
    { row with firstSeenAt := time } =
      { toComponentFacts := standing.facts, firstSeenAt := time
        lastSeenAt := stored.elim standing.time (max ·.lastSeenAt standing.time), observedAt := standing.time : ComponentRow } := by
  obtain ⟨facts, observed, seen, active, never⟩ := current
  cases row
  cases standing
  simp only [ComponentRow.mk.injEq] at *
  exact ⟨facts, trivial, seen, observed, active, never⟩

variable [Std.TransCmp collation]

theorem observe_unbeaten_standing (moved : order.Perm observations)
    (replaced : ∃ component ∈ observations, replaces collation stored component = true) :
    ∃ component row, Unbeaten collation stored observations component ∧
      observe collation stored order = some row ∧ CurrentOf stored component.standing row := by
  obtain ⟨first, member, beaten⟩ := replaced
  have here := moved.mem_iff.mpr member
  obtain ⟨standing, row, settled, observed, current⟩ := observe_settles ⟨first, here, beaten⟩
  have left : settle (mayReplace collation) (stored.map (·.standing)) (standings order) ∈ standings order := by
    rw [replaces_eq] at beaten
    exact settle_mem_of_replaced (List.mem_map.mpr ⟨first, here, rfl⟩) beaten
  obtain ⟨component, listed, same⟩ := List.mem_map.mp left
  rw [settled] at same
  cases same
  refine ⟨component, row, ⟨moved.mem_iff.mp listed, ?_, fun other later outranked => ?_⟩, observed, current⟩
  · rw [replaces_eq, ← settled]
    exact le_settle (mayReplace_refl collation) (mayReplace_trans collation)
  · have above : mayReplace collation
        (settle (mayReplace collation) (stored.map (·.standing)) (standings order)) (some other.standing) = true := by
      rw [settled]
      exact outranked
    have listed' : some other.standing ∈ standings order := List.mem_map.mpr ⟨other, moved.mem_iff.mpr later, rfl⟩
    have maximal := settle_maximal (mayReplace_refl collation) (mayReplace_trans collation) listed' above
    rw [settled] at maximal
    exact maximal

theorem exists_order {component : NormalizedComponent} (unbeaten : Unbeaten collation stored observations component) :
    ∃ order row, order.Perm observations ∧ observe collation stored order = some row ∧
      CurrentOf stored component.standing row := by
  obtain ⟨member, beaten, maximal⟩ := unbeaten
  have above := beaten
  rw [replaces_eq] at above
  obtain ⟨order, moved, settled⟩ :=
    exists_settle (β := NormalizedComponent) member above maximal
  obtain ⟨standing, row, settled', observed, current⟩ := observe_settles ⟨component, moved.mem_iff.mpr member, beaten⟩
  have same : component.standing = standing := Option.some.inj (settled.symm.trans settled')
  rw [← same] at current
  exact ⟨order, row, moved, observed, current⟩

theorem observe_order_iff :
    (∀ first second : List NormalizedComponent, first.Perm observations → second.Perm observations →
      SameExceptFirstSeen (observe collation stored first) (observe collation stored second)) ↔
    ∀ a b, Unbeaten collation stored observations a → Unbeaten collation stored observations b →
      a.toComponentFacts = b.toComponentFacts ∧ a.observedAt = b.observedAt := by
  constructor
  · intro same a b unbeaten unbeaten'
    obtain ⟨first, row, moved, observed, current⟩ := exists_order unbeaten
    obtain ⟨second, row', moved', observed', current'⟩ := exists_order unbeaten'
    have equal := same first second moved moved'
    rw [observed, observed'] at equal
    simp only [SameExceptFirstSeen, Option.map_some, Option.some.injEq, observed_rows current, observed_rows current',
      ComponentRow.mk.injEq] at equal
    exact ⟨equal.1, equal.2.2.2.1⟩
  · intro agree first second moved moved'
    by_cases replaced : ∃ component ∈ observations, replaces collation stored component = true
    · obtain ⟨a, row, unbeaten, observed, current⟩ := observe_unbeaten_standing moved replaced
      obtain ⟨b, row', unbeaten', observed', current'⟩ := observe_unbeaten_standing moved' replaced
      have same : a.standing = b.standing := by
        obtain ⟨facts, time⟩ := agree a b unbeaten unbeaten'
        rw [NormalizedComponent.standing, NormalizedComponent.standing, facts, time]
      rw [same] at current
      rw [observed, observed', SameExceptFirstSeen, Option.map_some, Option.map_some, observed_rows current,
        observed_rows current']
    · have unbeaten (order : List NormalizedComponent) (moved : order.Perm observations) :
          observe collation stored order = stored :=
        observe_unbeaten fun component member => Bool.eq_false_iff.mpr fun beaten =>
          replaced ⟨component, moved.mem_iff.mp member, beaten⟩
      rw [unbeaten first moved, unbeaten second moved']
      rfl

end

section

variable {collation : String → String → Ordering} {id : ComponentId}

theorem persistComponent_row (components : List NormalizedComponent) (state : Persisted) :
    (components.foldl (persistComponent collation) state).rows.get? id =
      observe collation (state.rows.get? id) (components.filter (·.componentId = id)) := by
  refine foldl_turns_at_key (fun id (state : Persisted) => state.rows.get? id)
    (fun component : NormalizedComponent => component.componentId) (persistComponent collation)
    (fun component previous => if replaces collation previous component then some (upsertedRow previous component) else previous)
    ?_ ?_ components state id
  · intro state component
    simp only [persistComponent]
    split
    · simp only [Dict.set, Dict.get?_update_self]
    · rfl
  · intro state component other apart
    simp only [persistComponent]
    split
    · simp only [Dict.set, Dict.get?_update_ne _ apart]
    · rfl

theorem persistComponents_row (rows : ComponentTable) (components : List NormalizedComponent) :
    (persistComponents collation components [] rows).rows.get? id =
      observe collation (rows.get? id) ((bounded components).filter (·.componentId = id)) :=
  persistComponent_row (bounded components) { rows }

theorem persistAll_row (rows : ComponentTable) (calls : List (List NormalizedComponent)) :
    (persistAll collation rows calls).get? id =
      observe collation (rows.get? id) ((persisted calls).filter (·.componentId = id)) := by
  induction calls generalizing rows with
  | nil => rfl
  | cons components rest ih =>
    have joined : persisted (components :: rest) = bounded components ++ persisted rest := List.flatMap_cons
    rw [persistAll, List.foldl_cons, ← persistAll, ih, persistComponents_row, joined, List.filter_append]
    exact (List.foldl_append ..).symm

theorem persisted_singly (order : List NormalizedComponent) : persisted (order.map ([·])) = order := by
  induction order with
  | nil => rfl
  | cons component rest ih =>
    have joined : persisted ((component :: rest).map ([·])) = [component] ++ persisted (rest.map ([·])) := List.flatMap_cons
    rw [joined, ih]
    rfl

end

/-- Whatever row is stored, the current row of a component is the same for every order of arrival, its first sighting
apart, exactly when the observations that nothing outranks agree. -/
theorem components_converge_iff (collation : String → String → Ordering) [Std.TransCmp collation] (rows : ComponentTable)
    (id : ComponentId) (observations : List NormalizedComponent)
    (own : ∀ component ∈ observations, component.componentId = id) :
    (∀ first second, (persisted first).Perm observations → (persisted second).Perm observations →
      SameExceptFirstSeen ((persistAll collation rows first).get? id) ((persistAll collation rows second).get? id)) ↔
    ∀ a b, Unbeaten collation (rows.get? id) observations a → Unbeaten collation (rows.get? id) observations b →
      a.toComponentFacts = b.toComponentFacts ∧ a.observedAt = b.observedAt := by
  rw [← observe_order_iff]
  have whole (calls : List (List NormalizedComponent)) (moved : (persisted calls).Perm observations) :
      (persistAll collation rows calls).get? id = observe collation (rows.get? id) (persisted calls) := by
    rw [persistAll_row, List.filter_eq_self.mpr]
    intro component member
    exact decide_eq_true (own component (moved.mem_iff.mp member))
  constructor
  · intro same first second moved moved'
    have calls := same (first.map ([·])) (second.map ([·])) (by rwa [persisted_singly]) (by rwa [persisted_singly])
    rw [whole _ (by rwa [persisted_singly]), whole _ (by rwa [persisted_singly]), persisted_singly, persisted_singly] at calls
    exact calls
  · intro same first second moved moved'
    rw [whole first moved, whole second moved']
    exact same _ _ moved moved'

def sampleId : ComponentId :=
  { siteId := "site", assetId := "asset", identity := "pkg:pypi/requests", architecture := "", installScope := "system" }

def sampleComponent (sourceType version : String) (observedAt : Time) : NormalizedComponent where
  componentType := .application
  ecosystem := "pypi"
  packageNamespace := none
  vendor := none
  name := "requests"
  normalizedName := "requests"
  version := some version
  normalizedVersion := some version
  architecture := none
  packageManager := none
  canonicalIdentifier := some "pkg:pypi/requests"
  cpeHint := none
  installScope := "system"
  sourceType := sourceType
  sourceId := sourceType
  firmwareEvidenceType := .unknown
  freshness := .fresh
  confidence := 1
  normalizationStatus := .normalized
  metadata := []
  componentId := sampleId
  evidenceIds := []
  observedAt := observedAt
  inventoryComplete := false
  native := none

def trustedObservation : NormalizedComponent := sampleComponent "endpoint-collector" "1.0" 1
def laterObservation : NormalizedComponent := sampleComponent "untrusted-ingestion" "2.0" 2

theorem components_converge_iff_trust :
    (∀ first second, (persisted first).Perm [trustedObservation, laterObservation] →
      (persisted second).Perm [trustedObservation, laterObservation] →
      SameExceptFirstSeen ((persistAll compare .empty first).get? sampleId) ((persistAll compare .empty second).get? sampleId)) ↔
    ∀ a b, Unbeaten compare none [trustedObservation, laterObservation] a →
      Unbeaten compare none [trustedObservation, laterObservation] b →
      a.toComponentFacts = b.toComponentFacts ∧ a.observedAt = b.observedAt := by
  refine components_converge_iff compare .empty sampleId _ fun component member => ?_
  rcases List.mem_cons.mp member with rfl | member
  · rfl
  · rw [List.mem_singleton.mp member]
    rfl

/-- A later observation of lower trust stays out after the trusted one, and keeps it out before. -/
theorem arrival_order_matters :
    (persistAll compare .empty [[trustedObservation], [laterObservation]]).get? sampleId ≠
      (persistAll compare .empty [[laterObservation], [trustedObservation]]).get? sampleId := by
  intro same
  have versions := congrArg (Option.map (·.version)) same
  revert versions
  decide

end OpenAssetWatch.Component
