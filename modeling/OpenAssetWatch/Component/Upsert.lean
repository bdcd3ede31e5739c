import OpenAssetWatch.Component.Convergence

namespace OpenAssetWatch.Component

open Library

section Statement

/-- `ROW(...) >= ROW(...)`, from how the columns compare. -/
def rowAtLeast : List Ordering → Bool
  | [] => true
  | .eq :: rest => rowAtLeast rest
  | .gt :: _ => true
  | .lt :: _ => false

/-- `GREATEST(observed_at, COALESCE(not_observed_at, observed_at))`. -/
def ComponentRow.greatest (row : ComponentRow) : Time := max row.observedAt (row.notObservedAt.getD row.observedAt)

/-- The `WHERE` clause of the upsert, as it is written, where `text` compares texts. -/
def admitsUpdate (text : String → String → Ordering) (row : ComponentRow) (excluded : NormalizedComponent) : Bool :=
  (row.greatest < excluded.observedAt && sourceTrust row.sourceType ≤ sourceTrust excluded.sourceType) ||
    (excluded.observedAt = row.greatest &&
      rowAtLeast [compare (sourceTrust excluded.sourceType) (sourceTrust row.sourceType), compare excluded.confidence row.confidence,
        text excluded.sourceType row.sourceType, text excluded.sourceId row.sourceId,
        text (excluded.normalizedVersion.getD "") (row.normalizedVersion.getD "")])

end Statement

section Python

/-- `_SOURCE_TRUST`. -/
def sourceTrusts : List (String × Nat) :=
  [("untrusted-ingestion", 0), ("passive-network-sensor", 1), ("connector", 1), ("reviewed-connector", 2), ("endpoint-collector", 3)]

def trustOf (sourceType : String) : Nat := (sourceTrusts.lookup sourceType).getD 0

/-- A tuple of Python at least as great as another one, from how the items compare. -/
def tupleAtLeast (items : List Ordering) : Bool := (items.find? (· ≠ .eq)).all (· = .gt)

/-- `_should_replace_component`, as it is written. -/
def shouldReplace (text : String → String → Ordering) (previous : Option ComponentRow) (component : NormalizedComponent) : Bool :=
  match previous with
  | none => true
  | some previous =>
    let boundary :=
      match previous.notObservedAt with
      | some notObservedAt => if previous.observedAt < notObservedAt then notObservedAt else previous.observedAt
      | none => previous.observedAt
    if component.observedAt < boundary then false
    else if boundary < component.observedAt then trustOf previous.sourceType ≤ trustOf component.sourceType
    else
      tupleAtLeast [compare (trustOf component.sourceType) (trustOf previous.sourceType),
        compare component.confidence previous.confidence, text component.sourceType previous.sourceType,
        text component.sourceId previous.sourceId,
        text (component.normalizedVersion.getD "") (previous.normalizedVersion.getD "")]

inductive HistoryEvent where
  | firstObserved
  | versionChanged
  | sourceChanged
  | confidenceChanged
  | normalizationChanged
  | observedAgain
deriving DecidableEq, Repr

/-- `_history_event`. -/
def historyEvent (previous : Option ComponentRow) (component : NormalizedComponent) : Option HistoryEvent :=
  match previous with
  | none => some .firstObserved
  | some previous =>
    if !previous.active then some .observedAgain
    else if previous.normalizedVersion ≠ component.normalizedVersion then some .versionChanged
    else if (previous.sourceType, previous.sourceId) ≠ (component.sourceType, component.sourceId) then some .sourceChanged
    else if previous.confidence ≠ component.confidence then some .confidenceChanged
    else if previous.normalizationStatus ≠ component.normalizationStatus then some .normalizationChanged
    else none

/-- One turn of `persist_components`: the row after it, and the event that it writes. -/
def persistRow (text : String → String → Ordering) (previous : Option ComponentRow) (component : NormalizedComponent) :
    Option ComponentRow × Option HistoryEvent :=
  let replaceCurrent := shouldReplace text previous component
  let eventType := if replaceCurrent then historyEvent previous component else none
  let applied := replaceCurrent && previous.all (admitsUpdate text · component)
  if applied then (some (upsertedRow previous component), eventType) else (previous, none)

end Python

section Agreement

variable {row : ComponentRow} {component : NormalizedComponent} {text : String → String → Ordering}

theorem trustOf_eq_sourceTrust (sourceType : String) : trustOf sourceType = sourceTrust sourceType := by
  unfold trustOf sourceTrusts sourceTrust
  simp only [DictEntries.lookup_cons, List.lookup_nil]
  by_cases untrusted : sourceType = "untrusted-ingestion"
  · subst untrusted
    decide
  · rw [if_neg untrusted]
    by_cases passive : sourceType = "passive-network-sensor"
    · subst passive
      decide
    · rw [if_neg passive, if_neg passive]
      by_cases connector : sourceType = "connector"
      · subst connector
        decide
      · rw [if_neg connector, if_neg connector]
        by_cases reviewed : sourceType = "reviewed-connector"
        · subst reviewed
          decide
        · rw [if_neg reviewed, if_neg reviewed]
          split <;> rfl

theorem tupleAtLeast_eq (items : List Ordering) : tupleAtLeast items = rowAtLeast items := by
  induction items with
  | nil => rfl
  | cons first rest ih =>
    cases first with
    | eq => exact ih
    | _ => rfl

theorem greatest_eq (row : ComponentRow) : row.greatest = row.boundary := by
  unfold ComponentRow.greatest ComponentRow.boundary
  cases row.notObservedAt with
  | none => exact max_self _
  | some time =>
    show max row.observedAt time = if row.observedAt < time then time else row.observedAt
    rw [max_def_lt]

theorem shouldReplace_eq_admitsUpdate : shouldReplace text (some row) component = admitsUpdate text row component := by
  have boundary : (match row.notObservedAt with
      | some notObservedAt => if row.observedAt < notObservedAt then notObservedAt else row.observedAt
      | none => row.observedAt) = row.greatest := by
    rw [greatest_eq]
    unfold ComponentRow.boundary
    cases row.notObservedAt <;> rfl
  unfold shouldReplace admitsUpdate
  dsimp only
  rw [boundary]
  simp only [trustOf_eq_sourceTrust, tupleAtLeast_eq]
  rcases lt_trichotomy component.observedAt row.greatest with earlier | same | later
  · rw [if_pos earlier, decide_eq_false earlier.not_gt, decide_eq_false earlier.ne, Bool.false_and, Bool.false_and, Bool.false_or]
  · rw [if_neg same.not_lt, if_neg same.not_gt, decide_eq_false same.not_gt, decide_eq_true same, Bool.false_and, Bool.true_and,
      Bool.false_or]
  · rw [if_neg later.not_gt, if_pos later, decide_eq_true later, decide_eq_false later.ne', Bool.true_and, Bool.false_and, Bool.or_false]

theorem rowAtLeast_swap (first : Ordering) (rest : List Ordering) (others : Ordering) (same : rowAtLeast rest = others.isLE) :
    rowAtLeast (first.swap :: rest) = (first.then others).isLE := by
  cases first with
  | eq => exact same
  | _ => rfl

theorem upsertApplies_eq_admitsUpdate [Std.OrientedCmp text] : upsertApplies text row component = admitsUpdate text row component := by
  have keys : (compareKeys text row.toComponentFacts component.toComponentFacts).isLE =
      rowAtLeast [compare (sourceTrust component.sourceType) (sourceTrust row.sourceType), compare component.confidence row.confidence,
        text component.sourceType row.sourceType, text component.sourceId row.sourceId,
        text (component.normalizedVersion.getD "") (row.normalizedVersion.getD "")] := by
    unfold compareKeys
    have swapText (a b : String) : text a b = (text b a).swap := Std.OrientedCmp.eq_swap
    have swapTrust : compare (sourceTrust component.sourceType) (sourceTrust row.sourceType) =
        (compare (sourceTrust row.sourceType) (sourceTrust component.sourceType)).swap := Std.OrientedCmp.eq_swap
    have swapConfidence : compare component.confidence row.confidence = (compare row.confidence component.confidence).swap :=
      Std.OrientedCmp.eq_swap
    rw [swapTrust, swapConfidence, swapText component.sourceType, swapText component.sourceId,
      swapText (component.normalizedVersion.getD "")]
    symm
    apply rowAtLeast_swap
    apply rowAtLeast_swap
    apply rowAtLeast_swap
    apply rowAtLeast_swap
    cases text (row.normalizedVersion.getD "") (component.normalizedVersion.getD "") <;> rfl
  unfold upsertApplies admitsUpdate
  rw [keys, greatest_eq]
  rfl

theorem historyEvent_of_handover (apart : (row.sourceType, row.sourceId) ≠ (component.sourceType, component.sourceId)) :
    (historyEvent (some row) component).isSome = true := by
  unfold historyEvent
  dsimp only
  split
  · rfl
  · split
    · rfl
    · rfl

end Agreement

/-- A row is replaced exactly where the statement admits the update, and the history has the event of exactly these turns. -/
theorem should_replace_iff_admitted (text : String → String → Ordering) (row : ComponentRow) (component : NormalizedComponent) :
    (shouldReplace text (some row) component = true ↔ admitsUpdate text row component = true) ∧
      (persistRow text (some row) component = if admitsUpdate text row component
        then (some (upsertedRow (some row) component), historyEvent (some row) component) else (some row, none)) ∧
      ((row.sourceType, row.sourceId) ≠ (component.sourceType, component.sourceId) →
        ((persistRow text (some row) component).2.isSome = true ↔ admitsUpdate text row component = true)) := by
  have turn : persistRow text (some row) component = if admitsUpdate text row component
      then (some (upsertedRow (some row) component), historyEvent (some row) component) else (some row, none) := by
    unfold persistRow
    rw [shouldReplace_eq_admitsUpdate]
    cases admitted : admitsUpdate text row component with
    | true => simp [admitted]
    | false => rfl
  refine ⟨by rw [shouldReplace_eq_admitsUpdate], turn, ?_⟩
  intro apart
  rw [turn]
  cases admitsUpdate text row component with
  | true => exact iff_of_true (historyEvent_of_handover apart) rfl
  | false => exact iff_of_false Bool.false_ne_true Bool.false_ne_true

end OpenAssetWatch.Component
