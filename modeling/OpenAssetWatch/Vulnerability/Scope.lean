import OpenAssetWatch.Library.Guard
import OpenAssetWatch.Vulnerability.CandidateIndex
import OpenAssetWatch.Vulnerability.StoreRows
import OpenAssetWatch.Vulnerability.History

namespace OpenAssetWatch.Vulnerability

open Library

/-- `asset_components` joined with the assets; the id is the primary key, and normalising never leaves an ecosystem empty. -/
structure Inventory where
  components : List Component
  distinct : (components.map (·.componentId)).Nodup
  named : ∀ component ∈ components, component.ecosystem ≠ ""

/-- The advisory tables: the affected id is a primary key, and the advisory id a foreign one. -/
structure AdvisoryTables where
  advisories : Dict String AdvisoryRow
  affectedComponents : List AffectedComponent
  distinct : (affectedComponents.map (·.affectedId)).Nodup
  known : ∀ item ∈ affectedComponents, (advisories.get? item.advisoryId).isSome

def AdvisoryTables.joined (tables : AdvisoryTables) : List Affected :=
  tables.affectedComponents.filterMap fun item =>
    (tables.advisories.get? item.advisoryId).map (Affected.mk item)

/-- The join of reconciliation; matches refer to advisories by a foreign key. -/
def AdvisoryTables.states (tables : AdvisoryTables) : Advisories :=
  fun id => ((tables.advisories.get? id).map (·.toAdvisoryState)).getD {}

/-- The tables that an evaluation reads and writes. -/
structure Database where
  inventory : Inventory
  tables : AdvisoryTables
  store : MatchStore

structure EvaluateArguments where
  siteId : Option String := none
  assetId : Option String := none
  componentId : Option String := none
  advisoryId : Option String := none
  components : Option (List Component) := none
  advisoryRows : Option (List Affected) := none
  reconcileAdvisoryIds : List String := []

structure EvaluationResult where
  store : MatchStore
  componentCount : Nat
  advisoryCount : Nat
  candidateCount : Nat
  affectedCount : Nat
  changedCount : Nat

/-- The truth value of an optional string: neither missing nor empty. -/
def given (value : Option String) : Bool := value.any (· ≠ "")

/-- `:value IS NULL OR column = :value`. -/
def unlessNull (value : Option String) (column : String) : Bool := value.all (· == column)

def textSorted (values : List String) : List String := values.dedup.insertionSort (· ≤ ·)

def componentsForMatching (inventory : Inventory) (siteId assetId componentId : Option String)
    (limit : Nat) : Except EvaluationError (List Component) := do
  require (1 ≤ limit ∧ limit ≤ maxEvaluationComponents + 1) .componentRowLimit
  let rows := inventory.components.filter fun component =>
    unlessNull siteId component.siteId && unlessNull assetId component.assetId && component.active &&
      unlessNull componentId component.componentId
  return (rows.insertionSort fun x y => x.componentId ≤ y.componentId).take limit

def advisoryIdsForScope (store : MatchStore) (siteId assetId componentId : Option String)
    (limit : Nat) : Except EvaluationError (List String) := do
  require (given siteId || given componentId) .untargetedReconciliation
  require (!given assetId || given siteId) .assetReconciliationWithoutSite
  require (1 ≤ limit ∧ limit ≤ maxReconciliationAdvisories + 1) .priorRowLimit
  let rows := store.rows.entries.filter fun (key, row) =>
    unlessNull siteId row.siteId && unlessNull assetId row.assetId && unlessNull componentId key.componentId
  return (textSorted (rows.map (·.1.advisoryId))).take limit

def affectedLE (x y : Affected) : Bool :=
  ((compare x.advisoryId y.advisoryId).then (compare x.affectedId y.affectedId)).isLE

/-- The `WHERE` clause; an empty list is no filter. -/
def rowSelected (advisoryId : Option String) (advisoryIds ecosystems : List String) (row : Affected) : Bool :=
  unlessNull advisoryId row.advisoryId && (advisoryIds.isEmpty || advisoryIds.contains row.advisoryId) &&
    (ecosystems.isEmpty || ecosystems.contains row.ecosystem)

def listAdvisoriesForMatching (tables : AdvisoryTables) (advisoryId : Option String)
    (advisoryIds ecosystems : List String) (limit : Nat) : Except EvaluationError (List Affected) := do
  require (1 ≤ limit ∧ limit ≤ maxEvaluationAdvisoryRows + 1) .advisoryRowLimit
  require (!given advisoryId || advisoryIds.isEmpty) .advisoryIdAndIds
  require (advisoryIds.dedup.length ≤ maxReconciliationAdvisories) .advisoryFilterLimit
  let rows := tables.joined.filter (rowSelected advisoryId advisoryIds ecosystems)
  return (rows.insertionSort fun x y => affectedLE x y).take limit

section

variable (args : EvaluateArguments)

/-- A site or a component makes a run targeted. -/
def EvaluateArguments.targeted : Bool := given args.siteId || given args.componentId

def EvaluateArguments.reconciliationIds : List String := textSorted args.reconcileAdvisoryIds

def loadComponents (inventory : Inventory) : Except EvaluationError (List Component) :=
  match args.components with
  | some components => .ok components
  | none =>
    componentsForMatching inventory args.siteId args.assetId args.componentId (maxEvaluationComponents + 1)

def priorAdvisoryIds (store : MatchStore) : Except EvaluationError (List String) :=
  if args.targeted then do
    let prior ← advisoryIdsForScope store args.siteId args.assetId args.componentId
      (maxReconciliationAdvisories + 1)
    require (prior.length ≤ maxReconciliationAdvisories) .priorReconciliationLimit
    return prior
  else
    .ok []

def ecosystemsOf (components : List Component) : List String :=
  textSorted ((components.map (·.ecosystem)).filter (· ≠ ""))

def loadAdvisoryRows (tables : AdvisoryTables) (components : List Component) :
    Except EvaluationError (List Affected) :=
  match args.advisoryRows with
  | some rows => .ok rows
  | none =>
    if components.isEmpty then .ok []
    else
      listAdvisoriesForMatching tables args.advisoryId args.reconciliationIds (ecosystemsOf components)
        (maxEvaluationAdvisoryRows + 1)

end

theorem aggregateGroup_matchId {found items : List VulnerabilityMatch} {id : MatchId} {m : VulnerabilityMatch}
    (group : (groupInto .empty found).get? id = some items) (result : aggregateGroup items = some m) :
    m.matchId = id := by
  rw [get?_groupInto] at group
  split at group
  · cases group
  · cases items with
    | nil => cases result
    | cons first rest =>
      cases result
      have selected := (selectMatch_spec first rest).1
      rw [← Option.some.inj group] at selected
      exact of_decide_eq_true (List.mem_filter.mp selected).2

theorem aggregateAll_distinct (found : List VulnerabilityMatch) :
    ((aggregateAll (groupInto .empty found)).map (·.matchId)).Nodup := by
  have order := List.perm_insertionSort (fun x y : MatchId × List VulnerabilityMatch => matchIdLE x.1 y.1)
    (groupInto .empty found).entries
  refine (Dict.sublist_filterMap_keys _ _ ?_).nodup ((order.map Prod.fst).nodup_iff.mpr (groupInto .empty found).nodup)
  intro (id, items) member m result
  have group := ((groupInto .empty found).get?_eq_some id items).mpr (order.mem_iff.mp member)
  exact aggregateGroup_matchId group result

section

variable {V : Type*} [LinearOrder V] (pep440 : List Char → Option V) (startedAt : Time)

theorem evaluatePairs_distinct {components : List Component} {rows : List Affected} {evaluation : Evaluation}
    (evaluated : evaluatePairs pep440 startedAt components rows = .ok evaluation) :
    ((aggregateAll evaluation.groupedMatches).map (·.matchId)).Nodup := by
  rw [evaluatePairs_groups pep440 startedAt evaluated]
  exact aggregateAll_distinct _

/-- The loop and the transaction of a run that has loaded its rows. -/
def evaluateLoaded (runId : String) (args : EvaluateArguments) (db : Database) (components : List Component)
    (prior : List String) (rows : List Affected) : Except EvaluationError EvaluationResult :=
  match evaluated : evaluatePairs pep440 startedAt components rows with
  | .error error => .error error
  | .ok evaluation =>
    let found := aggregateAll evaluation.groupedMatches
    let reconciled := reconcile
      { runId
        found
        advisoryChecksums := evaluation.advisoryChecksums
        scopeAdvisoryIds := textSorted (args.reconciliationIds ++ prior)
        scopeSiteId := args.siteId
        scopeAssetId := args.assetId
        scopeComponentId := args.componentId
        evaluatedAt := startedAt
        distinct := evaluatePairs_distinct pep440 startedAt evaluated }
      db.tables.states db.store
    .ok
      { store := reconciled.store
        componentCount := components.length
        advisoryCount := evaluation.advisoryIds.length
        candidateCount := evaluation.comparisonCount
        affectedCount := affectedCount found
        changedCount := reconciled.changed }

/-- The run in a database that nothing else changes; findings are updated after it. -/
def evaluateVulnerabilities (runId : String) (args : EvaluateArguments) (db : Database) :
    Except EvaluationError EvaluationResult := do
  require (!given args.assetId || given args.siteId) .assetWithoutSite
  require (!(given args.componentId && given args.assetId)) .componentAndAsset
  require (args.reconciliationIds.length ≤ maxReconciliationAdvisories) .reconciliationLimit
  let components ← loadComponents args db.inventory
  require (components.length ≤ maxEvaluationComponents) .componentLimit
  let prior ← priorAdvisoryIds args db.store
  let rows ← loadAdvisoryRows args db.tables components
  require (rows.length ≤ maxEvaluationAdvisoryRows) .advisoryLimit
  evaluateLoaded pep440 startedAt runId args db components prior rows

end

section

variable {V : Type*} [LinearOrder V] (pep440 : List Char → Option V) (startedAt : Time)

/-- Every stored match lies at the site and asset of its component; the component's id is a hash of both. -/
def Database.Placed (db : Database) : Prop :=
  ∀ key row, db.store.rows.get? key = some row →
    ∀ component ∈ db.inventory.components, component.componentId = key.componentId →
      (row.siteId, row.assetId) = (component.siteId, component.assetId)

/-- The matcher derives the status from one of the pair's current rows that the index lists. -/
def PairVerdict (db : Database) (key : MatchId) (status : MatchStatus) : Prop :=
  ∃ component ∈ db.inventory.components, ∃ row ∈ db.tables.joined, Listed component row ∧
    ∃ m, matchComponent pep440 component row startedAt = some m ∧ m.matchId = key ∧ m.matchStatus = status

namespace EvaluateArguments

variable (args : EvaluateArguments)

def ComponentInScope (component : Component) : Prop :=
  unlessNull args.siteId component.siteId ∧ unlessNull args.assetId component.assetId ∧ component.active ∧
    unlessNull args.componentId component.componentId

def RowInScope (key : MatchId) (row : MatchRow) : Prop :=
  unlessNull args.siteId row.siteId ∧ unlessNull args.assetId row.assetId ∧
    unlessNull args.componentId key.componentId

/-- Neither the advisory id nor the reconciliation ids leave the advisory's rows out. -/
def AdvisoryInScope (advisoryId : String) : Prop :=
  unlessNull args.advisoryId advisoryId ∧ (args.reconcileAdvisoryIds = [] ∨ advisoryId ∈ args.reconcileAdvisoryIds)

/-- The run evaluated the pair: both sides were in scope, and the matcher gave a verdict. -/
def Evaluated (db : Database) (key : MatchId) : Prop :=
  (∃ component ∈ db.inventory.components, component.componentId = key.componentId ∧
    args.ComponentInScope component) ∧
  args.AdvisoryInScope key.advisoryId ∧ ∃ status, PairVerdict pep440 startedAt db key status

end EvaluateArguments

theorem mem_textSorted {values : List String} {value : String} : value ∈ textSorted values ↔ value ∈ values := by
  rw [textSorted, List.mem_insertionSort, List.mem_dedup]

theorem mem_reconciliationIds {args : EvaluateArguments} {advisoryId : String} :
    advisoryId ∈ args.reconciliationIds ↔ advisoryId ∈ args.reconcileAdvisoryIds := mem_textSorted

theorem take_within {α : Type*} {values : List α} {limit : Nat} (within : (values.take (limit + 1)).length ≤ limit) :
    values.take (limit + 1) = values := by
  rw [List.length_take] at within
  exact List.take_of_length_le (by omega)

theorem joined_distinct (tables : AdvisoryTables) : (tables.joined.map (·.affectedId)).Nodup := by
  have kept : (tables.joined.map (·.affectedId)).Sublist (tables.affectedComponents.map (·.affectedId)) := by
    unfold AdvisoryTables.joined
    induction tables.affectedComponents with
    | nil => exact List.Sublist.refl _
    | cons item rest ih =>
      rw [List.filterMap_cons]
      cases tables.advisories.get? item.advisoryId with
      | none => exact ih.cons _
      | some advisory => exact ih.cons_cons _
  exact tables.distinct.sublist kept

theorem loaded_components {args : EvaluateArguments} {inventory : Inventory} {components : List Component}
    (own : args.components = none) (loaded : loadComponents args inventory = .ok components)
    (within : components.length ≤ maxEvaluationComponents) (component : Component) :
    component ∈ components ↔ component ∈ inventory.components ∧ args.ComponentInScope component := by
  simp only [loadComponents, own, componentsForMatching, require_bind_eq_ok] at loaded
  have rows := Except.ok.inj loaded.2
  subst rows
  rw [take_within within, List.mem_insertionSort, List.mem_filter]
  simp only [EvaluateArguments.ComponentInScope, Bool.and_eq_true, and_assoc]

theorem rowSelected_iff {args : EvaluateArguments} {ecosystems : List String} {row : Affected} :
    rowSelected args.advisoryId args.reconciliationIds ecosystems row = true ↔
      args.AdvisoryInScope row.advisoryId ∧ (ecosystems = [] ∨ row.ecosystem ∈ ecosystems) := by
  have unfiltered : args.reconciliationIds = [] ↔ args.reconcileAdvisoryIds = [] := by
    simp only [List.eq_nil_iff_forall_not_mem, mem_reconciliationIds]
  simp only [rowSelected, EvaluateArguments.AdvisoryInScope, Bool.and_eq_true, Bool.or_eq_true, List.isEmpty_iff,
    List.contains_iff_mem, mem_reconciliationIds, unfiltered]

theorem loaded_rows {args : EvaluateArguments} {tables : AdvisoryTables} {components : List Component}
    {rows : List Affected} (own : args.advisoryRows = none)
    (loaded : loadAdvisoryRows args tables components = .ok rows)
    (within : rows.length ≤ maxEvaluationAdvisoryRows) :
    (rows.map (·.affectedId)).Nodup ∧
      ∀ row, row ∈ rows ↔ row ∈ tables.joined ∧ components ≠ [] ∧ args.AdvisoryInScope row.advisoryId ∧
        (ecosystemsOf components = [] ∨ row.ecosystem ∈ ecosystemsOf components) := by
  simp only [loadAdvisoryRows, own] at loaded
  split at loaded
  · rename_i empty
    cases loaded
    refine ⟨List.nodup_nil, fun row => ?_⟩
    simp [List.isEmpty_iff.mp empty]
  · rename_i nonempty
    simp only [listAdvisoriesForMatching, require_bind_eq_ok] at loaded
    have sorted := Except.ok.inj loaded.2.2.2
    subst sorted
    rw [take_within within]
    constructor
    · have order := List.perm_insertionSort (fun x y => affectedLE x y = true)
        (tables.joined.filter (rowSelected args.advisoryId args.reconciliationIds (ecosystemsOf components)))
      refine (order.map (·.affectedId)).nodup_iff.mpr ?_
      exact (joined_distinct tables).sublist (List.filter_sublist.map _)
    · intro row
      have some_component : components ≠ [] := fun none_left => nonempty (List.isEmpty_iff.mpr none_left)
      rw [List.mem_insertionSort, List.mem_filter, rowSelected_iff]
      exact and_congr_right fun _ => (and_iff_right some_component).symm

theorem mem_prior {args : EvaluateArguments} {store : MatchStore} {prior : List String}
    (loaded : priorAdvisoryIds args store = .ok prior) (advisoryId : String) :
    advisoryId ∈ prior ↔ args.targeted = true ∧
      ∃ key row, store.rows.get? key = some row ∧ args.RowInScope key row ∧ key.advisoryId = advisoryId := by
  rw [priorAdvisoryIds] at loaded
  split at loaded
  · rename_i targeted
    obtain ⟨ids, selected, rest⟩ := bind_eq_ok.mp loaded
    obtain ⟨within, same⟩ := require_bind_eq_ok.mp rest
    cases Except.ok.inj same
    simp only [advisoryIdsForScope, require_bind_eq_ok] at selected
    have ids := Except.ok.inj selected.2.2.2
    subst ids
    rw [take_within (of_decide_eq_true within), mem_textSorted, List.mem_map]
    simp only [List.mem_filter, Prod.exists, Bool.and_eq_true, Dict.get?_eq_some, EvaluateArguments.RowInScope,
      and_assoc, targeted, true_and]
  · rename_i untargeted
    cases loaded
    simp [untargeted]

theorem matchComponent_fields {component : Component} {row : Affected} {m : VulnerabilityMatch}
    (accepted : matchComponent pep440 component row startedAt = some m) :
    m.matchId = ⟨component.componentId, row.advisoryId⟩ ∧ m.evaluatedAt = startedAt ∧
      (m.siteId, m.assetId) = (component.siteId, component.assetId) := by
  obtain ⟨identity, -, rfl⟩ := Option.map_eq_some_iff.mp accepted
  exact ⟨rfl, rfl, rfl⟩

/-- What a completed run loaded, and the call it made. -/
structure RunOf (args : EvaluateArguments) (db : Database) (components : List Component) (prior : List String)
    (rows : List Affected) (call : ReconcileCall) : Prop where
  components_loaded : loadComponents args db.inventory = .ok components
  components_within : components.length ≤ maxEvaluationComponents
  prior_loaded : priorAdvisoryIds args db.store = .ok prior
  rows_loaded : loadAdvisoryRows args db.tables components = .ok rows
  rows_within : rows.length ≤ maxEvaluationAdvisoryRows
  found : call.found = aggregateAll (groupInto .empty (indexedMatches pep440 startedAt components rows))
  advisories : call.scopeAdvisoryIds = textSorted (args.reconciliationIds ++ prior)
  site : call.scopeSiteId = args.siteId
  asset : call.scopeAssetId = args.assetId
  component : call.scopeComponentId = args.componentId
  time : call.evaluatedAt = startedAt

theorem evaluateVulnerabilities_run {runId : String} {args : EvaluateArguments} {db : Database}
    {result : EvaluationResult}
    (evaluated : evaluateVulnerabilities pep440 startedAt runId args db = .ok result) :
    ∃ components prior rows call, RunOf pep440 startedAt args db components prior rows call ∧
      result.store = (reconcile call db.tables.states db.store).store := by
  simp only [evaluateVulnerabilities, bind_eq_ok, require_eq_ok, decide_eq_true_eq] at evaluated
  obtain ⟨_, -, _, -, _, -, components, loaded, _, within, prior, selected, rows, listed, _, fits, run⟩ := evaluated
  rw [evaluateLoaded] at run
  split at run
  · cases run
  · rename_i evaluation pairs
    cases run
    refine ⟨components, prior, rows, _, ⟨loaded, within, selected, listed, fits, ?_, rfl, rfl, rfl, rfl, rfl⟩, rfl⟩
    exact congrArg aggregateAll (evaluatePairs_groups pep440 startedAt pairs)

theorem find?_aggregateAll_none {found : List VulnerabilityMatch} {key : MatchId} :
    (aggregateAll (groupInto .empty found)).find? (·.matchId = key) = none ↔ ∀ m ∈ found, m.matchId ≠ key := by
  simp only [List.find?_eq_none, decide_eq_true_eq]
  constructor
  · intro silent m member same
    obtain ⟨top, htop, topId, bound⟩ := exists_highest found m member
    have result := (mem_results_aggregateAll found key top.matchStatus).mpr
      ⟨⟨top, htop, topId.trans same, rfl⟩, fun other hother otherId => bound other hother (otherId.trans same.symm)⟩
    obtain ⟨reported, listed, pair⟩ := result
    exact silent reported listed (congrArg Prod.fst pair)
  · intro absent reported listed same
    obtain ⟨⟨m, member, id, -⟩, -⟩ := (mem_results_aggregateAll found key reported.matchStatus).mp
      ⟨reported, listed, by rw [same]⟩
    exact absent m member id

theorem mem_aggregateAll_source {found : List VulnerabilityMatch} {m : VulnerabilityMatch}
    (reported : m ∈ aggregateAll (groupInto .empty found)) :
    ∃ source ∈ found, source.matchId = m.matchId ∧ source.evaluatedAt = m.evaluatedAt ∧
      (source.siteId, source.assetId) = (m.siteId, m.assetId) := by
  obtain ⟨id, first, rest, group, rfl⟩ := (mem_aggregateAll _ m).mp reported
  rw [get?_groupInto] at group
  split at group
  · cases group
  · have selected := (selectMatch_spec first rest).1
    rw [← Option.some.inj group] at selected
    exact ⟨selectMatch first rest, (List.mem_filter.mp selected).1, rfl, rfl, rfl⟩

theorem highest_affected {status : MatchStatus} (high : matchPrecedence .affected ≤ matchPrecedence status) :
    status = .affected := by
  cases status <;> first | rfl | (revert high; decide)

theorem reported_affected_iff {found : List VulnerabilityMatch} {key : MatchId} {m : VulnerabilityMatch}
    (reported : (aggregateAll (groupInto .empty found)).find? (·.matchId = key) = some m) :
    m.matchStatus = .affected ↔ ∃ other ∈ found, other.matchId = key ∧ other.matchStatus = .affected := by
  have listed : (key, m.matchStatus) ∈ results (aggregateAll (groupInto .empty found)) :=
    ⟨m, List.mem_of_find?_eq_some reported, by rw [reported_matchId reported]⟩
  obtain ⟨⟨top, member, id, status⟩, bound⟩ := (mem_results_aggregateAll found key m.matchStatus).mp listed
  constructor
  · intro affected
    exact ⟨top, member, id, status.trans affected⟩
  · intro ⟨other, hother, otherId, affected⟩
    exact highest_affected (affected ▸ bound other hother otherId)

variable {pep440 startedAt} {args : EvaluateArguments} {db : Database} {components : List Component}
  {prior : List String} {rows : List Affected} {call : ReconcileCall} {key : MatchId}

variable (key) in
theorem RunOf.compared (run : RunOf pep440 startedAt args db components prior rows call)
    (own : args.components = none) (ownRows : args.advisoryRows = none) (status : MatchStatus) :
    (∃ m ∈ indexedMatches pep440 startedAt components rows, m.matchId = key ∧ m.matchStatus = status) ↔
      (∃ component ∈ db.inventory.components, component.componentId = key.componentId ∧
        args.ComponentInScope component) ∧
      args.AdvisoryInScope key.advisoryId ∧ PairVerdict pep440 startedAt db key status := by
  have mem_components := loaded_components own run.components_loaded run.components_within
  obtain ⟨distinct, mem_rows⟩ := loaded_rows ownRows run.rows_loaded run.rows_within
  simp only [mem_indexedMatches pep440 startedAt distinct]
  constructor
  · intro ⟨m, ⟨component, hcomponent, row, hrow, listed, accepted⟩, id, hstatus⟩
    obtain ⟨held, inside⟩ := (mem_components component).mp hcomponent
    obtain ⟨joined, -, selected, -⟩ := (mem_rows row).mp hrow
    have pair := (matchComponent_fields pep440 startedAt accepted).1.symm.trans id
    subst pair
    exact ⟨⟨component, held, rfl, inside⟩, selected, component, held, row, joined, listed, m, accepted, id, hstatus⟩
  · intro ⟨⟨target, htarget, targetId, inside⟩, selected, component, held, row, joined, listed, m, accepted, id, hstatus⟩
    have pair := (matchComponent_fields pep440 startedAt accepted).1.symm.trans id
    subst pair
    have same : target = component := List.inj_on_of_nodup_map db.inventory.distinct htarget held targetId
    subst same
    have hcomponent := (mem_components target).mpr ⟨held, inside⟩
    have ecosystem : row.ecosystem ∈ ecosystemsOf components := by
      rw [ecosystemsOf, mem_textSorted, List.mem_filter, listed.1]
      exact ⟨List.mem_map_of_mem hcomponent, by simpa using db.inventory.named target held⟩
    have hrow := (mem_rows row).mpr ⟨joined, List.ne_nil_of_mem hcomponent, selected, .inr ecosystem⟩
    exact ⟨m, ⟨target, hcomponent, row, hrow, listed, accepted⟩, id, hstatus⟩

theorem RunOf.stamped (run : RunOf pep440 startedAt args db components prior rows call) :
    ∀ m ∈ call.found, m.evaluatedAt = call.evaluatedAt := by
  intro m member
  rw [run.found] at member
  obtain ⟨source, hsource, -, time, -⟩ := mem_aggregateAll_source member
  obtain ⟨component, -, compared⟩ := List.mem_flatMap.mp hsource
  obtain ⟨row, -, accepted⟩ := (mem_pairMatches pep440 startedAt _ _ source).mp compared
  rw [← time, run.time]
  exact (matchComponent_fields pep440 startedAt accepted).2.1

theorem RunOf.inScope_iff (run : RunOf pep440 startedAt args db components prior rows call) {row : MatchRow}
    (stored : db.store.rows.get? key = some row) :
    inScope call key row = true ↔ args.RowInScope key row ∧
      (args.targeted = true ∨ key.advisoryId ∈ args.reconcileAdvisoryIds) := by
  simp only [inScope, run.advisories, run.site, run.asset, run.component, Bool.and_eq_true, List.contains_iff_mem,
    mem_textSorted, List.mem_append, mem_reconciliationIds, mem_prior run.prior_loaded, and_assoc]
  constructor
  · rintro ⟨listed, inside⟩
    refine ⟨inside, ?_⟩
    rcases listed with asked | ⟨targeted, -⟩
    · exact .inr asked
    · exact .inl targeted
  · rintro ⟨inside, listed⟩
    refine ⟨?_, inside⟩
    rcases listed with targeted | asked
    · exact .inr ⟨targeted, key, row, stored, inside, rfl⟩
    · exact .inl asked

/-- What a completed run leaves of one pair. A targeted run whose advisory filter leaves the pair out is not described. -/
structure SoundFor (pep440 : List Char → Option V) (startedAt : Time) (args : EvaluateArguments) (db : Database)
    (after : MatchStore) (key : MatchId) : Prop where
  evaluated : args.Evaluated pep440 startedAt db key →
    ∃ row, after.rows.get? key = some row ∧
      (row.matchStatus = .affected ↔ PairVerdict pep440 startedAt db key .affected)
  outside : ∀ row, db.store.rows.get? key = some row → ¬ args.RowInScope key row →
    after.rows.get? key = some row
  retired : ∀ row, db.store.rows.get? key = some row → args.RowInScope key row →
    ¬ args.Evaluated pep440 startedAt db key →
    (args.targeted = true ∧ args.AdvisoryInScope key.advisoryId) ∨ key.advisoryId ∈ args.reconcileAdvisoryIds →
    ∃ row', after.rows.get? key = some row' ∧ row'.matchStatus = retireStatus (db.tables.states key.advisoryId)
  untargeted : ∀ row, db.store.rows.get? key = some row →
    ¬ args.Evaluated pep440 startedAt db key → args.targeted = false → key.advisoryId ∉ args.reconcileAdvisoryIds →
    after.rows.get? key = some row

theorem reconciliation_sound {runId : String} {result : EvaluationResult}
    (own : args.components = none) (ownRows : args.advisoryRows = none) (placed : db.Placed)
    (older : ∀ key row, db.store.rows.get? key = some row → row.evaluatedAt ≤ startedAt)
    (completed : evaluateVulnerabilities pep440 startedAt runId args db = .ok result) (key : MatchId) :
    SoundFor pep440 startedAt args db result.store key := by
  obtain ⟨components, prior, rows, call, run, after⟩ := evaluateVulnerabilities_run pep440 startedAt completed
  rw [after]
  have compared := fun status => run.compared key own ownRows status
  have silent_iff : call.found.find? (·.matchId = key) = none ↔ ¬ args.Evaluated pep440 startedAt db key := by
    rw [run.found, find?_aggregateAll_none]
    constructor
    · intro absent ⟨inside, selected, status, verdict⟩
      obtain ⟨m, member, id, -⟩ := (compared status).mpr ⟨inside, selected, verdict⟩
      exact absent m member id
    · intro unevaluated m member id
      obtain ⟨inside, selected, verdict⟩ := (compared m.matchStatus).mp ⟨m, member, id, rfl⟩
      exact unevaluated ⟨inside, selected, m.matchStatus, verdict⟩
  refine ⟨?_, ?_, ?_, ?_⟩
  · intro evaluated
    cases reported : call.found.find? (·.matchId = key) with
    | none => exact absurd evaluated (silent_iff.mp reported)
    | some m =>
      have stamp := (run.stamped m (List.mem_of_find?_eq_some reported)).trans run.time
      obtain ⟨row, stored, status, -⟩ := reconcile_reported db.tables.states db.store
        reported fun row here => (older key row here).trans stamp.ge
      rw [run.found] at reported
      refine ⟨row, stored, ?_⟩
      rw [status, reported_affected_iff reported, compared]
      exact ⟨fun verdict => verdict.2.2, fun verdict => ⟨evaluated.1, evaluated.2.1, verdict⟩⟩
  · intro row stored outside
    cases reported : call.found.find? (·.matchId = key) with
    | none =>
      rw [reconcile_outside reported, stored]
      intro other same
      rw [stored] at same
      cases same
      rw [← Bool.not_eq_true, run.inScope_iff stored]
      exact fun inside => outside inside.1
    | some m =>
      have evaluated : args.Evaluated pep440 startedAt db key :=
        of_not_not fun unevaluated => by rw [silent_iff.mpr unevaluated] at reported; cases reported
      obtain ⟨component, held, id, inside⟩ := evaluated.1
      have place := placed key row stored component held id
      simp only [Prod.ext_iff] at place
      refine absurd ?_ outside
      rw [EvaluateArguments.RowInScope, place.1, place.2, ← id]
      exact ⟨inside.1, inside.2.1, inside.2.2.2⟩
  · intro row stored inside unevaluated listed
    have scope : inScope call key row = true :=
      (run.inScope_iff stored).mpr ⟨inside, listed.imp_left (·.1)⟩
    obtain ⟨row', here, status, -⟩ := reconcile_retired _ (silent_iff.mpr unevaluated) stored scope
      ((older key row stored).trans run.time.ge)
    exact ⟨row', here, status⟩
  · intro row stored unevaluated untargeted unasked
    rw [reconcile_outside (silent_iff.mpr unevaluated), stored]
    intro other same
    rw [stored] at same
    cases same
    rw [← Bool.not_eq_true, run.inScope_iff stored, untargeted]
    intro inside
    rcases inside.2 with impossible | asked
    · cases impossible
    · exact unasked asked

end

def emptyInventory : Inventory := ⟨[], List.nodup_nil, fun _ impossible => by cases impossible⟩

def opensslInventory : Inventory :=
  ⟨[opensslComponent], List.nodup_singleton _, fun _ member => by rw [List.mem_singleton.mp member]; decide⟩

def opensslTables : AdvisoryTables where
  advisories := Dict.empty.set "adv" {}
  affectedComponents := [opensslRow.toAffectedComponent]
  distinct := List.nodup_singleton _
  known := by decide

/-- The match of the component with the advisory, stored as affected at time 0. -/
def affectedStore : MatchStore :=
  { rows := Dict.empty.set ⟨"cmp", "adv"⟩ (insertedRow "run" (sampleMatch .affected 0)) }

def siteRequest : EvaluateArguments := { siteId := some "site" }

theorem affectedStore_row {key : MatchId} {row : MatchRow} (stored : affectedStore.rows.get? key = some row) :
    key = ⟨"cmp", "adv"⟩ ∧ row = insertedRow "run" (sampleMatch .affected 0) := by
  simp only [affectedStore, Dict.set, Dict.get?_update, Dict.get?_empty] at stored
  split at stored
  · rename_i same
    exact ⟨same, (Option.some.inj stored).symm⟩
  · cases stored

theorem reconciliation_sound_site :
    ∃ result, evaluateVulnerabilities (fun _ => (none : Option Nat)) 1 "run" siteRequest
        ⟨opensslInventory, opensslTables, affectedStore⟩ = .ok result ∧
      SoundFor (fun _ => (none : Option Nat)) 1 siteRequest ⟨opensslInventory, opensslTables, affectedStore⟩
        result.store ⟨"cmp", "adv"⟩ := by
  refine ⟨_, rfl, reconciliation_sound rfl rfl ?_ ?_ rfl _⟩
  · intro key row stored component held _
    rw [(affectedStore_row stored).2, List.mem_singleton.mp held]
    decide
  · intro key row stored
    rw [(affectedStore_row stored).2]
    decide

/-- No active component is left in the site: no advisory row is loaded, and the affected match is retired. -/
theorem unloaded_match_retired :
    ¬ ∀ result components rows,
      evaluateVulnerabilities (fun _ => (none : Option Nat)) 1 "run" siteRequest
          ⟨emptyInventory, opensslTables, affectedStore⟩ = .ok result →
        loadComponents siteRequest emptyInventory = .ok components →
        loadAdvisoryRows siteRequest opensslTables components = .ok rows →
        ∀ key row, affectedStore.rows.get? key = some row → (∀ item ∈ rows, item.advisoryId ≠ key.advisoryId) →
          ∃ row', result.store.rows.get? key = some row' ∧ row'.matchStatus = row.matchStatus := by
  intro kept
  obtain ⟨row', stored, status⟩ := kept _ [] [] rfl rfl rfl ⟨"cmp", "adv"⟩ _ rfl (fun _ impossible => by cases impossible)
  cases stored
  revert status
  decide

end OpenAssetWatch.Vulnerability
