import OpenAssetWatch.Vulnerability.Store

namespace OpenAssetWatch.Vulnerability

open Library

/-- One stored match with its own history, oldest entry first. -/
structure Cell where
  row : Option MatchRow := none
  history : List HistoryEntry := []

def MatchStore.cell (store : MatchStore) (key : MatchId) : Cell :=
  ⟨store.rows.get? key, store.history.filter (·.matchId = key)⟩

section

variable (call : ReconcileCall) (advisories : Advisories)

def matchCell (m : VulnerabilityMatch) (cell : Cell) : Cell :=
  match upsertedRow call.runId cell.row m with
  | none => cell
  | some row =>
    ⟨some row, if materialChange call advisories cell.row m then
      cell.history ++ [matchHistory call advisories cell.row m] else cell.history⟩

def Retires (key : MatchId) (row : MatchRow) : Prop :=
  inScope call key row = true ∧ row.matchStatus ≠ retireStatus (advisories key.advisoryId) ∧
    row.evaluatedAt ≤ call.evaluatedAt

instance (key : MatchId) (row : MatchRow) : Decidable (Retires call advisories key row) := by
  unfold Retires; infer_instance

def retireCell (key : MatchId) (cell : Cell) : Cell :=
  match cell.row with
  | none => cell
  | some row =>
    if Retires call advisories key row then
      ⟨some (retiredRow call advisories key row), cell.history ++ [retireHistory call advisories key row]⟩
    else
      cell

variable {call advisories} in
theorem retireCell_kept {key : MatchId} {cell : Cell}
    (kept : ∀ row, cell.row = some row → ¬ Retires call advisories key row) :
    retireCell call advisories key cell = cell := by
  cases stored : cell.row with
  | none => simp only [retireCell, stored]
  | some row => simp only [retireCell, stored, if_neg (kept row stored)]

variable {call advisories} in
theorem retireCell_retired {key : MatchId} {cell : Cell} {row : MatchRow} (stored : cell.row = some row)
    (retires : Retires call advisories key row) :
    retireCell call advisories key cell =
      ⟨some (retiredRow call advisories key row), cell.history ++ [retireHistory call advisories key row]⟩ := by
  simp only [retireCell, stored, if_pos retires]

/-- What one call does to one pair: a reported match is upserted, any other stored row may be retired. -/
def cellAfter (key : MatchId) (cell : Cell) : Cell :=
  match call.found.find? (·.matchId = key) with
  | some m => matchCell call advisories m cell
  | none => retireCell call advisories key cell

theorem applyMatch_same (state : Reconciliation) (m : VulnerabilityMatch) :
    (applyMatch call advisories state m).store.cell m.matchId =
      matchCell call advisories m (state.store.cell m.matchId) := by
  simp only [applyMatch, matchCell, MatchStore.cell]
  cases upsertedRow call.runId (state.store.rows.get? m.matchId) m with
  | none => rfl
  | some row =>
    by_cases material : materialChange call advisories (state.store.rows.get? m.matchId) m = true
    · simp [material, Dict.set, List.filter_append, matchHistory]
    · simp [material, Dict.set]

theorem applyMatch_other (state : Reconciliation) (m : VulnerabilityMatch) {key : MatchId}
    (different : key ≠ m.matchId) :
    (applyMatch call advisories state m).store.cell key = state.store.cell key := by
  have logged : (matchHistory call advisories (state.store.rows.get? m.matchId) m).matchId ≠ key :=
    fun same => different same.symm
  simp only [applyMatch, MatchStore.cell]
  split
  · rfl
  · split
    · simp [Dict.set, Dict.get?_update_ne _ different, List.filter_append, logged]
    · simp [Dict.set, Dict.get?_update_ne _ different]

theorem upserts_cell (store : MatchStore) (key : MatchId) :
    (call.found.foldl (applyMatch call advisories) { store }).store.cell key =
      (call.found.find? (·.matchId = key)).elim (store.cell key)
        (matchCell call advisories · (store.cell key)) :=
  foldl_at_key (fun key (state : Reconciliation) => state.store.cell key)
    (fun m : VulnerabilityMatch => m.matchId)
    (applyMatch call advisories) (matchCell call advisories)
    (applyMatch_same call advisories) (fun state m _ => applyMatch_other call advisories state m)
    call.found call.distinct { store } key

/-- The turn of the stale loop for a row selected before the loop. -/
def staleTurn (stale : MatchId × MatchRow) (cell : Cell) : Cell :=
  if (call.found.map (·.matchId)).contains stale.1 then cell
  else if stale.2.matchStatus = retireStatus (advisories stale.1.advisoryId) then cell
  else
    match cell.row with
    | none => cell
    | some row =>
      if row.evaluatedAt ≤ call.evaluatedAt then
        ⟨some (retiredRow call advisories stale.1 row),
          cell.history ++ [retireHistory call advisories stale.1 stale.2]⟩
      else
        cell

theorem retire_same (state : Reconciliation) (stale : MatchId × MatchRow) :
    (retire call advisories state stale).store.cell stale.1 =
      staleTurn call advisories stale (state.store.cell stale.1) := by
  simp only [retire, staleTurn]
  split
  · rfl
  · split
    · rfl
    · simp only [MatchStore.cell]
      cases stored : state.store.rows.get? stale.1 with
      | none => simp only [stored]
      | some row =>
        by_cases older : row.evaluatedAt ≤ call.evaluatedAt
        · simp [older, Dict.set, List.filter_append, retireHistory]
        · simp only [older, if_false, stored]

theorem retire_other (state : Reconciliation) (stale : MatchId × MatchRow) {key : MatchId}
    (different : key ≠ stale.1) :
    (retire call advisories state stale).store.cell key = state.store.cell key := by
  have logged : (retireHistory call advisories stale.1 stale.2).matchId ≠ key :=
    fun same => different same.symm
  simp only [retire]
  split
  · rfl
  · split
    · rfl
    · split
      · rfl
      · split
        · simp [MatchStore.cell, Dict.set, Dict.get?_update_ne _ different, List.filter_append, logged]
        · rfl

theorem retires_cell (state : Reconciliation) (key : MatchId) :
    ((state.store.rows.entries.filter fun (key, row) => inScope call key row).foldl
        (retire call advisories) state).store.cell key =
      if (call.found.map (·.matchId)).contains key then state.store.cell key
      else retireCell call advisories key (state.store.cell key) := by
  have loop := foldl_at_key (fun key (state : Reconciliation) => state.store.cell key) Prod.fst
    (retire call advisories) (staleTurn call advisories) (retire_same call advisories)
    (fun state stale _ => retire_other call advisories state stale)
    (state.store.rows.entries.filter fun (key, row) => inScope call key row)
    (Dict.nodup_filter_keys _ _) state key
  rw [Dict.find?_filter_entries] at loop
  have stored : state.store.rows.get? key = (state.store.cell key).row := rfl
  rw [loop, stored]
  cases row : (state.store.cell key).row with
  | none =>
    rw [retireCell_kept fun _ impossible => by rw [row] at impossible; cases impossible]
    exact (ite_self _).symm
  | some row' =>
    rw [Option.bind_some]
    by_cases inside : inScope call key row' = true
    · rw [if_pos inside, Option.elim_some]
      by_cases listed : (call.found.map (·.matchId)).contains key = true
      · rw [staleTurn, if_pos listed, if_pos listed]
      · rw [if_neg listed]
        by_cases retires : Retires call advisories key row'
        · rw [retireCell_retired row retires]
          simp only [staleTurn, if_neg listed, if_neg retires.2.1, row, if_pos retires.2.2]
        · rw [retireCell_kept fun other same => by rw [row] at same; cases same; exact retires]
          by_cases settled : row'.matchStatus = retireStatus (advisories key.advisoryId)
          · simp only [staleTurn, if_pos settled, ite_self]
          · have newer : ¬ row'.evaluatedAt ≤ call.evaluatedAt :=
              fun older => retires ⟨inside, settled, older⟩
            simp only [staleTurn, if_neg listed, if_neg settled, row, if_neg newer]
    · rw [if_neg inside, Option.elim_none]
      rw [retireCell_kept fun other same => by rw [row] at same; cases same; exact fun h => inside h.1]
      exact (ite_self _).symm

theorem find?_listed (key : MatchId) :
    (call.found.map (·.matchId)).contains key = (call.found.find? (·.matchId = key)).isSome := by
  rw [Bool.eq_iff_iff, List.contains_iff_mem, List.find?_isSome, List.mem_map]
  simp

theorem reconcile_cell (store : MatchStore) (key : MatchId) :
    (reconcile call advisories store).store.cell key = cellAfter call advisories key (store.cell key) := by
  simp only [reconcile]
  rw [retires_cell, upserts_cell, find?_listed, cellAfter]
  cases call.found.find? (·.matchId = key) <;> rfl

variable {call advisories} {store : MatchStore} {key : MatchId}

omit call advisories in
theorem reported_matchId {found : List VulnerabilityMatch} {m : VulnerabilityMatch}
    (reported : found.find? (·.matchId = key) = some m) : m.matchId = key := by
  simpa using List.find?_some reported

theorem reconcile_row : (reconcile call advisories store).store.rows.get? key =
    (cellAfter call advisories key (store.cell key)).row :=
  congrArg Cell.row (reconcile_cell call advisories store key)

variable (advisories store) in
theorem reconcile_reported {m : VulnerabilityMatch} (reported : call.found.find? (·.matchId = key) = some m)
    (older : ∀ row, store.rows.get? key = some row → row.evaluatedAt ≤ m.evaluatedAt) :
    ∃ after, (reconcile call advisories store).store.rows.get? key = some after ∧
      after.matchStatus = m.matchStatus ∧ after.evaluatedAt = m.evaluatedAt ∧
      (after.siteId, after.assetId) =
        ((store.rows.get? key).map fun row => (row.siteId, row.assetId)).getD (m.siteId, m.assetId) := by
  have here : (store.cell key).row = store.rows.get? key := rfl
  rw [reconcile_row, cellAfter, reported]
  cases stored : store.rows.get? key with
  | none =>
    refine ⟨insertedRow call.runId m, ?_, rfl, rfl, rfl⟩
    simp only [matchCell, here, stored, upsertedRow]
  | some row =>
    refine ⟨updatedRow call.runId row m, ?_, rfl, rfl, rfl⟩
    simp only [matchCell, here, stored, upsertedRow, if_pos (older row stored)]

theorem reconcile_outside (silent : call.found.find? (·.matchId = key) = none)
    (outside : ∀ row, store.rows.get? key = some row → inScope call key row = false) :
    (reconcile call advisories store).store.rows.get? key = store.rows.get? key := by
  rw [reconcile_row, cellAfter, silent]
  refine congrArg Cell.row (retireCell_kept fun row stored retires => ?_)
  exact Bool.false_ne_true ((outside row stored).symm.trans retires.1)

variable (advisories) in
theorem reconcile_retired {row : MatchRow} (silent : call.found.find? (·.matchId = key) = none)
    (stored : store.rows.get? key = some row) (inside : inScope call key row = true)
    (older : row.evaluatedAt ≤ call.evaluatedAt) :
    ∃ after, (reconcile call advisories store).store.rows.get? key = some after ∧
      after.matchStatus = retireStatus (advisories key.advisoryId) ∧ after.evaluatedAt ≤ call.evaluatedAt ∧
      (after.siteId, after.assetId) = (row.siteId, row.assetId) := by
  have here : (store.cell key).row = some row := stored
  rw [reconcile_row, cellAfter, silent]
  by_cases settled : row.matchStatus = retireStatus (advisories key.advisoryId)
  · refine ⟨row, ?_, settled, older, rfl⟩
    rw [retireCell_kept, here]
    intro other same retires
    rw [here] at same
    cases same
    exact retires.2.1 settled
  · refine ⟨retiredRow call advisories key row, ?_, rfl, le_refl _, rfl⟩
    rw [retireCell_retired here ⟨inside, settled, older⟩]

theorem reconcile_newer {row : MatchRow} (stamped : ∀ m ∈ call.found, m.evaluatedAt = call.evaluatedAt)
    (stored : store.rows.get? key = some row) (newer : call.evaluatedAt < row.evaluatedAt) :
    (reconcile call advisories store).store.rows.get? key = some row := by
  have here : (store.cell key).row = some row := stored
  have late : ¬ row.evaluatedAt ≤ call.evaluatedAt := not_le.mpr newer
  rw [reconcile_row, cellAfter]
  cases reported : call.found.find? (·.matchId = key) with
  | some m =>
    have stamp := stamped m (List.mem_of_find?_eq_some reported)
    simp only [matchCell, here, upsertedRow, stamp, if_neg late]
  | none =>
    rw [retireCell_kept, here]
    intro other same retires
    rw [here] at same
    cases same
    exact late retires.2.2

end

end OpenAssetWatch.Vulnerability
