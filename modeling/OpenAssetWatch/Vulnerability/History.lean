import OpenAssetWatch.Library.Run
import OpenAssetWatch.Vulnerability.StoreRows

namespace OpenAssetWatch.Vulnerability

open Library Library.Run

/-- The status, version and advisory checksum that a history entry leaves a match with. -/
structure Recorded where
  status : MatchStatus
  version : Option String
  checksum : Option String
deriving DecidableEq

def HistoryEntry.before (entry : HistoryEntry) : Option MatchStatus × Option String × Option String :=
  (entry.previousStatus, entry.previousVersion, entry.previousAdvisoryChecksum)

def HistoryEntry.after (entry : HistoryEntry) : Recorded :=
  ⟨entry.currentStatus, entry.currentVersion, entry.currentAdvisoryChecksum⟩

/-- `next` continues from the values that `entry` ended with. -/
def Continues (entry next : HistoryEntry) : Prop :=
  next.before = (some entry.after.status, entry.after.version, entry.after.checksum)

instance (entry next : HistoryEntry) : Decidable (Continues entry next) := by
  unfold Continues; infer_instance

def Cell.lastRecorded (cell : Cell) : Option Recorded := cell.history.getLast?.map (·.after)

/-- The history is a chain, and it ends with the stored status and version. -/
structure Cell.Faithful (cell : Cell) : Prop where
  chain : cell.history.IsChain Continues
  fresh : cell.row = none → cell.history = []
  stored : ∀ row, cell.row = some row →
    ∃ recorded, cell.lastRecorded = some recorded ∧
      recorded.status = row.matchStatus ∧ recorded.version = row.installedVersion

section

variable (call : ReconcileCall) (advisories : Advisories)

def joinedChecksum (key : MatchId) : String := (advisories key.advisoryId).checksum

/-- The values under which the call writes the pair, if it writes it. -/
def appliedUnder (key : MatchId) (cell : Cell) : Option Recorded :=
  match call.found.find? (·.matchId = key) with
  | some m =>
    (upsertedRow call.runId cell.row m).map fun _ =>
      ⟨m.matchStatus, m.installedVersion, some (currentChecksum call m.advisoryId)⟩
  | none =>
    match cell.row with
    | none => none
    | some row =>
      if Retires call advisories key row then
        some ⟨retireStatus (advisories key.advisoryId), row.installedVersion,
          some (joinedChecksum advisories key)⟩
      else
        none

/-- An evaluation applied under changed values appends exactly one entry. -/
def AppendsOnChange (key : MatchId) (cell : Cell) : Prop :=
  ∀ values, appliedUnder call advisories key cell = some values → cell.lastRecorded ≠ some values →
    ∃ entry, (cellAfter call advisories key cell).history = cell.history ++ [entry]

/-- A stored row that the call writes was last recorded under the checksum the advisory has now. -/
def ChecksumCurrent (key : MatchId) (cell : Cell) : Prop :=
  ∀ row, cell.row = some row → (appliedUnder call advisories key cell).isSome →
    cell.lastRecorded.bind (·.checksum) = some (joinedChecksum advisories key)

/-- What the next history entry takes as the previous values: the row, and the advisory as it is now. -/
def previousValues (key : MatchId) (cell : Cell) : Option MatchStatus × Option String × Option String :=
  (cell.row.map (·.matchStatus), cell.row.bind (·.installedVersion),
    cell.row.map fun _ => joinedChecksum advisories key)

def MatchRow.Shows (row : MatchRow) (values : Recorded) : Prop :=
  values.status = row.matchStatus ∧ values.version = row.installedVersion

variable {call advisories} in
variable (call) in
theorem upsertedRow_shows {previous : Option MatchRow} {m : VulnerabilityMatch} {row : MatchRow}
    (written : upsertedRow call.runId previous m = some row) (checksum : Option String) :
    row.Shows ⟨m.matchStatus, m.installedVersion, checksum⟩ := by
  unfold upsertedRow at written
  split at written
  · cases written
    exact ⟨rfl, rfl⟩
  · split at written
    · cases written
      exact ⟨rfl, rfl⟩
    · cases written

theorem cellAfter_cases (key : MatchId) (cell : Cell) :
    (appliedUnder call advisories key cell = none ∧ cellAfter call advisories key cell = cell) ∨
    (∃ values row entry, appliedUnder call advisories key cell = some values ∧
      cellAfter call advisories key cell = ⟨some row, cell.history ++ [entry]⟩ ∧ row.Shows values ∧
      entry.after = values ∧ entry.before = previousValues advisories key cell) ∨
    (∃ values row previous, appliedUnder call advisories key cell = some values ∧
      cellAfter call advisories key cell = ⟨some row, cell.history⟩ ∧ row.Shows values ∧
      cell.row = some previous ∧ previous.Shows values ∧
      values.checksum = some (joinedChecksum advisories key)) := by
  unfold appliedUnder cellAfter
  cases reported : call.found.find? (·.matchId = key) with
  | none =>
    cases stored : cell.row with
    | none => exact .inl ⟨rfl, retireCell_kept fun _ h => by rw [stored] at h; cases h⟩
    | some row =>
      by_cases retires : Retires call advisories key row
      · right; left
        refine ⟨_, _, _, if_pos retires, retireCell_retired stored retires, ⟨rfl, rfl⟩, rfl, ?_⟩
        simp only [previousValues, stored]
        rfl
      · exact .inl ⟨if_neg retires, retireCell_kept fun _ h => by rw [stored] at h; cases h; exact retires⟩
  | some m =>
    have same : m.matchId = key := by simpa using List.find?_some reported
    subst same
    simp only [matchCell]
    cases written : upsertedRow call.runId cell.row m with
    | none => exact .inl ⟨rfl, rfl⟩
    | some row =>
      right
      have shows := upsertedRow_shows call written (some (currentChecksum call m.advisoryId))
      by_cases material : materialChange call advisories cell.row m = true
      · left
        refine ⟨_, _, _, rfl, by rw [if_pos material], shows, rfl, ?_⟩
        rfl
      · right
        cases stored : cell.row with
        | none => rw [stored] at material; exact absurd rfl material
        | some previous =>
          rw [stored] at material
          simp only [materialChange, Bool.or_eq_true, bne_iff_ne, ne_eq, not_or, not_not] at material
          refine ⟨_, row, previous, rfl, ?_, shows, rfl, ⟨material.1.1.symm, material.1.2.symm⟩, ?_⟩
          · simp [materialChange, material]
          · exact congrArg some material.2.symm

theorem Cell.Faithful.recorded {cell : Cell} (faithful : cell.Faithful) {row : MatchRow}
    (stored : cell.row = some row) :
    ∃ last, cell.history.getLast? = some last ∧ row.Shows last.after := by
  obtain ⟨recorded, here, shows⟩ := faithful.stored row stored
  obtain ⟨last, hlast, rfl⟩ := Option.map_eq_some_iff.mp here
  exact ⟨last, hlast, shows⟩

theorem appended_faithful_iff {key : MatchId} {cell : Cell} (faithful : cell.Faithful) {row previous : MatchRow}
    {entry : HistoryEntry} (stored : cell.row = some previous) (shows : row.Shows entry.after)
    (before : entry.before = previousValues advisories key cell) :
    (Cell.mk (some row) (cell.history ++ [entry])).Faithful ↔
      cell.lastRecorded.bind (·.checksum) = some (joinedChecksum advisories key) := by
  obtain ⟨last, hlast, status, version⟩ := faithful.recorded stored
  have checksums : cell.lastRecorded.bind (·.checksum) = last.after.checksum := by
    rw [Cell.lastRecorded, hlast]
    rfl
  have continues : Continues last entry ↔ last.after.checksum = some (joinedChecksum advisories key) := by
    rw [Continues, before, previousValues, stored, status, version]
    simp only [Option.map_some, Option.bind_some, Prod.mk.injEq, true_and]
    exact eq_comm
  rw [checksums, ← continues]
  constructor
  · intro after
    have chain := (List.isChain_append.mp after.chain).2.2
    exact chain last hlast entry rfl
  · intro link
    refine ⟨List.isChain_append.mpr ⟨faithful.chain, List.isChain_singleton _, ?_⟩, fun h => (by cases h), ?_⟩
    · intro x hx y hy
      rw [hlast] at hx
      cases hx
      cases hy
      exact link
    · intro row' same
      cases same
      exact ⟨entry.after, by simp [Cell.lastRecorded], shows⟩

theorem cell_faithful_iff (key : MatchId) {cell : Cell} (faithful : cell.Faithful) :
    ((cellAfter call advisories key cell).Faithful ∧ AppendsOnChange call advisories key cell) ↔
      ChecksumCurrent call advisories key cell := by
  rcases cellAfter_cases call advisories key cell with
    ⟨idle, same⟩ | ⟨values, row, entry, applied, same, shows, after, before⟩ |
    ⟨values, row, previous, applied, same, shows, stored, unchanged, checksum⟩
  · rw [same]
    refine ⟨fun _ _ _ applied => ?_, fun _ => ⟨faithful, fun values applied => ?_⟩⟩
    · rw [idle] at applied
      cases applied
    · rw [idle] at applied
      cases applied
  · have appends : AppendsOnChange call advisories key cell := fun _ _ _ => ⟨entry, by rw [same]⟩
    rw [← after] at shows
    cases stored : cell.row with
    | none =>
      have start := faithful.fresh stored
      refine ⟨fun _ row' impossible => ?_, fun _ => ⟨?_, appends⟩⟩
      · rw [stored] at impossible
        cases impossible
      rw [same, start]
      refine ⟨List.isChain_singleton _, fun h => (by cases h), fun row' here => ?_⟩
      cases here
      exact ⟨entry.after, rfl, shows⟩
    | some previous =>
      rw [same, appended_faithful_iff advisories faithful stored shows before]
      refine ⟨fun h _ _ _ => h.1, fun current => ⟨current previous stored (by rw [applied]; rfl), appends⟩⟩
  · obtain ⟨last, hlast, status, version⟩ := faithful.recorded stored
    have recorded : cell.lastRecorded = some last.after := by rw [Cell.lastRecorded, hlast]; rfl
    have kept : (cellAfter call advisories key cell).Faithful := by
      rw [same]
      refine ⟨faithful.chain, fun h => (by cases h), fun row' here => ?_⟩
      cases here
      refine ⟨last.after, recorded, ?_, ?_⟩
      · rw [status, ← unchanged.1, shows.1]
      · rw [version, ← unchanged.2, shows.2]
    constructor
    · rintro ⟨-, appends⟩ row' _ _
      rw [recorded, Option.bind_some]
      by_contra different
      have changed : cell.lastRecorded ≠ some values := by
        rw [recorded]
        intro h
        exact different (by rw [Option.some.inj h, checksum])
      obtain ⟨entry, grown⟩ := appends values applied changed
      rw [same] at grown
      exact absurd (congrArg List.length grown) (by simp)
    · intro current
      refine ⟨kept, fun values' applied' changed => absurd ?_ changed⟩
      have here := current previous stored (by rw [applied]; rfl)
      rw [recorded, Option.bind_some] at here
      rw [applied] at applied'
      cases applied'
      rw [recorded]
      refine congrArg some ?_
      cases hafter : last.after with
      | mk status' version' checksum' =>
        rw [hafter] at status version here
        cases values
        simp only [Recorded.mk.injEq]
        exact ⟨status.trans unchanged.1.symm, version.trans unchanged.2.symm, here.trans checksum.symm⟩

end

/-- A step of the run: the advisories as they are by then, and a reconciliation. -/
abbrev ReconcileStep := Advisories × ReconcileCall

def reconcileStep (store : MatchStore) (step : ReconcileStep) : MatchStore :=
  (reconcile step.2 step.1 store).store

/-- Every pair's history is a chain that ends with its row, and this step appended what it had to. -/
def FaithfulStep (store : MatchStore) (step : ReconcileStep) : Prop :=
  ∀ key, ((reconcileStep store step).cell key).Faithful ∧ AppendsOnChange step.2 step.1 key (store.cell key)

def ChecksumsCurrent (store : MatchStore) (step : ReconcileStep) : Prop :=
  ∀ key, ChecksumCurrent step.2 step.1 key (store.cell key)

theorem history_faithful_iff (steps : List ReconcileStep) :
    Along reconcileStep FaithfulStep {} steps ↔ Along reconcileStep ChecksumsCurrent {} steps := by
  refine along_congr (fun store => ∀ key, (store.cell key).Faithful) ?_ ?_ ?_ (along_true _ steps)
  · intro store step faithful _
    refine forall_congr' fun key => ?_
    rw [← cell_faithful_iff step.2 step.1 key (faithful key), reconcileStep, reconcile_cell]
  · intro store step _ _ here key
    exact (here key).1
  · intro key
    exact ⟨List.isChain_nil, fun _ => rfl, fun _ impossible => by cases impossible⟩

def sampleMatch (status : MatchStatus) (evaluatedAt : Time) : VulnerabilityMatch :=
  { matchId := ⟨"cmp", "adv"⟩, siteId := "site", assetId := "asset", affectedId := "aff", matchStatus := status
    matchConfidence := 1, matchedIdentifier := some "pkg:deb/openssl", installedVersion := some "1.0"
    affectedRange := none, fixedVersion := none, evaluatedAt, evidenceIds := [], reasonCodes := [] }

def sampleStep (status : MatchStatus) (evaluatedAt : Time) (checksum : String) : ReconcileStep :=
  (fun _ => ⟨true, checksum⟩,
    { runId := "run", found := [sampleMatch status evaluatedAt]
      advisoryChecksums := .set .empty "adv" checksum, evaluatedAt, distinct := by simp })

/-- The advisory changes between two evaluations: the second entry claims its new checksum as the previous one. -/
theorem history_chain_broken :
    ¬ Along reconcileStep FaithfulStep {}
      [sampleStep .affected 1 "before", sampleStep .fixed 2 "after"] := by
  intro run
  have chain := (run.2.1 ⟨"cmp", "adv"⟩).1.chain
  revert chain
  decide

end OpenAssetWatch.Vulnerability
