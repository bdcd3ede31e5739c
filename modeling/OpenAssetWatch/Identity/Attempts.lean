import OpenAssetWatch.Identity.Rules
import OpenAssetWatch.Library.Run

namespace OpenAssetWatch.Identity

open Library

section Rows

/-- What both kinds of enrollments have that counts attempts. -/
class AttemptRow (η : Type) extends Enrollment η where
  failedAttempts : η → Nat
  maxAttempts : η → Nat
  expiresAt : η → Time
  withStatus : EnrollmentStatus → η → η
  withFailure : η → η
  status_withStatus : ∀ value row, status (withStatus value row) = value
  failed_withStatus : ∀ value row, failedAttempts (withStatus value row) = failedAttempts row
  max_withStatus : ∀ value row, maxAttempts (withStatus value row) = maxAttempts row
  status_withFailure : ∀ row, status (withFailure row) = status row
  failed_withFailure : ∀ row, failedAttempts (withFailure row) = failedAttempts row + 1
  max_withFailure : ∀ row, maxAttempts (withFailure row) = maxAttempts row

open AttemptRow

attribute [simp] status_withStatus failed_withStatus max_withStatus status_withFailure failed_withFailure max_withFailure

instance : AttemptRow SensorEnrollment where
  failedAttempts := (·.failedAttempts)
  maxAttempts := (·.maxAttempts)
  expiresAt := (·.expiresAt)
  withStatus status row := { row with status }
  withFailure row := { row with failedAttempts := row.failedAttempts + 1 }
  status_withStatus _ _ := rfl
  failed_withStatus _ _ := rfl
  max_withStatus _ _ := rfl
  status_withFailure _ := rfl
  failed_withFailure _ := rfl
  max_withFailure _ := rfl

instance : AttemptRow AgentEnrollment where
  failedAttempts := (·.failedAttempts)
  maxAttempts := (·.maxAttempts)
  expiresAt := (·.expiresAt)
  withStatus status row := { row with status }
  withFailure row := { row with failedAttempts := row.failedAttempts + 1 }
  status_withStatus _ _ := rfl
  failed_withStatus _ _ := rfl
  max_withStatus _ _ := rfl
  status_withFailure _ := rfl
  failed_withFailure _ := rfl
  max_withFailure _ := rfl

/-- The second transaction of a rejected attempt, on the row that it locks. -/
def recordRejection {η : Type} [AttemptRow η] (counted : RejectionReason → Bool) (reason : RejectionReason) (row : η) : η :=
  if Enrollment.status row = .pending then
    if reason = .expired then withStatus .expired row
    else if counted reason = true then
      if maxAttempts row ≤ failedAttempts row + 1 then withStatus .revoked (withFailure row) else withFailure row
    else row
  else row

/-- A wrong secret or a wrong identity. -/
def RejectionReason.mismatches : RejectionReason → Bool
  | .tokenMismatch | .identityMismatch | .typeMismatch | .deploymentMismatch => true
  | .alreadyUsed | .inactive | .expired => false

/-- The attempts at an enrollment: what the first transaction makes of one, and which rejections the second one counts. -/
structure ExchangeProgram (η χ : Type) [AttemptRow η] where
  assess : χ → η → Option RejectionReason
  counted : RejectionReason → Bool
  pending_of_accepted : ∀ call row, assess call row = none → Enrollment.status row = .pending
  mismatches_of_counted : ∀ reason, counted reason = true → reason.mismatches = true

end Rows

section Programs

/-- An exchange of a sensor, with whether the sensor is stored for another site or type. -/
structure SensorAttempt where
  call : SensorExchange
  token : ParsedToken
  taken : Bool

/-- The first test of `exchange_sensor_enrollment` that fails. -/
def sensorReason (attempt : SensorAttempt) (row : SensorEnrollment) : Option RejectionReason :=
  if attempt.token.digest ≠ row.tokenDigest then some .tokenMismatch
  else if row.status = .used then some .alreadyUsed
  else if row.status ≠ .pending then some .inactive
  else if row.expiresAt ≤ attempt.call.now then some .expired
  else if attempt.call.sensorType ≠ row.sensorType || row.requestedSensorId.any (· ≠ attempt.call.sensorId) ||
      row.requestedSensorName.any (· ≠ attempt.call.sensorName) then some .identityMismatch
  else if attempt.taken = true then some .identityMismatch
  else none

/-- `exchange_sensor_enrollment` and `_persist_enrollment_rejection`. -/
def sensorExchanges : ExchangeProgram SensorEnrollment SensorAttempt where
  assess := sensorReason
  counted reason := reason = .tokenMismatch || reason = .identityMismatch
  pending_of_accepted attempt row accepted := by
    by_contra inactive
    revert accepted
    unfold sensorReason
    split
    · exact fun impossible => by cases impossible
    · split
      · exact fun impossible => by cases impossible
      · split
        · exact fun impossible => by cases impossible
        · exact absurd (not_not.mp ‹_›) inactive
  mismatches_of_counted reason counts := by
    cases reason with
    | tokenMismatch => rfl
    | identityMismatch => rfl
    | _ => cases counts

/-- `exchange_agent_enrollment` and `_record_exchange_rejection`. -/
def agentExchanges : ExchangeProgram AgentEnrollment (AgentExchange × ParsedToken) where
  assess attempt := exchangeReason attempt.1 attempt.2
  counted reason := reason = .tokenMismatch || reason = .deploymentMismatch
  pending_of_accepted attempt row accepted := by
    by_contra inactive
    revert accepted
    unfold exchangeReason
    split
    · exact fun impossible => by cases impossible
    · split
      · exact fun impossible => by cases impossible
      · split
        · exact fun impossible => by cases impossible
        · exact absurd (not_not.mp ‹_›) inactive
  mismatches_of_counted reason counts := by
    cases reason with
    | tokenMismatch => rfl
    | deploymentMismatch => rfl
    | _ => cases counts

end Programs

section Runs

variable {η χ : Type} [AttemptRow η]

/-- A rejected attempt between its two transactions, with whether it saw the enrollment pending. -/
structure Rejection where
  reason : RejectionReason
  pending : Bool

structure Attempts (η : Type) where
  row : η
  inFlight : List Rejection := []
  /-- The mismatching attempts that saw the enrollment pending. -/
  evaluated : Nat := 0

/-- What happens to an enrollment; every transaction locks its row at first and until its end. -/
inductive AttemptTurn (χ : Type) where
  | exchange (attempt : χ) (fails : Bool)
  | record (index : Nat)
  | expire (now : Time)
  | revoke

open AttemptRow

variable (program : ExchangeProgram η χ)

def attemptTurn (state : Attempts η) : AttemptTurn χ → Attempts η
  | .exchange attempt fails =>
    match program.assess attempt state.row with
    | some reason =>
      let pending : Bool := Enrollment.status state.row = .pending
      { state with
        inFlight := state.inFlight ++ [⟨reason, pending⟩]
        evaluated := state.evaluated + if (pending && reason.mismatches) = true then 1 else 0 }
    | none => if fails = true then state else { state with row := withStatus .used state.row }
  | .record index =>
    match state.inFlight[index]? with
    | some rejection =>
      { state with
        row := if rejection.pending = true then recordRejection program.counted rejection.reason state.row else state.row
        inFlight := state.inFlight.eraseIdx index }
    | none => state
  | .expire now =>
    if Enrollment.status state.row = .pending ∧ expiresAt state.row ≤ now then { state with row := withStatus .expired state.row }
    else state
  | .revoke => if Enrollment.status state.row = .pending then { state with row := withStatus .revoked state.row } else state

/-- The attempt enrolls. -/
def Enrolls (state : Attempts η) (turn : AttemptTurn χ) : Prop :=
  ∃ attempt, turn = .exchange attempt false ∧ program.assess attempt state.row = none

/-- The failures that are evaluated and not yet recorded. -/
def Attempts.unrecorded (state : Attempts η) : Nat :=
  state.inFlight.countP fun rejection => rejection.pending && program.counted rejection.reason

/-- A mismatch on a pending enrollment is one that is counted, and fewer failures wait to be recorded than attempts are left. -/
def WithinLimit (state : Attempts η) (turn : AttemptTurn χ) : Prop :=
  ∀ attempt fails reason, turn = .exchange attempt fails → Enrollment.status state.row = .pending →
    program.assess attempt state.row = some reason → reason.mismatches = true →
    program.counted reason = true ∧ state.unrecorded program < maxAttempts state.row - failedAttempts state.row

/-- A fresh enrollment. -/
structure Fresh (row : η) : Prop where
  pending : Enrollment.status row = .pending
  unfailed : failedAttempts row = 0
  some_attempts : 0 < maxAttempts row

/-- What the limit needs of the state: while the enrollment is pending, every mismatch is recorded or waits for it. -/
structure Attempts.Sound (state : Attempts η) : Prop where
  failed : failedAttempts state.row ≤ maxAttempts state.row
  left : Enrollment.status state.row = .pending → failedAttempts state.row < maxAttempts state.row
  evaluated : state.evaluated ≤ maxAttempts state.row
  accounted : Enrollment.status state.row = .pending → state.evaluated = failedAttempts state.row + state.unrecorded program

variable {program} {state : Attempts η}

theorem Fresh.sound {row : η} (fresh : Fresh row) : Attempts.Sound program ⟨row, [], 0⟩ where
  failed := by
    show failedAttempts row ≤ maxAttempts row
    have := fresh.some_attempts
    rw [fresh.unfailed]
    omega
  left _ := by
    show failedAttempts row < maxAttempts row
    rw [fresh.unfailed]
    exact fresh.some_attempts
  evaluated := Nat.zero_le _
  accounted _ := by
    show 0 = failedAttempts row + _
    rw [fresh.unfailed]
    rfl

theorem Attempts.Sound.close (sound : state.Sound program) {status : EnrollmentStatus} (closed : status ≠ .pending)
    (inFlight : List Rejection) : Attempts.Sound program ⟨withStatus status state.row, inFlight, state.evaluated⟩ where
  failed := by
    show failedAttempts (withStatus status state.row) ≤ maxAttempts (withStatus status state.row)
    rw [failed_withStatus, max_withStatus]
    exact sound.failed
  left pending := absurd ((status_withStatus status state.row).symm.trans pending) closed
  evaluated := by
    show state.evaluated ≤ maxAttempts (withStatus status state.row)
    rw [max_withStatus]
    exact sound.evaluated
  accounted pending := absurd ((status_withStatus status state.row).symm.trans pending) closed

theorem countP_eraseIdx {α : Type} (p : α → Bool) {items : List α} {index : Nat} {item : α} (found : items[index]? = some item) :
    items.countP p = (items.eraseIdx index).countP p + if p item = true then 1 else 0 := by
  induction items generalizing index with
  | nil => cases found
  | cons first rest hypothesis =>
    cases index with
    | zero =>
      cases found
      exact List.countP_cons
    | succ index =>
      rw [List.eraseIdx_cons_succ, List.countP_cons, List.countP_cons, hypothesis found]
      omega

theorem unrecorded_append (rejection : Rejection) :
    Attempts.unrecorded program { state with inFlight := state.inFlight ++ [rejection] } =
      state.unrecorded program + if (rejection.pending && program.counted rejection.reason) = true then 1 else 0 := by
  unfold Attempts.unrecorded
  rw [List.countP_append, List.countP_singleton]

theorem recordRejection_cases (counted : RejectionReason → Bool) (reason : RejectionReason) (row : η) :
    (∃ status, status ≠ .pending ∧ recordRejection counted reason row = withStatus status row) ∨
      (recordRejection counted reason row = row ∧ (Enrollment.status row = .pending → counted reason = false)) ∨
      counted reason = true ∧ Enrollment.status row = .pending ∧
        ((maxAttempts row ≤ failedAttempts row + 1 ∧ recordRejection counted reason row = withStatus .revoked (withFailure row)) ∨
          failedAttempts row + 1 < maxAttempts row ∧ recordRejection counted reason row = withFailure row) := by
  unfold recordRejection
  split
  · rename_i pending
    split
    · exact .inl ⟨.expired, (fun impossible => by cases impossible), rfl⟩
    · split
      · rename_i counts
        refine .inr (.inr ⟨counts, pending, ?_⟩)
        split
        · exact .inl ⟨‹_›, rfl⟩
        · exact .inr ⟨not_le.mp ‹_›, rfl⟩
      · exact .inr (.inl ⟨rfl, fun _ => Bool.eq_false_iff.mpr ‹_›⟩)
  · exact .inr (.inl ⟨rfl, fun pending => absurd pending ‹_›⟩)

theorem Attempts.Sound.exchange (sound : state.Sound program) {attempt : χ} {fails : Bool}
    (within : WithinLimit program state (.exchange attempt fails)) :
    (attemptTurn program state (.exchange attempt fails)).Sound program := by
  unfold attemptTurn
  dsimp only
  cases assessed : program.assess attempt state.row with
  | none =>
    dsimp only
    split
    · exact sound
    · exact sound.close (fun impossible => by cases impossible) _
  | some reason =>
    by_cases mismatch : Enrollment.status state.row = .pending ∧ reason.mismatches = true
    · obtain ⟨counts, room⟩ := within attempt fails reason rfl mismatch.1 assessed mismatch.2
      have accounted := sound.accounted mismatch.1
      have pending : decide (Enrollment.status state.row = .pending) = true := decide_eq_true mismatch.1
      dsimp only
      rw [pending, mismatch.2]
      refine ⟨sound.failed, sound.left, ?_, ?_⟩
      · show state.evaluated + 1 ≤ maxAttempts state.row
        omega
      · intro _
        show state.evaluated + 1 = failedAttempts state.row + Attempts.unrecorded program { state with inFlight := _ }
        rw [unrecorded_append, counts]
        show state.evaluated + 1 = failedAttempts state.row + (state.unrecorded program + 1)
        omega
    · have unseen : (decide (Enrollment.status state.row = .pending) && reason.mismatches) = false := by
        apply Bool.eq_false_iff.mpr
        intro both
        obtain ⟨pending, mismatches⟩ := Bool.and_eq_true_iff.mp both
        exact mismatch ⟨of_decide_eq_true pending, mismatches⟩
      dsimp only
      rw [unseen]
      refine ⟨sound.failed, sound.left, sound.evaluated, ?_⟩
      intro pending
      show state.evaluated = failedAttempts state.row + Attempts.unrecorded program { state with inFlight := _ }
      have uncounted : program.counted reason = false := by
        apply Bool.eq_false_iff.mpr
        intro counts
        exact mismatch ⟨pending, program.mismatches_of_counted reason counts⟩
      rw [unrecorded_append, uncounted, Bool.and_false]
      exact sound.accounted pending

theorem Attempts.Sound.record (sound : state.Sound program) (index : Nat) :
    (attemptTurn program state (.record index)).Sound program := by
  unfold attemptTurn
  dsimp only
  cases found : state.inFlight[index]? with
  | none => exact sound
  | some rejection =>
    have counts := countP_eraseIdx (fun rejection => rejection.pending && program.counted rejection.reason) found
    dsimp only
    cases seen : rejection.pending with
    | false =>
      rw [seen] at counts
      refine ⟨sound.failed, sound.left, sound.evaluated, ?_⟩
      intro pending
      exact (sound.accounted pending).trans (congrArg _ counts)
    | true =>
      rw [seen, Bool.true_and] at counts
      rw [if_pos rfl]
      rcases recordRejection_cases program.counted rejection.reason state.row with
        ⟨status, closed, same⟩ | ⟨same, uncounted⟩ | ⟨counted, pending, ⟨_, same⟩ | ⟨room, same⟩⟩
      · rw [same]
        exact sound.close closed _
      · rw [same]
        refine ⟨sound.failed, sound.left, sound.evaluated, ?_⟩
        intro pending
        rw [uncounted pending] at counts
        exact (sound.accounted pending).trans (congrArg _ counts)
      · have left := sound.left pending
        rw [same]
        apply Attempts.Sound.mk
        · show failedAttempts (withStatus .revoked (withFailure state.row)) ≤ maxAttempts (withStatus .revoked (withFailure state.row))
          rw [failed_withStatus, max_withStatus, failed_withFailure, max_withFailure]
          exact left
        · intro impossible
          rw [status_withStatus] at impossible
          cases impossible
        · show state.evaluated ≤ maxAttempts (withStatus .revoked (withFailure state.row))
          rw [max_withStatus, max_withFailure]
          exact sound.evaluated
        · intro impossible
          rw [status_withStatus] at impossible
          cases impossible
      · rw [same]
        apply Attempts.Sound.mk
        · show failedAttempts (withFailure state.row) ≤ maxAttempts (withFailure state.row)
          rw [failed_withFailure, max_withFailure]
          exact room.le
        · intro _
          show failedAttempts (withFailure state.row) < maxAttempts (withFailure state.row)
          rw [failed_withFailure, max_withFailure]
          exact room
        · show state.evaluated ≤ maxAttempts (withFailure state.row)
          rw [max_withFailure]
          exact sound.evaluated
        · intro _
          show state.evaluated = failedAttempts (withFailure state.row) + _
          rw [counted] at counts
          have accounted := sound.accounted pending
          rw [failed_withFailure]
          unfold Attempts.unrecorded at accounted ⊢
          rw [counts, if_pos rfl] at accounted
          dsimp only
          omega

theorem Attempts.Sound.turn (sound : state.Sound program) {turn : AttemptTurn χ} (within : WithinLimit program state turn) :
    (attemptTurn program state turn).Sound program := by
  cases turn with
  | exchange attempt fails => exact sound.exchange within
  | record index => exact sound.record index
  | expire now =>
    unfold attemptTurn
    dsimp only
    split
    · exact sound.close (fun impossible => by cases impossible) _
    · exact sound
  | revoke =>
    unfold attemptTurn
    dsimp only
    split
    · exact sound.close (fun impossible => by cases impossible) _
    · exact sound

theorem turn_closed (closed : Enrollment.status state.row ≠ .pending) (turn : AttemptTurn χ) :
    Enrollment.status (attemptTurn program state turn).row ≠ .pending := by
  cases turn with
  | exchange attempt fails =>
    unfold attemptTurn
    dsimp only
    split
    · exact closed
    · split
      · exact closed
      · show Enrollment.status (withStatus .used state.row) ≠ .pending
        rw [status_withStatus]
        exact fun impossible => by cases impossible
  | record index =>
    unfold attemptTurn
    dsimp only
    split
    · show Enrollment.status (if _ then _ else _) ≠ .pending
      split
      · rw [recordRejection, if_neg closed]
        exact closed
      · exact closed
    · exact closed
  | expire now =>
    unfold attemptTurn
    dsimp only
    rw [if_neg (fun both => closed both.1)]
    exact closed
  | revoke =>
    unfold attemptTurn
    dsimp only
    rw [if_neg closed]
    exact closed

theorem turns_closed (closed : Enrollment.status state.row ≠ .pending) (turns : List (AttemptTurn χ)) :
    Enrollment.status (turns.foldl (attemptTurn program) state).row ≠ .pending := by
  induction turns generalizing state with
  | nil => exact closed
  | cons turn rest hypothesis => exact hypothesis (turn_closed closed turn)

/-- No more mismatches than allowed are evaluated or recorded, and no attempt succeeds once the enrollment is closed. -/
structure LimitKept (program : ExchangeProgram η χ) (start : Attempts η) (turns : List (AttemptTurn χ)) : Prop where
  evaluated : ∀ done rest, turns = done ++ rest →
    (done.foldl (attemptTurn program) start).evaluated ≤ maxAttempts (done.foldl (attemptTurn program) start).row
  failed : ∀ done rest, turns = done ++ rest →
    failedAttempts (done.foldl (attemptTurn program) start).row ≤ maxAttempts (done.foldl (attemptTurn program) start).row
  closed : ∀ done between turn rest, turns = done ++ between ++ turn :: rest →
    Enrollment.status (done.foldl (attemptTurn program) start).row ≠ .pending →
    ¬Enrolls program ((done ++ between).foldl (attemptTurn program) start) turn

theorem limitKept_of_within {row : η} (fresh : Fresh row) {turns : List (AttemptTurn χ)}
    (within : Run.Along (attemptTurn program) (WithinLimit program) ⟨row, [], 0⟩ turns) : LimitKept program ⟨row, [], 0⟩ turns := by
  have sound : ∀ done rest, turns = done ++ rest → (done.foldl (attemptTurn program) ⟨row, [], 0⟩).Sound program := by
    intro done rest split
    rw [split] at within
    have before := ((Run.along_append _ _ _).mp within).1
    exact Run.invariant_end (Attempts.Sound program) (fun _ _ sound within => sound.turn within) fresh.sound before
  apply LimitKept.mk
  · exact fun done rest split => (sound done rest split).evaluated
  · exact fun done rest split => (sound done rest split).failed
  · intro done between turn rest _ closed enrolls
    obtain ⟨attempt, _, accepted⟩ := enrolls
    apply turns_closed closed between
    rw [← List.foldl_append]
    exact program.pending_of_accepted attempt _ accepted

end Runs

section Kinds

/-- An enrollment with the limit that is set by default. -/
def freshEnrollment : SensorEnrollment where
  siteId := "site"
  sensorType := "passive-network-sensor"
  tokenLookupId := "lookup"
  tokenDigest := "digest"
  status := .pending
  expiresAt := 1

def wrongSecret : AttemptTurn SensorAttempt :=
  .exchange ⟨⟨none, "sensor", "sensor", "passive-network-sensor", ⟨"credential", "lookup", "digest"⟩, 0⟩, ⟨"lookup", "other"⟩, false⟩ false

end Kinds

end OpenAssetWatch.Identity
