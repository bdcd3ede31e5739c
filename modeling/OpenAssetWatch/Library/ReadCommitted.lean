import OpenAssetWatch.Library.LockTable
import OpenAssetWatch.Library.Run

namespace Library.ReadCommitted

/-- The statements of a database session, one after another. A read sees what others have committed under the changes of its own
transaction, a lock waits for whoever holds it, and a change shows to others when it is committed. A read has a name where runs are
told apart by what it finds. -/
inductive Session (σ κ τ α : Type*) where
  | read (name : Option σ) (next : τ → Session σ κ τ α)
  | lock (key : κ) (next : Session σ κ τ α)
  | write (change : τ → τ) (next : Session σ κ τ α)
  | rollback (next : Session σ κ τ α)
  | commit (result : α)

/-- Locks taken one after another. -/
def Session.lockAll {σ κ τ α : Type*} (next : Session σ κ τ α) (keys : List κ) : Session σ κ τ α := keys.foldr Session.lock next

inductive Progress (σ κ τ α : Type*) where
  | running (rest : Session σ κ τ α) (changes : τ → τ)
  | returned (result : α)
  | aborted

structure Database (σ κ τ α ι : Type*) where
  tables : τ
  locks : LockTable κ ι
  calls : ι → Progress σ κ τ α

/-- A call takes its next step, or the database aborts it. -/
inductive Turn (ι : Type*) where
  | next (i : ι)
  | abort (i : ι)

section Step

variable {σ κ τ α ι : Type*} [DecidableEq κ] [DecidableEq ι]

/-- The calls before any of them has begun. -/
def start (tables : τ) (sessions : ι → Session σ κ τ α) : Database σ κ τ α ι :=
  ⟨tables, LockTable.none, fun i => .running (sessions i) id⟩

def advance (db : Database σ κ τ α ι) (i : ι) : Database σ κ τ α ι :=
  match db.calls i with
  | .running (.read _ next) changes =>
    { db with calls := Function.update db.calls i (.running (next (changes db.tables)) changes) }
  | .running (.lock key next) changes =>
    if db.locks.Available key i then
      { db with locks := db.locks.acquire key i, calls := Function.update db.calls i (.running next changes) }
    else db
  | .running (.write change next) changes =>
    { db with calls := Function.update db.calls i (.running next (change ∘ changes)) }
  | .running (.rollback next) _ =>
    { db with locks := db.locks.release i, calls := Function.update db.calls i (.running next id) }
  | .running (.commit result) changes =>
    ⟨changes db.tables, db.locks.release i, Function.update db.calls i (.returned result)⟩
  | .returned _ => db
  | .aborted => db

def step (db : Database σ κ τ α ι) : Turn ι → Database σ κ τ α ι
  | .next i => advance db i
  | .abort i =>
    match db.calls i with
    | .running _ _ => { db with locks := db.locks.release i, calls := Function.update db.calls i .aborted }
    | .returned _ => db
    | .aborted => db

/-- The read that the turn runs, if it has a name, finds what `admits` asks for. -/
def Admitted (admits : σ → τ → Prop) (db : Database σ κ τ α ι) : Turn ι → Prop
  | .next i =>
    match db.calls i with
    | .running (.read (some name) _) changes => admits name (changes db.tables)
    | _ => True
  | .abort _ => True

instance {admits : σ → τ → Prop} [∀ name tables, Decidable (admits name tables)] (db : Database σ κ τ α ι) :
    (turn : Turn ι) → Decidable (Admitted admits db turn)
  | .abort _ => .isTrue trivial
  | .next i => by
    dsimp only [Admitted]
    split
    · infer_instance
    · exact .isTrue trivial

/-- A turn after which the call has returned the result, and had not before. -/
def Returns (db : Database σ κ τ α ι) (turn : Turn ι) (i : ι) (result : α) : Prop :=
  (∀ earlier, db.calls i ≠ .returned earlier) ∧ (step db turn).calls i = .returned result

end Step

section Returned

variable {σ κ τ α ι : Type*} [DecidableEq κ] [DecidableEq ι] {db : Database σ κ τ α ι} {i : ι} {result : α}

theorem step_returned (returned : db.calls i = .returned result) (turn : Turn ι) : (step db turn).calls i = .returned result := by
  have elsewhere {j : ι} {rest : Session σ κ τ α} {changes : τ → τ} (running : db.calls j = .running rest changes)
      (progress : Progress σ κ τ α) : Function.update db.calls j progress i = .returned result := by
    rw [Function.update_of_ne]
    · exact returned
    · rintro rfl
      rw [returned] at running
      cases running
  cases turn with
  | abort j =>
    rw [step]
    split
    · rename_i running
      exact elsewhere running _
    · exact returned
    · exact returned
  | next j =>
    rw [step, advance]
    split
    · rename_i running
      exact elsewhere running _
    · rename_i running
      split
      · exact elsewhere running _
      · exact returned
    · rename_i running
      exact elsewhere running _
    · rename_i running
      exact elsewhere running _
    · rename_i running
      exact elsewhere running _
    · exact returned
    · exact returned

end Returned

/-- What a transaction may do to the tables with the locks of some keys, and what others may do to them meanwhile. -/
structure Discipline (κ τ : Type*) where
  Change : Set κ → τ → τ → Prop
  Consistent : τ → Prop
  refl : ∀ keys tables, Change keys tables tables
  trans : ∀ {keys first second third}, Change keys first second → Change keys second third → Change keys first third
  mono : ∀ {keys more first second}, keys ⊆ more → Change keys first second → Change more first second

namespace Discipline

variable {σ κ τ α ι : Type*} (rules : Discipline κ τ)

/-- Others have gone on from one state to another while the keys were held. -/
structure Meanwhile (held : Set κ) (tables later : τ) : Prop where
  change : rules.Change heldᶜ tables later
  consistent : rules.Consistent later

/-- However others go on, what the session commits is a change with its own locks that leaves the tables consistent. -/
def Safe (admits : σ → τ → Prop) (Post : α → τ → τ → Prop) : Session σ κ τ α → Set κ → (τ → τ) → τ → Prop
  | .read name next, held, changes, tables => ∀ later, rules.Meanwhile held tables later →
      (∀ named, name = some named → admits named (changes later)) → Safe admits Post (next (changes later)) held changes later
  | .lock key next, held, changes, tables => ∀ later, rules.Meanwhile held tables later →
      Safe admits Post next (insert key held) changes later
  | .write change next, held, changes, tables => Safe admits Post next held (change ∘ changes) tables
  | .rollback next, held, _, tables => ∀ later, rules.Meanwhile held tables later → Safe admits Post next ∅ id later
  | .commit result, held, changes, tables => ∀ later, rules.Meanwhile held tables later →
      rules.Change held later (changes later) ∧ rules.Consistent (changes later) ∧ Post result later (changes later)

variable {rules} {held : Set κ} {tables later : τ}

theorem Meanwhile.refl (consistent : rules.Consistent tables) : rules.Meanwhile held tables tables :=
  ⟨rules.refl _ _, consistent⟩

theorem Meanwhile.trans {last : τ} (first : rules.Meanwhile held tables later) (second : rules.Meanwhile held later last) :
    rules.Meanwhile held tables last :=
  ⟨rules.trans first.change second.change, second.consistent⟩

theorem Meanwhile.anti {more : Set κ} (subset : held ⊆ more) (meanwhile : rules.Meanwhile more tables later) :
    rules.Meanwhile held tables later :=
  ⟨rules.mono (Set.compl_subset_compl.mpr subset) meanwhile.change, meanwhile.consistent⟩

variable {admits : σ → τ → Prop} {Post : α → τ → τ → Prop} {session : Session σ κ τ α} {changes : τ → τ}

theorem Safe.onward (safe : rules.Safe admits Post session held changes tables) (meanwhile : rules.Meanwhile held tables later) :
    rules.Safe admits Post session held changes later := by
  induction session generalizing changes with
  | read name next => exact fun last goes => safe last (meanwhile.trans goes)
  | lock key next => exact fun last goes => safe last (meanwhile.trans goes)
  | write change next ih => exact ih safe
  | rollback next => exact fun last goes => safe last (meanwhile.trans goes)
  | commit result => exact fun last goes => safe last (meanwhile.trans goes)

theorem safe_lockAll {keys : List κ} (consistent : rules.Consistent tables)
    (rest : ∀ later, rules.Meanwhile held tables later → rules.Safe admits Post session ({key | key ∈ keys} ∪ held) changes later) :
    rules.Safe admits Post (session.lockAll keys) held changes tables := by
  induction keys generalizing held tables with
  | nil =>
    have none : {key | key ∈ ([] : List κ)} ∪ held = held := by
      ext key
      simp
    rw [none] at rest
    exact rest tables (Meanwhile.refl consistent)
  | cons key keys ih =>
    intro later meanwhile
    apply ih meanwhile.consistent
    intro last goes
    have same : {other | other ∈ key :: keys} ∪ held = {other | other ∈ keys} ∪ insert key held := by
      ext other
      simp only [List.mem_cons, Set.mem_union, Set.mem_ofPred_eq, Set.mem_insert_iff]
      tauto
    rw [← same]
    exact rest last (meanwhile.trans (goes.anti (Set.subset_insert key held)))

section Run

variable [DecidableEq κ] [DecidableEq ι] {db : Database σ κ τ α ι} {i j : ι}

variable (rules admits Post) in
/-- The tables are consistent, and every call that is still running is safe from where it stands. -/
structure Guarded (db : Database σ κ τ α ι) : Prop where
  consistent : rules.Consistent db.tables
  safe : ∀ i rest changes, db.calls i = .running rest changes → rules.Safe admits Post rest (db.locks.heldBy i) changes db.tables

omit [DecidableEq κ] [DecidableEq ι] in
theorem start_guarded {sessions : ι → Session σ κ τ α} (consistent : rules.Consistent tables)
    (safe : ∀ i, rules.Safe admits Post (sessions i) ∅ id tables) : Guarded rules admits Post (start tables sessions) where
  consistent := consistent
  safe i rest changes running := by
    cases running
    show rules.Safe admits Post (sessions i) (LockTable.none.heldBy i) id tables
    rw [LockTable.heldBy_none]
    exact safe i

omit [DecidableEq κ] in
theorem Guarded.move (guarded : Guarded rules admits Post db) (after : Database σ κ τ α ι)
    (change : rules.Change (db.locks.heldBy i) db.tables after.tables) (consistent : rules.Consistent after.tables)
    (others : ∀ j, j ≠ i → after.calls j = db.calls j ∧ after.locks.heldBy j = db.locks.heldBy j)
    (here : ∀ rest changes, after.calls i = .running rest changes →
      rules.Safe admits Post rest (after.locks.heldBy i) changes after.tables) : Guarded rules admits Post after where
  consistent := consistent
  safe j rest changes running := by
    by_cases own : j = i
    · subst own
      exact here rest changes running
    · obtain ⟨calls, held⟩ := others j own
      rw [calls] at running
      rw [held]
      exact (guarded.safe j rest changes running).onward ⟨rules.mono (LockTable.heldBy_subset_compl (Ne.symm own)) change, consistent⟩

omit [DecidableEq κ] in
theorem Guarded.goOn (guarded : Guarded rules admits Post db) {rest : Session σ κ τ α}
    (safe : rules.Safe admits Post rest (db.locks.heldBy i) changes db.tables) :
    Guarded rules admits Post { db with calls := Function.update db.calls i (.running rest changes) } := by
  refine guarded.move _ (rules.refl (db.locks.heldBy i) db.tables) guarded.consistent ?_ ?_
  · intro j apart
    exact ⟨Function.update_of_ne apart _ _, rfl⟩
  · intro rest' changes' running
    cases (Function.update_self i _ db.calls).symm.trans running
    exact safe

variable {turn : Turn ι}

theorem Guarded.advanced (guarded : Guarded rules admits Post db) (admitted : Admitted admits db (.next i)) :
    Guarded rules admits Post (advance db i) ∧ rules.Change (db.locks.heldBy i) db.tables (advance db i).tables := by
  have standing := guarded.safe i
  have now : rules.Meanwhile (db.locks.heldBy i) db.tables db.tables := Meanwhile.refl guarded.consistent
  have same := rules.refl (db.locks.heldBy i) db.tables
  rw [advance]
  simp only [Admitted] at admitted
  cases call : db.calls i with
  | returned result => exact ⟨guarded, same⟩
  | aborted => exact ⟨guarded, same⟩
  | running rest changes =>
    rw [call] at admitted
    cases rest with
    | read name next =>
      have found (named : σ) (same : name = some named) : admits named (changes db.tables) := by
        rw [same] at admitted
        exact admitted
      exact ⟨guarded.goOn (standing _ _ call db.tables now found), same⟩
    | write change next => exact ⟨guarded.goOn (standing (.write change next) changes call), same⟩
    | lock key next =>
      simp only
      split
      · rename_i available
        refine ⟨guarded.move _ same guarded.consistent ?_ ?_, same⟩
        · intro j apart
          exact ⟨Function.update_of_ne apart _ _, LockTable.heldBy_acquire available apart⟩
        · intro rest changes running
          cases (Function.update_self i _ db.calls).symm.trans running
          show rules.Safe admits Post next ((db.locks.acquire key i).heldBy i) changes db.tables
          rw [LockTable.heldBy_acquire_self]
          exact standing _ _ call db.tables now
      · exact ⟨guarded, same⟩
    | rollback next =>
      refine ⟨guarded.move _ same guarded.consistent ?_ ?_, same⟩
      · intro j apart
        exact ⟨Function.update_of_ne apart _ _, LockTable.heldBy_release apart⟩
      · intro rest changes running
        cases (Function.update_self i _ db.calls).symm.trans running
        show rules.Safe admits Post next ((db.locks.release i).heldBy i) id db.tables
        rw [LockTable.heldBy_release_self]
        exact standing _ _ call db.tables now
    | commit result =>
      obtain ⟨change, consistent, -⟩ := standing _ _ call db.tables now
      refine ⟨guarded.move _ change consistent ?_ ?_, change⟩
      · intro j apart
        exact ⟨Function.update_of_ne apart _ _, LockTable.heldBy_release apart⟩
      · intro rest changes running
        cases (Function.update_self i _ db.calls).symm.trans running

theorem Guarded.stepped (guarded : Guarded rules admits Post db) (admitted : Admitted admits db turn) :
    Guarded rules admits Post (step db turn) ∧ rules.Change Set.univ db.tables (step db turn).tables := by
  cases turn with
  | next i =>
    obtain ⟨next, change⟩ := guarded.advanced admitted
    exact ⟨next, rules.mono (Set.subset_univ _) change⟩
  | abort i =>
    have same := rules.refl Set.univ db.tables
    rw [step]
    cases call : db.calls i with
    | returned result => exact ⟨guarded, same⟩
    | aborted => exact ⟨guarded, same⟩
    | running rest changes =>
      refine ⟨guarded.move _ (rules.refl (db.locks.heldBy i) db.tables) guarded.consistent ?_ ?_, same⟩
      · intro j apart
        exact ⟨Function.update_of_ne apart _ _, LockTable.heldBy_release apart⟩
      · intro rest changes running
        cases (Function.update_self i _ db.calls).symm.trans running

theorem Guarded.returns {result : α} (guarded : Guarded rules admits Post db) (returns : Returns db turn i result) :
    Post result db.tables (step db turn).tables := by
  obtain ⟨before, after⟩ := returns
  have now : rules.Meanwhile (db.locks.heldBy i) db.tables db.tables := Meanwhile.refl guarded.consistent
  have elsewhere (j : ι) (progress : Progress σ κ τ α) (unlike : ∀ result, progress ≠ .returned result) :
      Function.update db.calls j progress i ≠ .returned result := by
    intro returned
    by_cases own : i = j
    · rw [own, Function.update_self] at returned
      exact unlike result returned
    · rw [Function.update_of_ne own] at returned
      exact before result returned
  cases turn with
  | abort j =>
    rw [step] at after
    cases call : db.calls j with
    | running rest changes =>
      rw [call] at after
      exact absurd after (elsewhere j _ fun _ same => by cases same)
    | returned earlier =>
      rw [call] at after
      exact absurd after (before _)
    | aborted =>
      rw [call] at after
      exact absurd after (before _)
  | next j =>
    rw [step, advance] at after ⊢
    cases call : db.calls j with
    | returned earlier =>
      rw [call] at after
      exact absurd after (before _)
    | aborted =>
      rw [call] at after
      exact absurd after (before _)
    | running rest changes =>
      rw [call] at after
      cases rest with
      | read name next => exact absurd after (elsewhere j _ fun _ same => by cases same)
      | write change next => exact absurd after (elsewhere j _ fun _ same => by cases same)
      | rollback next => exact absurd after (elsewhere j _ fun _ same => by cases same)
      | lock key next =>
        simp only at after
        split at after
        · exact absurd after (elsewhere j _ fun _ same => by cases same)
        · exact absurd after (before _)
      | commit other =>
        by_cases own : i = j
        · subst own
          have after : Function.update db.calls i (.returned other) i = .returned result := after
          rw [Function.update_self] at after
          cases after
          exact (guarded.safe i _ _ call db.tables now).2.2
        · have after : Function.update db.calls j (.returned other) i = .returned result := after
          rw [Function.update_of_ne own] at after
          exact absurd after (before _)

theorem Guarded.run {turns : List (Turn ι)} (guarded : Guarded rules admits Post db)
    (admitted : Run.Along step (Admitted admits) db turns) :
    Guarded rules admits Post (turns.foldl step db) ∧
      rules.Change Set.univ db.tables (turns.foldl step db).tables := by
  induction turns generalizing db with
  | nil => exact ⟨guarded, rules.refl _ _⟩
  | cons turn rest ih =>
    obtain ⟨next, change⟩ := guarded.stepped admitted.1
    obtain ⟨last, changes⟩ := ih next admitted.2
    exact ⟨last, rules.trans change changes⟩

end Run

end Discipline

end Library.ReadCommitted
