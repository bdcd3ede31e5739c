import OpenAssetWatch.Clock

namespace OpenAssetWatch.Finding

/-- What a snapshot says about one finding: it reports it, it clears it, or it does not decide it. -/
inductive Verdict where
  | reported
  | cleared
  | silent
deriving DecidableEq, Repr

structure Look where
  time : Time
  verdict : Verdict
deriving DecidableEq, Repr

/-- What is known of a finding, active and acknowledged being the same here. -/
inductive Life where
  | absent
  | live
  | suppressed (until? : Option Time)
  | resolved
deriving DecidableEq, Repr

def expired (until? : Option Time) (time : Time) : Bool := until?.any (· ≤ time)

/-- The purpose of reconciliation, for one finding and one snapshot. -/
def Life.after (life : Life) (look : Look) : Life :=
  match look.verdict, life with
  | .silent, _ => life
  | .reported, .suppressed until? => if expired until? look.time then .live else life
  | .reported, _ => .live
  | .cleared, .absent => .absent
  | .cleared, _ => .resolved

/-- A suppression that ends at the time of the look is over. -/
example : (Life.suppressed (some 5)).after ⟨5, .reported⟩ = .live := by simp [Life.after, expired]

def Life.through (life : Life) (looks : List Look) : Life := looks.foldl Life.after life

def Look.Decides (look : Look) : Prop := look.verdict ≠ .silent

/-- The looks in the order of their times, which are distinct. -/
def InOrder (looks : List Look) : Prop := looks.Pairwise (·.time < ·.time)

section

variable {life : Life} {look : Look} {looks : List Look} {until? : Option Time}

theorem through_append (first second : List Look) :
    life.through (first ++ second) = (life.through first).through second := List.foldl_append

theorem through_silent (silent : ∀ look ∈ looks, ¬ look.Decides) : life.through looks = life := by
  induction looks with
  | nil => rfl
  | cons look rest ih =>
    have here : look.verdict = .silent := of_not_not (silent look List.mem_cons_self)
    have same : life.after look = life := by simp only [Life.after, here]
    rw [Life.through, List.foldl_cons, same]
    exact ih fun other member => silent other (List.mem_cons_of_mem _ member)

theorem after_absent_iff : life.after look = .absent ↔ life = .absent ∧ look.verdict ≠ .reported := by
  obtain ⟨time, verdict⟩ := look
  cases verdict <;> cases life <;> simp [Life.after, apply_ite (· = Life.absent)]

theorem through_absent_iff :
    life.through looks = .absent ↔ life = .absent ∧ ∀ look ∈ looks, look.verdict ≠ .reported := by
  induction looks generalizing life with
  | nil => simp [Life.through]
  | cons look rest ih =>
    have turn : life.through (look :: rest) = (life.after look).through rest := rfl
    rw [turn, ih, after_absent_iff, List.forall_mem_cons, and_assoc]

/-- A look that leaves a suppression as it is. -/
def Look.Keeps (until? : Option Time) (look : Look) : Prop :=
  look.verdict ≠ .cleared ∧ (look.verdict = .reported → expired until? look.time = false)

theorem after_suppressed_iff :
    life.after look = .suppressed until? ↔ life = .suppressed until? ∧ look.Keeps until? := by
  obtain ⟨time, verdict⟩ := look
  cases verdict with
  | silent => simp [Life.after, Look.Keeps]
  | cleared => cases life <;> simp [Life.after, Look.Keeps]
  | reported =>
    cases life with
    | suppressed other =>
      by_cases past : expired other time = true
      · simp only [Life.after, Look.Keeps, if_pos past, reduceCtorEq, false_iff, Life.suppressed.injEq]
        intro kept
        rw [kept.1] at past
        rw [kept.2.2 trivial] at past
        cases past
      · simp only [Life.after, Look.Keeps, if_neg past, Life.suppressed.injEq]
        refine ⟨fun same => ⟨same, by simp, fun _ => ?_⟩, fun kept => kept.1⟩
        rw [← same]
        exact Bool.eq_false_iff.mpr past
    | absent => simp [Life.after]
    | live => simp [Life.after]
    | resolved => simp [Life.after]

theorem through_suppressed_iff :
    life.through looks = .suppressed until? ↔ life = .suppressed until? ∧ ∀ look ∈ looks, look.Keeps until? := by
  induction looks generalizing life with
  | nil => simp [Life.through]
  | cons look rest ih =>
    have turn : life.through (look :: rest) = (life.after look).through rest := rfl
    rw [turn, ih, after_suppressed_iff, List.forall_mem_cons, and_assoc]

variable (life) in
theorem through_last (ordered : InOrder looks) (member : look ∈ looks)
    (last : ∀ other ∈ looks, other.Decides → other.time ≤ look.time) :
    ∃ before : Life, life.through looks = before.after look := by
  obtain ⟨before, rest, rfl⟩ := List.append_of_mem member
  obtain ⟨-, tail, -⟩ := List.pairwise_append.mp ordered
  have silent : ∀ other ∈ rest, ¬ other.Decides := by
    intro other hother decides
    have later : look.time < other.time := List.rel_of_pairwise_cons tail hother
    exact absurd (last other (List.mem_append_right _ (List.mem_cons_of_mem _ hother)) decides) (not_le.mpr later)
  refine ⟨life.through before, ?_⟩
  rw [through_append]
  exact through_silent silent

variable (life) in
theorem after_cleared (cleared : look.verdict = .cleared) :
    life.after look = .absent ∨ life.after look = .resolved := by
  cases life <;> simp [Life.after, cleared]

variable (life) in
theorem after_reported (reported : look.verdict = .reported) :
    life.after look = .live ∨ ∃ until?, life.after look = .suppressed until? ∧ expired until? look.time = false := by
  cases life with
  | suppressed until? =>
    by_cases past : expired until? look.time = true
    · exact .inl (by simp [Life.after, reported, past])
    · exact .inr ⟨until?, by simp [Life.after, reported, past], Bool.eq_false_iff.mpr past⟩
  | absent => exact .inl (by simp [Life.after, reported])
  | live => exact .inl (by simp [Life.after, reported])
  | resolved => exact .inl (by simp [Life.after, reported])

theorem after_twice (reported : look.verdict = .reported) : (life.after look).after look = life.after look := by
  rcases after_reported life reported with live | ⟨until?, quiet, running⟩
  · rw [live]
    simp only [Life.after, reported]
  · rw [quiet]
    simp only [Life.after, reported, running, Bool.false_eq_true, if_false]

theorem expired_mono {time later : Time} (order : time ≤ later) (running : expired until? later = false) :
    expired until? time = false := by
  cases until? with
  | none => rfl
  | some limit =>
    simp only [expired, Option.any_some, decide_eq_false_iff_not] at running ⊢
    exact fun past => running (past.trans order)

end

/-- Looks with one more look among them, both lists in order. -/
structure Inserted (late : Look) (looks more : List Look) : Prop where
  ordered : InOrder looks
  ordered' : InOrder more
  mem_iff : ∀ look, look ∈ more ↔ look = late ∨ look ∈ looks

section

variable {life : Life} {late newest : Look} {looks more : List Look}

/-- An older look changes nothing once a newer one has decided, if what it reports is already known and
what it clears is not suppressed. -/
theorem late_look (inserted : Inserted late looks more) (member : newest ∈ looks) (decides : newest.Decides)
    (last : ∀ other ∈ looks, other.Decides → other.time ≤ newest.time) (older : late.time < newest.time)
    (known : late.verdict = .reported → life.through looks ≠ .absent)
    (unsuppressed : late.verdict = .cleared → ∀ until?, life.through looks ≠ .suppressed until?) :
    life.through more = life.through looks := by
  have last' : ∀ other ∈ more, other.Decides → other.time ≤ newest.time := by
    intro other hother decides
    rcases (inserted.mem_iff other).mp hother with rfl | hother
    · exact older.le
    · exact last other hother decides
  obtain ⟨before, through⟩ := through_last life inserted.ordered member last
  obtain ⟨before', through'⟩ :=
    through_last life inserted.ordered' ((inserted.mem_iff newest).mpr (.inr member)) last'
  have absent : life.through more = .absent ↔ life.through looks = .absent := by
    constructor
    · intro unknown
      obtain ⟨start, unreported⟩ := through_absent_iff.mp unknown
      exact through_absent_iff.mpr ⟨start, fun other h => unreported other ((inserted.mem_iff other).mpr (.inr h))⟩
    · intro unknown
      obtain ⟨start, unreported⟩ := through_absent_iff.mp unknown
      refine through_absent_iff.mpr ⟨start, fun other h reported => ?_⟩
      rcases (inserted.mem_iff other).mp h with rfl | h
      · exact known reported unknown
      · exact unreported other h reported
  have suppressed (until? : Option Time) :
      life.through more = .suppressed until? ↔ life.through looks = .suppressed until? := by
    constructor
    · intro quiet
      obtain ⟨start, keeps⟩ := through_suppressed_iff.mp quiet
      exact through_suppressed_iff.mpr ⟨start, fun other h => keeps other ((inserted.mem_iff other).mpr (.inr h))⟩
    · intro quiet
      obtain ⟨start, keeps⟩ := through_suppressed_iff.mp quiet
      have kept := keeps newest member
      have running : newest.verdict = .reported := by
        cases verdict : newest.verdict with
        | reported => rfl
        | cleared => exact absurd verdict kept.1
        | silent => exact absurd verdict decides
      refine through_suppressed_iff.mpr ⟨start, fun other h => ?_⟩
      rcases (inserted.mem_iff other).mp h with rfl | h
      · exact ⟨fun cleared => unsuppressed cleared until? quiet, fun _ => expired_mono older.le (kept.2 running)⟩
      · exact keeps other h
  cases verdict : newest.verdict with
  | silent => exact absurd verdict decides
  | cleared =>
    rcases after_cleared before verdict with here | here
    · have unknown := through.trans here
      exact (absent.mpr unknown).trans unknown.symm
    · rcases after_cleared before' verdict with there | there
      · have unknown := absent.mp (through'.trans there)
        exact (through'.trans there).trans unknown.symm
      · exact (through'.trans there).trans (through.trans here).symm
  | reported =>
    rcases after_reported before verdict with here | ⟨until?, here, -⟩
    · rcases after_reported before' verdict with there | ⟨until?, there, -⟩
      · exact (through'.trans there).trans (through.trans here).symm
      · have quiet := (suppressed until?).mp (through'.trans there)
        exact (through'.trans there).trans quiet.symm
    · have quiet := through.trans here
      exact ((suppressed until?).mpr quiet).trans quiet.symm

variable (life) in
theorem last_cleared (ordered : InOrder looks) (member : newest ∈ looks)
    (last : ∀ other ∈ looks, other.Decides → other.time ≤ newest.time) (cleared : newest.verdict = .cleared) :
    life.through looks = .absent ∨ life.through looks = .resolved := by
  obtain ⟨before, through⟩ := through_last life ordered member last
  rw [through]
  exact after_cleared _ cleared

variable (life) in
theorem last_reported (ordered : InOrder looks) (member : newest ∈ looks)
    (last : ∀ other ∈ looks, other.Decides → other.time ≤ newest.time) (reported : newest.verdict = .reported) :
    life.through looks = .live ∨ ∃ until?, life.through looks = .suppressed until? := by
  obtain ⟨before, through⟩ := through_last life ordered member last
  rw [through]
  exact (after_reported _ reported).imp_right fun ⟨until?, quiet, _⟩ => ⟨until?, quiet⟩

variable (life) in
theorem cleared_then_reported (ordered : InOrder looks) (member : newest ∈ looks)
    (last : ∀ other ∈ looks, other.Decides → other.time ≤ newest.time) (reported : newest.verdict = .reported)
    (some_cleared : late ∈ looks) (cleared : late.verdict = .cleared) : life.through looks = .live := by
  rcases last_reported life ordered member last reported with live | ⟨until?, quiet⟩
  · exact live
  · exact absurd cleared ((through_suppressed_iff.mp quiet).2 late some_cleared).1

theorem newest_look {before rest : List Look} (quiet : ∀ other ∈ rest, ¬ other.Decides) :
    life.through (before ++ late :: rest) = (life.through (before ++ rest)).after late := by
  rw [through_append, through_append, through_silent quiet]
  exact through_silent quiet

theorem silent_look {before rest : List Look} (silent : ¬ late.Decides) :
    life.through (before ++ late :: rest) = life.through (before ++ rest) := by
  have same : (life.through before).through [late] = life.through before :=
    through_silent fun other member => by rw [List.mem_singleton.mp member]; exact silent
  rw [through_append, through_append, ← List.singleton_append, through_append, same]

end

end OpenAssetWatch.Finding
