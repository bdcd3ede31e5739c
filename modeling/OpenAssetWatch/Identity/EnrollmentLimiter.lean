import OpenAssetWatch.Library.OrderOfUse

namespace OpenAssetWatch.Identity

open Library

/-- The settings of the limiter of unauthenticated token exchanges; `T` is the monotonic clock. -/
structure EnrollmentAttemptLimiter (T : Type*) where
  limit : Nat
  windowSeconds : T
  maxSources : Nat
deriving DecidableEq, Repr

/-- A call of `allow` with its answer. -/
structure EnrollmentAttempt (T : Type*) where
  source : String
  now : T
  allowed : Bool
deriving DecidableEq, Repr

/-- The times of one window, without its first moment or without its last. -/
inductive AttemptWindow (T : Type*) where
  | after (start : T)
  | since (start : T)
deriving DecidableEq, Repr

variable {T : Type*} [AddCommGroup T] [LinearOrder T]

def AttemptWindow.holds (windowSeconds : T) : AttemptWindow T → T → Bool
  | .after start, time => start < time && time ≤ start + windowSeconds
  | .since start, time => start ≤ time && time < start + windowSeconds

theorem AttemptWindow.near [IsOrderedAddMonoid T] {windowSeconds : T} {window : AttemptWindow T} {first last : T}
    (one : window.holds windowSeconds first = true) (two : window.holds windowSeconds last = true) :
    last - windowSeconds < first := by
  cases window with
  | after start =>
    simp only [holds, Bool.and_eq_true, decide_eq_true_eq] at one two
    have : last - windowSeconds ≤ start := sub_le_iff_le_add.mpr two.2
    exact this.trans_lt one.1
  | since start =>
    simp only [holds, Bool.and_eq_true, decide_eq_true_eq] at one two
    have : last - windowSeconds < start := sub_lt_iff_lt_add.mpr two.2
    exact this.trans_le one.1

namespace EnrollmentAttemptLimiter

variable (limiter : EnrollmentAttemptLimiter T)

/-- The attempts of a source that are still in the window. -/
def recent (attempts : Dict String (List T)) (source : String) (now : T) : List T :=
  ((attempts.get? source).getD []).dropWhile (· ≤ now - limiter.windowSeconds)

def allow (attempts : Dict String (List T)) (source : String) (now : T) : Bool × Dict String (List T) :=
  let kept := limiter.recent attempts source now
  let allowed : Bool := kept.length < limiter.limit
  (allowed, attempts.touch limiter.maxSources source (if allowed then kept ++ [now] else kept))

/-- One call, appended to the calls before it. -/
def record (log : List (EnrollmentAttempt T) × Dict String (List T)) (call : String × T) :
    List (EnrollmentAttempt T) × Dict String (List T) :=
  let answer := limiter.allow log.2 call.1 call.2
  (log.1 ++ [⟨call.1, call.2, answer.1⟩], answer.2)

/-- The answers to a sequence of calls, and the attempts kept after them. -/
def run (calls : List (String × T)) : List (EnrollmentAttempt T) × Dict String (List T) :=
  calls.foldl limiter.record ([], Dict.empty)

end EnrollmentAttemptLimiter

section

omit [AddCommGroup T] [LinearOrder T]

/-- The times at which a source was let through. -/
def allowedTimes (source : String) (log : List (EnrollmentAttempt T)) : List T :=
  (log.filter fun attempt => attempt.allowed && attempt.source = source).map (·.now)

theorem allowedTimes_append (source : String) (log log' : List (EnrollmentAttempt T)) :
    allowedTimes source (log ++ log') = allowedTimes source log ++ allowedTimes source log' := by
  rw [allowedTimes, List.filter_append, List.map_append]
  rfl

theorem allowedTimes_single (source : String) (attempt : EnrollmentAttempt T) :
    allowedTimes source [attempt] = if attempt.allowed && attempt.source = source then [attempt.now] else [] := by
  rw [allowedTimes, List.filter_singleton]
  cases attempt.allowed && decide (attempt.source = source) <;> rfl

theorem countP_allowedTimes (source : String) (log : List (EnrollmentAttempt T)) (q : T → Bool) :
    (allowedTimes source log).countP q =
      log.countP fun attempt => attempt.allowed && attempt.source = source && q attempt.now := by
  rw [allowedTimes, List.countP_map, List.countP_filter]
  apply List.countP_congr
  intro attempt _
  simp only [Function.comp_apply, Bool.and_comm]

theorem countP_dropWhile {p q : T → Bool} (apart : ∀ time, p time = true → q time = false) (times : List T) :
    (times.dropWhile p).countP q = times.countP q := by
  induction times with
  | nil => rfl
  | cons time times ih =>
    rw [List.dropWhile_cons]
    split
    · rename_i dropped
      rw [ih, List.countP_cons_of_neg]
      simp [apart time dropped]
    · rfl

end

omit [AddCommGroup T] in
theorem lt_of_mem_dropWhile {cutoff : T} {times : List T} (sorted : times.Pairwise (· ≤ ·)) {time : T}
    (member : time ∈ times.dropWhile (· ≤ cutoff)) : cutoff < time := by
  induction times with
  | nil => cases member
  | cons first rest ih =>
    rw [List.dropWhile_cons] at member
    split at member
    · exact ih sorted.of_cons member
    · rename_i late
      have late : cutoff < first := not_le.mp fun early => late (decide_eq_true early)
      rcases List.mem_cons.mp member with rfl | later
      · exact late
      · exact late.trans_le (List.rel_of_pairwise_cons sorted later)

/-- What the attempts kept for a source say of its calls. -/
structure AttemptsKept (limiter : EnrollmentAttemptLimiter T)
    (log : List (EnrollmentAttempt T) × Dict String (List T)) : Prop where
  ordered : Dict.InOrderOfUse (log.1.map (·.source)) log.2
  size : log.2.size ≤ limiter.maxSources
  bounded : ∀ source times, log.2.get? source = some times → times.length ≤ limiter.limit
  genuine : ∀ source times, log.2.get? source = some times → times <:+ allowedTimes source log.1
  complete : ∀ earlier first later, log.1 = earlier ++ first :: later →
    Dict.othersUsed first.source (later.map (·.source)) < limiter.maxSources →
      ∃ times, log.2.get? first.source = some times ∧
        ∀ cutoff, (∀ attempt ∈ log.1, attempt.now - limiter.windowSeconds ≤ cutoff) →
          (allowedTimes first.source (first :: later)).countP (cutoff < ·) ≤ times.countP (cutoff < ·)

theorem attemptsKept_start (limiter : EnrollmentAttemptLimiter T) : AttemptsKept limiter ([], Dict.empty) where
  ordered := Dict.inOrderOfUse_empty
  size := Nat.zero_le _
  bounded := fun _ _ held => by cases held
  genuine := fun _ _ held => by cases held
  complete := fun _ _ _ split => absurd split.symm (by simp)

namespace EnrollmentAttemptLimiter

variable {limiter : EnrollmentAttemptLimiter T} {attempts : Dict String (List T)} {log : List (EnrollmentAttempt T) × Dict String (List T)}

/-- The attempts a call leaves for its source. -/
def kept (limiter : EnrollmentAttemptLimiter T) (attempts : Dict String (List T)) (source : String) (now : T) : List T :=
  limiter.recent attempts source now ++ if (limiter.allow attempts source now).1 then [now] else []

theorem allow_snd (attempts : Dict String (List T)) (source : String) (now : T) :
    (limiter.allow attempts source now).2 =
      attempts.touch limiter.maxSources source (limiter.kept attempts source now) := by
  rw [allow, kept, allow]
  dsimp only
  split
  · rfl
  · rw [List.append_nil]

theorem allow_iff (attempts : Dict String (List T)) (source : String) (now : T) :
    (limiter.allow attempts source now).1 = true ↔ (limiter.recent attempts source now).length < limiter.limit :=
  decide_eq_true_iff

end EnrollmentAttemptLimiter

namespace AttemptsKept

open EnrollmentAttemptLimiter

variable {limiter : EnrollmentAttemptLimiter T} {log : List (EnrollmentAttempt T) × Dict String (List T)}

theorem recent_suffix (kept : AttemptsKept limiter log) (source : String) (now : T) :
    limiter.recent log.2 source now <:+ allowedTimes source log.1 := by
  apply (List.dropWhile_suffix _).trans
  cases held : log.2.get? source with
  | none => exact List.nil_suffix
  | some times => exact kept.genuine source times held

theorem length_kept_le (kept : AttemptsKept limiter log) (source : String) (now : T) :
    (limiter.kept log.2 source now).length ≤ limiter.limit := by
  rw [EnrollmentAttemptLimiter.kept, List.length_append]
  split
  · rename_i allowed
    exact (allow_iff _ _ _).mp allowed
  · apply ((List.dropWhile_suffix _).length_le).trans
    cases held : log.2.get? source with
    | none => exact Nat.zero_le _
    | some times => exact kept.bounded source times held

theorem kept_suffix (kept : AttemptsKept limiter log) (source : String) (now : T) :
    limiter.kept log.2 source now <:+ allowedTimes source (limiter.record log (source, now)).1 := by
  rw [record, allowedTimes_append, allowedTimes_single, EnrollmentAttemptLimiter.kept]
  simp only [decide_true, Bool.and_true]
  obtain ⟨before, same⟩ := kept.recent_suffix source now
  rw [← same]
  exact ⟨before, (List.append_assoc _ _ _).symm⟩

theorem countP_kept {source : String} {now cutoff : T} {times : List T} (held : log.2.get? source = some times)
    (late : now - limiter.windowSeconds ≤ cutoff) :
    (limiter.kept log.2 source now).countP (cutoff < ·) =
      times.countP (cutoff < ·) + (allowedTimes source [⟨source, now, (limiter.allow log.2 source now).1⟩]).countP (cutoff < ·) := by
  rw [EnrollmentAttemptLimiter.kept, List.countP_append, recent, held, Option.getD_some, allowedTimes_single]
  congr 1
  · apply countP_dropWhile
    intro time dropped
    exact decide_eq_false (not_lt.mpr ((of_decide_eq_true dropped).trans late))
  · simp only [decide_true, Bool.and_true]

theorem record (kept : AttemptsKept limiter log) (call : String × T) : AttemptsKept limiter (limiter.record log call) where
  ordered := by
    rw [EnrollmentAttemptLimiter.record, List.map_append, allow_snd]
    exact kept.ordered.touch _ _ _
  size := by
    rw [EnrollmentAttemptLimiter.record, allow_snd]
    exact Dict.size_touch_le _ _ _ _
  bounded := by
    intro source times held
    rw [EnrollmentAttemptLimiter.record, allow_snd] at held
    have held := Dict.get?_of_touch held
    split at held
    · cases held
      exact kept.length_kept_le _ _
    · exact kept.bounded source times held
  genuine := by
    intro source times held
    rw [EnrollmentAttemptLimiter.record, allow_snd] at held
    have held := Dict.get?_of_touch held
    split at held
    · rename_i same
      cases held
      rw [same]
      exact kept.kept_suffix _ _
    · rename_i different
      have silent : allowedTimes source [⟨call.1, call.2, (limiter.allow log.2 call.1 call.2).1⟩] = [] := by
        rw [allowedTimes_single, if_neg]
        simp [Ne.symm different]
      rw [EnrollmentAttemptLimiter.record, allowedTimes_append, silent, List.append_nil]
      exact kept.genuine source times held
  complete := by
    intro earlier first later split few
    have used : log.1.map (·.source) ++ [call.1] = earlier.map (·.source) ++ first.source :: later.map (·.source) := by
      rw [← List.map_cons, ← List.map_append, ← split, EnrollmentAttemptLimiter.record, List.map_append]
      rfl
    simp only [EnrollmentAttemptLimiter.record, allow_snd] at split ⊢
    rcases List.eq_nil_or_concat later with rfl | ⟨later, last, rfl⟩
    · -- the call itself
      obtain ⟨-, same⟩ := List.append_inj' split rfl
      have same := (List.singleton_inj.mp same).symm
      subst same
      refine ⟨limiter.kept log.2 call.1 call.2, kept.ordered.get?_touch (if_pos rfl) used few, fun cutoff _ => ?_⟩
      rw [EnrollmentAttemptLimiter.kept, List.countP_append, allowedTimes_single]
      simp only [decide_true, Bool.and_true]
      exact Nat.le_add_left _ _
    · rw [List.concat_eq_append, ← List.cons_append, ← List.append_assoc] at split
      obtain ⟨before, same⟩ := List.append_inj' split rfl
      have same := (List.singleton_inj.mp same).symm
      subst same
      have fewer : Dict.othersUsed first.source (later.map (·.source)) < limiter.maxSources := by
        apply (Dict.othersUsed_mono _ _).trans_lt few
        rw [List.concat_eq_append, List.map_append]
        exact List.subset_append_left _ _
      obtain ⟨times, held, counted⟩ := kept.complete earlier first later before fewer
      by_cases own : first.source = call.1
      · refine ⟨limiter.kept log.2 call.1 call.2, kept.ordered.get?_touch (if_pos own) used few, fun cutoff late => ?_⟩
        have late' : ∀ attempt ∈ log.1, attempt.now - limiter.windowSeconds ≤ cutoff :=
          fun attempt member => late attempt (List.mem_append_left _ member)
        have here : call.2 - limiter.windowSeconds ≤ cutoff := late _ (List.mem_append_right _ (List.mem_singleton_self _))
        rw [List.concat_eq_append, ← List.cons_append, allowedTimes_append, List.countP_append,
          countP_kept (own ▸ held) here, own]
        exact Nat.add_le_add_right (own ▸ counted cutoff late') _
      · refine ⟨times, kept.ordered.get?_touch ((if_neg own).trans held) used few, fun cutoff late => ?_⟩
        have silent : allowedTimes first.source [⟨call.1, call.2, (limiter.allow log.2 call.1 call.2).1⟩] = [] := by
          rw [allowedTimes_single, if_neg]
          simp [Ne.symm own]
        rw [List.concat_eq_append, ← List.cons_append, allowedTimes_append, silent, List.append_nil]
        exact counted cutoff fun attempt member => late attempt (List.mem_append_left _ member)

end AttemptsKept

namespace EnrollmentAttemptLimiter

variable (limiter : EnrollmentAttemptLimiter T) (calls : List (String × T))

theorem run_append (call : String × T) : limiter.run (calls ++ [call]) = limiter.record (limiter.run calls) call := by
  rw [run, List.foldl_append]
  rfl

theorem run_kept : AttemptsKept limiter (limiter.run calls) := by
  induction calls using List.reverseRecOn with
  | nil => exact attemptsKept_start limiter
  | append_singleton calls call ih =>
    rw [run_append]
    exact ih.record call

theorem run_calls : (limiter.run calls).1.map (fun attempt => (attempt.source, attempt.now)) = calls := by
  induction calls using List.reverseRecOn with
  | nil => rfl
  | append_singleton calls call ih =>
    rw [run_append, record, List.map_append, ih]
    rfl

theorem run_split {earlier later : List (EnrollmentAttempt T)} {attempt : EnrollmentAttempt T}
    (split : (limiter.run calls).1 = earlier ++ attempt :: later) :
    ∃ before, (limiter.run before).1 = earlier ∧
      attempt.allowed = (limiter.allow (limiter.run before).2 attempt.source attempt.now).1 := by
  induction calls using List.reverseRecOn generalizing later with
  | nil => exact absurd split.symm (by simp [run])
  | append_singleton calls call ih =>
    rw [run_append] at split
    rcases List.eq_nil_or_concat later with rfl | ⟨later, last, rfl⟩
    · obtain ⟨before, same⟩ := List.append_inj' split rfl
      have same := (List.singleton_inj.mp same).symm
      subst same
      exact ⟨calls, before, rfl⟩
    · rw [List.concat_eq_append, ← List.cons_append, ← List.append_assoc] at split
      exact ih (List.append_inj' split rfl).1

end EnrollmentAttemptLimiter

section

omit [AddCommGroup T] [LinearOrder T]

theorem exists_first {α : Type*} {p : α → Bool} {items : List α} (some : 0 < items.countP p) :
    ∃ front first back, items = front ++ first :: back ∧ p first = true ∧ items.countP p = back.countP p + 1 := by
  induction items with
  | nil => exact absurd some (Nat.lt_irrefl 0)
  | cons item items ih =>
    cases here : p item with
    | true => exact ⟨[], item, items, rfl, here, List.countP_cons_of_pos here⟩
    | false =>
      have skip : (item :: items).countP p = items.countP p := List.countP_cons_of_neg (by simp [here])
      obtain ⟨front, first, back, rfl, holds, counted⟩ := ih (skip ▸ some)
      exact ⟨item :: front, first, back, rfl, holds, skip.trans counted⟩

theorem exists_last {α : Type*} {p : α → Bool} {items : List α} (some : 0 < items.countP p) :
    ∃ front last back, items = front ++ last :: back ∧ p last = true ∧ items.countP p = front.countP p + 1 := by
  rw [← List.countP_reverse] at some
  obtain ⟨front, last, back, split, holds, counted⟩ := exists_first some
  refine ⟨back.reverse, last, front.reverse, ?_, holds, ?_⟩
  · rw [← List.reverse_reverse items, split, List.reverse_append, List.reverse_cons, List.append_assoc]
    rfl
  · rw [← List.countP_reverse, counted, List.countP_reverse]

end

section

variable [IsOrderedAddMonoid T] (limiter : EnrollmentAttemptLimiter T) {calls : List (String × T)}

omit [IsOrderedAddMonoid T] in
theorem EnrollmentAttemptLimiter.run_sorted (sorted : calls.Pairwise fun first second => first.2 ≤ second.2) :
    (limiter.run calls).1.Pairwise fun first second => first.now ≤ second.now := by
  rw [← limiter.run_calls calls, List.pairwise_map] at sorted
  exact sorted

theorem EnrollmentAttemptLimiter.evicted_between (sorted : calls.Pairwise fun first second => first.2 ≤ second.2) (source : String)
    (window : AttemptWindow T)
    (many : limiter.limit < (limiter.run calls).1.countP fun attempt =>
      attempt.allowed && attempt.source = source && window.holds limiter.windowSeconds attempt.now) :
    ∃ earlier first between last later, (limiter.run calls).1 = earlier ++ first :: (between ++ last :: later) ∧
      (∀ attempt ∈ [first, last], attempt.allowed = true ∧ attempt.source = source ∧
        window.holds limiter.windowSeconds attempt.now = true) ∧
      limiter.maxSources ≤ Dict.othersUsed source (between.map (·.source)) := by
  obtain ⟨earlier, first, rest, split, one, counted⟩ := exists_first (Nat.zero_lt_of_lt many)
  have inside : limiter.limit ≤ rest.countP fun attempt =>
      attempt.allowed && attempt.source = source && window.holds limiter.windowSeconds attempt.now := by
    omega
  have positive : 0 < limiter.limit := by
    obtain ⟨before, -, answered⟩ := limiter.run_split calls split
    simp only [Bool.and_eq_true] at one
    exact Nat.zero_lt_of_lt ((EnrollmentAttemptLimiter.allow_iff _ _ _).mp (answered ▸ one.1.1))
  obtain ⟨between, last, later, rfl, two, counted'⟩ := exists_last (positive.trans_le inside)
  refine ⟨earlier, first, between, last, later, split, ?_, ?_⟩
  · simp only [Bool.and_eq_true, decide_eq_true_eq] at one two
    intro attempt member
    rcases List.mem_cons.mp member with rfl | member
    · exact ⟨one.1.1, one.1.2, one.2⟩
    · rw [List.mem_singleton.mp member]
      exact ⟨two.1.1, two.1.2, two.2⟩
  · by_contra few
    have split' : (limiter.run calls).1 = (earlier ++ first :: between) ++ last :: later := by
      rw [split, List.append_assoc]
      rfl
    obtain ⟨before, past, answered⟩ := limiter.run_split calls split'
    have ordered := limiter.run_sorted sorted
    rw [split'] at ordered
    have newest : ∀ attempt ∈ earlier ++ first :: between, attempt.now ≤ last.now :=
      fun attempt member => (List.pairwise_append.mp ordered).2.2 attempt member last List.mem_cons_self
    have here := one
    have there := two
    simp only [Bool.and_eq_true, decide_eq_true_eq] at here there
    obtain ⟨times, held, kept⟩ := (limiter.run_kept before).complete earlier first between past
      (by rw [here.1.2]; exact not_le.mp few)
    have bound := kept (last.now - limiter.windowSeconds) fun attempt member =>
      sub_le_sub_right (newest attempt (past ▸ member)) _
    have fresh : (limiter.recent (limiter.run before).2 last.source last.now).length < limiter.limit :=
      (EnrollmentAttemptLimiter.allow_iff _ _ _).mp (answered ▸ there.1.1)
    have trimmed : times.countP (last.now - limiter.windowSeconds < ·) ≤
        (limiter.recent (limiter.run before).2 last.source last.now).length := by
      rw [EnrollmentAttemptLimiter.recent, there.1.2, ← here.1.2, held, Option.getD_some,
        ← countP_dropWhile (p := (· ≤ last.now - limiter.windowSeconds))]
      · exact List.countP_le_length
      · intro time early
        exact decide_eq_false (not_lt.mpr (of_decide_eq_true early))
    have near : (first :: between).countP (fun attempt =>
        attempt.allowed && attempt.source = source && window.holds limiter.windowSeconds attempt.now) ≤
          (allowedTimes first.source (first :: between)).countP (last.now - limiter.windowSeconds < ·) := by
      rw [countP_allowedTimes, here.1.2]
      apply List.countP_mono_left
      intro attempt _ holds
      simp only [Bool.and_eq_true, decide_eq_true_eq] at holds ⊢
      exact ⟨holds.1, AttemptWindow.near holds.2 there.2⟩
    have whole : (first :: between).countP (fun attempt =>
        attempt.allowed && attempt.source = source && window.holds limiter.windowSeconds attempt.now) =
          between.countP (fun attempt =>
            attempt.allowed && attempt.source = source && window.holds limiter.windowSeconds attempt.now) + 1 :=
      List.countP_cons_of_pos one
    omega

omit [IsOrderedAddMonoid T] in
theorem EnrollmentAttemptLimiter.refused_full (sorted : calls.Pairwise fun first second => first.2 ≤ second.2)
    {earlier later : List (EnrollmentAttempt T)} {refused : EnrollmentAttempt T}
    (split : (limiter.run calls).1 = earlier ++ refused :: later) (denied : refused.allowed = false) :
    limiter.limit ≤ earlier.countP fun attempt => attempt.allowed && attempt.source = refused.source &&
      (refused.now - limiter.windowSeconds < attempt.now && attempt.now ≤ refused.now) := by
  obtain ⟨before, past, answered⟩ := limiter.run_split calls split
  have ordered := limiter.run_sorted sorted
  rw [split, List.pairwise_append] at ordered
  have genuine := (limiter.run_kept before).recent_suffix refused.source refused.now
  rw [past] at genuine
  have full : limiter.limit ≤ (limiter.recent (limiter.run before).2 refused.source refused.now).length := by
    apply not_lt.mp
    intro fresh
    rw [(EnrollmentAttemptLimiter.allow_iff _ _ _).mpr fresh] at answered
    exact absurd (answered.symm.trans denied) (by decide)
  have timesSorted : (allowedTimes refused.source earlier).Pairwise (· ≤ ·) := by
    rw [allowedTimes, List.pairwise_map]
    exact ordered.1.sublist List.filter_sublist
  have inWindow : ∀ time ∈ limiter.recent (limiter.run before).2 refused.source refused.now,
      (decide (refused.now - limiter.windowSeconds < time) && decide (time ≤ refused.now)) = true := by
    intro time member
    rw [Bool.and_eq_true, decide_eq_true_eq, decide_eq_true_eq]
    constructor
    · apply lt_of_mem_dropWhile _ member
      cases held : (limiter.run before).2.get? refused.source with
      | none => exact List.Pairwise.nil
      | some times =>
        have suffix := (limiter.run_kept before).genuine refused.source times held
        rw [past] at suffix
        exact timesSorted.sublist suffix.sublist
    · obtain ⟨attempt, listed, rfl⟩ := List.mem_map.mp (genuine.subset member)
      exact ordered.2.2 attempt (List.mem_of_mem_filter listed) refused List.mem_cons_self
  rw [← countP_allowedTimes refused.source earlier
    fun time => refused.now - limiter.windowSeconds < time && time ≤ refused.now]
  calc limiter.limit
    _ ≤ (limiter.recent (limiter.run before).2 refused.source refused.now).length := full
    _ = (limiter.recent (limiter.run before).2 refused.source refused.now).countP
          (fun time => refused.now - limiter.windowSeconds < time && time ≤ refused.now) :=
        (List.countP_eq_length.mpr inWindow).symm
    _ ≤ _ := genuine.sublist.countP_le

/-- The limit of enrollment attempts over any sequence of calls whose times do not decrease. -/
theorem enrollment_attempts_limited (calls : List (String × T))
    (sorted : calls.Pairwise fun first second => first.2 ≤ second.2) :
    (∀ (source : String) (window : AttemptWindow T),
      limiter.limit < ((limiter.run calls).1.countP fun attempt =>
        attempt.allowed && attempt.source = source && window.holds limiter.windowSeconds attempt.now) →
      ∃ earlier first between last later, (limiter.run calls).1 = earlier ++ first :: (between ++ last :: later) ∧
        (∀ attempt ∈ [first, last], attempt.allowed = true ∧ attempt.source = source ∧
          window.holds limiter.windowSeconds attempt.now = true) ∧
        limiter.maxSources ≤ Dict.othersUsed source (between.map (·.source))) ∧
    (∀ earlier refused later, (limiter.run calls).1 = earlier ++ refused :: later → refused.allowed = false →
      limiter.limit ≤ earlier.countP fun attempt => attempt.allowed && attempt.source = refused.source &&
        (refused.now - limiter.windowSeconds < attempt.now && attempt.now ≤ refused.now)) ∧
    (limiter.run calls).2.size ≤ limiter.maxSources ∧
    ∀ times ∈ (limiter.run calls).2.values, times.length ≤ limiter.limit := by
  refine ⟨limiter.evicted_between sorted, fun _ _ _ => limiter.refused_full sorted,
    (limiter.run_kept calls).size, fun times member => ?_⟩
  obtain ⟨source, held⟩ := (Dict.mem_values _ _).mp member
  exact (limiter.run_kept calls).bounded source times held

/-- Two attempts of one source in a minute, one more than the limit, around the attempt of another. -/
theorem enrollment_attempts_limited_sample :
    ∃ earlier first between last later,
      ((⟨1, 60, 1⟩ : EnrollmentAttemptLimiter ℤ).run [("a", 0), ("b", 1), ("a", 2)]).1 =
        earlier ++ first :: (between ++ last :: later) ∧
      (∀ attempt ∈ [first, last], attempt.allowed = true ∧ attempt.source = "a" ∧
        (AttemptWindow.since 0).holds 60 attempt.now = true) ∧
      1 ≤ Dict.othersUsed "a" (between.map (·.source)) :=
  (enrollment_attempts_limited (⟨1, 60, 1⟩ : EnrollmentAttemptLimiter ℤ) [("a", 0), ("b", 1), ("a", 2)] (by decide)).1
    "a" (.since 0) (by decide)

end

end OpenAssetWatch.Identity
