import OpenAssetWatch.Library.Decimal
import OpenAssetWatch.Version.DebianOrder
import OpenAssetWatch.Version.Tokens

namespace OpenAssetWatch.Version

open Library.Comparator
open Library.Decimal (value Canonical)

/-- `~` sorts first, then the letters, then every other character. -/
def dpkgPlace (c : Char) : Nat := if c = '~' then 0 else if c.isAlpha then 1 else 2

/-- Two runs of non-digits: the end of a run comes after `~` and before everything else. -/
def dpkgText : List Char → List Char → Ordering
  | [], [] => .eq
  | [], d :: _ => if d = '~' then .gt else .lt
  | c :: _, [] => if c = '~' then .lt else .gt
  | c :: left, d :: right =>
    (compare (dpkgPlace c) (dpkgPlace d)).then ((compare c.toNat d.toNat).then (dpkgText left right))

def nonDigits (value : List Char) : List Char := value.takeWhile (!·.isDigit)

def fromDigits (value : List Char) : List Char := value.dropWhile (!·.isDigit)

def afterDigits (value : List Char) : List Char := (fromDigits value).dropWhile Char.isDigit

/-- A run of non-digits and the number after it; an empty run of digits counts as zero. -/
def dpkgRun (value : List Char) : List Char × Nat := (nonDigits value, number ((fromDigits value).takeWhile Char.isDigit))

theorem afterDigits_length (c : Char) (rest : List Char) : (afterDigits (c :: rest)).length < (c :: rest).length := by
  unfold afterDigits fromDigits
  by_cases digit : c.isDigit
  · rw [List.dropWhile_cons_of_neg (by rw [digit]; decide), List.dropWhile_cons_of_pos digit]
    exact Nat.lt_succ_of_le (List.dropWhile_suffix _).length_le
  · rw [List.dropWhile_cons_of_pos (by simpa using digit)]
    exact Nat.lt_succ_of_le ((List.dropWhile_suffix _).length_le.trans (List.dropWhile_suffix _).length_le)

/-- The alternating runs of a version part, from left to right. -/
def dpkgRuns (value : List Char) : List (List Char × Nat) :=
  match value with
  | [] => []
  | c :: rest => dpkgRun (c :: rest) :: dpkgRuns (afterDigits (c :: rest))
termination_by value.length
decreasing_by exact afterDigits_length c rest

def dpkgRunOrder (x y : List Char × Nat) : Ordering := (dpkgText x.1 y.1).then (compare x.2 y.2)

/-- An exhausted part goes on as an empty run with the number zero. -/
def dpkgPartOrder (left right : List Char) : Ordering :=
  padCompare dpkgRunOrder ([], 0) (dpkgRuns left) (dpkgRuns right)

structure DpkgVersion where
  epoch : Nat
  upstream : List Char
  revision : List Char

def dpkgOrder (l r : DpkgVersion) : Ordering :=
  (compare l.epoch r.epoch).then ((dpkgPartOrder l.upstream r.upstream).then (dpkgPartOrder l.revision r.revision))

/-- `upstream[-revision]`, the last hyphen being the one that splits; a missing revision is `0`. -/
def WritesRevision (value upstream revision : List Char) : Prop :=
  (value = upstream ++ '-' :: revision ∧ '-' ∉ revision) ∨ ('-' ∉ value ∧ upstream = value ∧ revision = ['0'])

def DpkgVersion.Writes (version : DpkgVersion) (value : List Char) : Prop :=
  ∃ rest, WritesEpoch value version.epoch rest ∧ WritesRevision rest version.upstream version.revision

theorem dpkgText_self (value : List Char) : dpkgText value value = .eq := by
  induction value with
  | nil => rfl
  | cons c rest ih =>
    rw [dpkgText, ih, compare_eq_iff_eq.mpr rfl, compare_eq_iff_eq.mpr rfl]
    rfl

instance : Std.ReflCmp dpkgRunOrder where
  compare_self {x} := by
    rw [dpkgRunOrder, dpkgText_self, compare_eq_iff_eq.mpr rfl]
    rfl

theorem dpkgRuns_head (value : List Char) : (dpkgRuns value).headD ([], 0) = dpkgRun value := by
  cases value with
  | nil =>
    rw [dpkgRuns]
    rfl
  | cons c rest =>
    rw [dpkgRuns]
    rfl

theorem dpkgRuns_tail (value : List Char) : (dpkgRuns value).tail = dpkgRuns (afterDigits value) := by
  cases value with
  | nil =>
    have done : afterDigits [] = [] := rfl
    rw [done, dpkgRuns]
    rfl
  | cons c rest =>
    rw [dpkgRuns]
    rfl

theorem dpkgPartOrder_step (left right : List Char) :
    dpkgPartOrder left right =
      (dpkgRunOrder (dpkgRun left) (dpkgRun right)).then (dpkgPartOrder (afterDigits left) (afterDigits right)) := by
  rw [dpkgPartOrder, padCompare_step, dpkgRuns_head, dpkgRuns_head, dpkgRuns_tail, dpkgRuns_tail]
  rfl

theorem compare_rank (c d : Char) :
    compare (debianNonDigitOrder (some c)) (debianNonDigitOrder (some d)) =
      (compare (dpkgPlace c) (dpkgPlace d)).then (compare c.toNat d.toNat) := by
  have below : ∀ {m n : Int} {p q k l : Nat}, m < n → p < q → compare m n = (compare p q).then (compare k l) := by
    intro m n p q k l less places
    rw [compare_lt_iff_lt.mpr less, compare_lt_iff_lt.mpr places]
    rfl
  have above : ∀ {m n : Int} {p q k l : Nat}, n < m → q < p → compare m n = (compare p q).then (compare k l) := by
    intro m n p q k l more places
    rw [compare_gt_iff_gt.mpr more, compare_gt_iff_gt.mpr places]
    rfl
  have within : ∀ (m n p : Nat) (k : Int), compare ((m : Int) + k) (n + k) = (compare p p).then (compare m n) := by
    intro m n p k
    rw [compare_eq_iff_eq.mpr rfl, Ordering.eq_then]
    rcases Nat.lt_trichotomy m n with less | same | more
    · rw [compare_lt_iff_lt.mpr less, compare_lt_iff_lt]
      omega
    · rw [same, compare_eq_iff_eq.mpr rfl, compare_eq_iff_eq.mpr rfl]
    · rw [compare_gt_iff_gt.mpr more, compare_gt_iff_gt]
      omega
  have tilde : debianNonDigitOrder (some '~') = -1 ∧ dpkgPlace '~' = 0 := by decide
  have letter : ∀ {e : Char}, e ≠ '~' → e.isAlpha → debianNonDigitOrder (some e) = e.toNat ∧ dpkgPlace e = 1 := by
    intro e notTilde alpha
    simp [debianNonDigitOrder, dpkgPlace, notTilde, alpha]
  have other : ∀ {e : Char}, e ≠ '~' → ¬ e.isAlpha → debianNonDigitOrder (some e) = e.toNat + 256 ∧ dpkgPlace e = 2 := by
    intro e notTilde alpha
    simp [debianNonDigitOrder, dpkgPlace, notTilde, alpha]
  by_cases hc : c = '~' <;> by_cases hd : d = '~'
  · subst hc hd
    rfl
  · subst hc
    rw [tilde.1, tilde.2]
    by_cases alpha : d.isAlpha
    · rw [(letter hd alpha).1, (letter hd alpha).2]
      exact below (by omega) (by decide)
    · rw [(other hd alpha).1, (other hd alpha).2]
      exact below (by omega) (by decide)
  · subst hd
    rw [tilde.1, tilde.2]
    by_cases alpha : c.isAlpha
    · rw [(letter hc alpha).1, (letter hc alpha).2]
      exact above (by omega) (by decide)
    · rw [(other hc alpha).1, (other hc alpha).2]
      exact above (by omega) (by decide)
  · by_cases ac : c.isAlpha <;> by_cases ad : d.isAlpha
    · rw [(letter hc ac).1, (letter hc ac).2, (letter hd ad).1, (letter hd ad).2]
      simpa using within c.toNat d.toNat 1 0
    · have range := isAlpha_range ac
      rw [(letter hc ac).1, (letter hc ac).2, (other hd ad).1, (other hd ad).2]
      exact below (by omega) (by decide)
    · have range := isAlpha_range ad
      rw [(other hc ac).1, (other hc ac).2, (letter hd ad).1, (letter hd ad).2]
      exact above (by omega) (by decide)
    · rw [(other hc ac).1, (other hc ac).2, (other hd ad).1, (other hd ad).2]
      exact within c.toNat d.toNat 2 256

theorem compare_rank_end (c : Char) :
    compare (debianNonDigitOrder (some c)) 0 = if c = '~' then .lt else .gt := by
  by_cases tilde : c = '~'
  · subst tilde
    rfl
  · have positive : 0 < debianNonDigitOrder (some c) := by
      have nonzero := character_rank_nonzero c
      simp only [debianNonDigitOrder, beq_iff_eq, tilde, if_false] at nonzero ⊢
      split at nonzero <;> rename_i alpha
      · rw [if_pos alpha]
        omega
      · rw [if_neg alpha]
        omega
    rw [if_neg tilde, compare_gt_iff_gt]
    exact positive

theorem leadingNonDigit_none {value : List Char} (h : leadingNonDigit value = none) :
    nonDigits value = [] ∧ fromDigits value = value := by
  cases value with
  | nil => exact ⟨rfl, rfl⟩
  | cons c rest =>
    simp only [leadingNonDigit, ite_eq_left_iff, reduceCtorEq, imp_false, not_not] at h
    have stops : ¬ (!c.isDigit) = true := by rw [h]; decide
    exact ⟨List.takeWhile_cons_of_neg stops, List.dropWhile_cons_of_neg stops⟩

theorem leadingNonDigit_some {value : List Char} {c : Char} (h : leadingNonDigit value = some c) :
    ∃ rest, value = c :: rest ∧ nonDigits value = c :: nonDigits rest ∧ fromDigits value = fromDigits rest := by
  cases value with
  | nil => cases h
  | cons d rest =>
    simp only [leadingNonDigit] at h
    split at h
    · cases h
    · rename_i nondigit
      cases h
      have goes : (!c.isDigit) = true := by simpa using nondigit
      exact ⟨rest, rfl, List.takeWhile_cons_of_pos goes, List.dropWhile_cons_of_pos goes⟩

theorem debianNonDigits_text (fuel : Nat) (left right : List Char) (enough : left.length + right.length ≤ fuel)
    {order : Ordering} {left' right' : List Char} (h : debianNonDigits fuel left right = (order, left', right')) :
    order = dpkgText (nonDigits left) (nonDigits right) ∧
      (order = .eq → left' = fromDigits left ∧ right' = fromDigits right) := by
  induction fuel generalizing left right with
  | zero =>
    have hl : left = [] := List.length_eq_zero_iff.mp (by omega)
    have hr : right = [] := List.length_eq_zero_iff.mp (by omega)
    subst hl hr
    cases h
    exact ⟨rfl, fun _ => ⟨rfl, rfl⟩⟩
  | succ fuel ih =>
    cases hl : leadingNonDigit left with
    | none =>
      obtain ⟨leftRun, leftRest⟩ := leadingNonDigit_none hl
      cases hr : leadingNonDigit right with
      | none =>
        obtain ⟨rightRun, rightRest⟩ := leadingNonDigit_none hr
        rw [debianNonDigits, hl, hr] at h
        cases h
        rw [leftRun, rightRun, leftRest, rightRest]
        exact ⟨rfl, fun _ => ⟨rfl, rfl⟩⟩
      | some d =>
        obtain ⟨rest, -, rightRun, -⟩ := leadingNonDigit_some hr
        have ends : compare (debianNonDigitOrder none) (debianNonDigitOrder (some d)) =
            if d = '~' then .gt else .lt := by
          have swapped : compare (debianNonDigitOrder none) (debianNonDigitOrder (some d)) =
              (compare (debianNonDigitOrder (some d)) 0).swap := Std.OrientedCmp.eq_swap
          rw [swapped, compare_rank_end]
          split <;> rfl
        have differs : (if d = '~' then Ordering.gt else .lt) ≠ .eq := by split <;> decide
        rw [debianNonDigits_decided fuel differs (by rw [hl, hr]; exact ends)] at h
        cases h
        rw [leftRun, rightRun]
        exact ⟨rfl, fun same => absurd same differs⟩
    | some c =>
      obtain ⟨rest, shape, leftRun, leftRest⟩ := leadingNonDigit_some hl
      cases hr : leadingNonDigit right with
      | none =>
        obtain ⟨rightRun, -⟩ := leadingNonDigit_none hr
        have differs : (if c = '~' then Ordering.lt else .gt) ≠ .eq := by split <;> decide
        rw [debianNonDigits_decided fuel differs (by rw [hl, hr]; exact compare_rank_end c)] at h
        cases h
        rw [leftRun, rightRun]
        exact ⟨rfl, fun same => absurd same differs⟩
      | some d =>
        obtain ⟨rest', shape', rightRun, rightRest⟩ := leadingNonDigit_some hr
        have ranks := compare_rank c d
        rw [leftRun, rightRun, leftRest, rightRest]
        by_cases same : compare (debianNonDigitOrder (some c)) (debianNonDigitOrder (some d)) = .eq
        · rw [debianNonDigits, hl, hr] at h
          simp only [same, skip_some, shape, shape', List.tail_cons] at h
          have rest := ih rest rest' (by rw [shape, shape', List.length_cons, List.length_cons] at enough; omega) h
          rw [dpkgText, ← Ordering.then_assoc, ← ranks, same]
          exact rest
        · rw [debianNonDigits_decided fuel same (by rw [hl, hr])] at h
          cases h
          rw [dpkgText, ← Ordering.then_assoc, ← ranks]
          exact ⟨(then_of_ne_eq same _).symm, fun equal => absurd equal same⟩

theorem canonical_stripZeros (digits : List Char) : Canonical (stripZeros digits) := by
  unfold stripZeros
  cases h : digits.dropWhile (· == '0') with
  | nil => exact ⟨Nat.zero_lt_one, fun more => absurd more (Nat.lt_irrefl _)⟩
  | cons c rest =>
    refine ⟨Nat.succ_pos _, fun _ leads => ?_⟩
    have first : c = '0' := Option.some.inj leads
    have kept := List.head?_dropWhile_not (· == '0') digits
    rw [h, List.head?_cons] at kept
    rw [first] at kept
    exact absurd kept (by decide)

theorem value_stripZeros (digits : List Char) : value (stripZeros digits) = number digits := by
  have stripped := Library.Decimal.value_dropZeros digits
  unfold stripZeros
  cases h : digits.dropWhile (· == '0') with
  | nil =>
    rw [h] at stripped
    exact stripped
  | cons c rest =>
    rw [h] at stripped
    exact stripped

theorem digits_leadingNumber (text : List Char) : ∀ c ∈ leadingNumber text, c.isDigit := by
  intro c member
  unfold leadingNumber stripZeros at member
  dsimp only at member
  split at member
  · rw [List.mem_singleton.mp member]
    rfl
  · exact List.mem_takeWhile_imp ((List.dropWhile_sublist _).subset member)

theorem compare_leadingNumber (left right : List Char) :
    (compare (leadingNumber left).length (leadingNumber right).length).then
        (compare (leadingNumber left) (leadingNumber right)) =
      compare (number (left.takeWhile Char.isDigit)) (number (right.takeWhile Char.isDigit)) := by
  rw [Library.Decimal.compare_canonical (digits_leadingNumber left) (digits_leadingNumber right)
    (canonical_stripZeros _) (canonical_stripZeros _)]
  rw [leadingNumber, leadingNumber, value_stripZeros, value_stripZeros]

theorem afterDigits_le (value : List Char) (turns : Nat) (h : value.length ≤ turns + 1) :
    (afterDigits value).length ≤ turns := by
  cases value with
  | nil => exact Nat.zero_le _
  | cons c rest => exact Nat.le_of_lt_succ (lt_of_lt_of_le (afterDigits_length c rest) h)

theorem dpkgPartOrder_turn {left right left' right' : List Char} {order : Ordering}
    (walk : debianNonDigits (left.length + right.length) left right = (order, left', right')) :
    dpkgPartOrder left right = order.then
        ((compare (leadingNumber left').length (leadingNumber right').length).then
          ((compare (leadingNumber left') (leadingNumber right')).then
            (dpkgPartOrder (left'.dropWhile Char.isDigit) (right'.dropWhile Char.isDigit)))) := by
  obtain ⟨runs, rests⟩ := debianNonDigits_text _ left right (Nat.le_refl _) walk
  rw [dpkgPartOrder_step, dpkgRunOrder, dpkgRun, dpkgRun, ← runs]
  by_cases same : order = .eq
  · obtain ⟨leftRest, rightRest⟩ := rests same
    subst same leftRest rightRest
    rw [Ordering.eq_then, Ordering.eq_then, ← Ordering.then_assoc, compare_leadingNumber]
    rfl
  · rw [Ordering.then_assoc, then_of_ne_eq same, then_of_ne_eq same]

theorem debianSegments_dpkg (turns : Nat) (left right : List Char) (hl : left.length ≤ turns) (hr : right.length ≤ turns) :
    debianSegments turns left right = .ok (dpkgPartOrder left right) := by
  fun_induction debianSegments turns left right with
  | case1 =>
    rw [dpkgPartOrder, dpkgRuns]
    rfl
  | case2 left right some =>
    exact absurd (List.length_eq_zero_iff.mp (Nat.le_zero.mp hr)) (some (List.length_eq_zero_iff.mp (Nat.le_zero.mp hl)))
  | case3 turns left right _ left' right' lengths digits walk ih =>
    obtain ⟨leftRest, rightRest⟩ := (debianNonDigits_text _ left right (Nat.le_refl _) walk).2 rfl
    rw [dpkgPartOrder_turn walk, lengths, digits]
    apply ih
    · rw [leftRest]
      exact afterDigits_le left turns hl
    · rw [rightRest]
      exact afterDigits_le right turns hr
  | case4 turns left right _ left' right' lengths walk decided =>
    rw [dpkgPartOrder_turn walk, lengths, Ordering.eq_then, Ordering.eq_then, then_of_ne_eq decided]
  | case5 turns left right _ left' right' walk decided =>
    rw [dpkgPartOrder_turn walk, Ordering.eq_then, then_of_ne_eq decided]
  | case6 turns left right _ decided left' right' different walk =>
    rw [dpkgPartOrder_turn walk, then_of_ne_eq different]

theorem debianPartCompare_dpkg {left right : List Char} (hl : left.length ≤ 160) (hr : right.length ≤ 160) :
    debianPartCompare left right = .ok (dpkgPartOrder left right) :=
  debianSegments_dpkg _ left right (hl.trans (by decide)) (hr.trans (by decide))

theorem splitRevision_writes {value upstream revision : List Char} (h : WritesRevision value upstream revision) :
    splitRevision value = (upstream, revision) := by
  rcases h with ⟨rfl, none⟩ | ⟨none, rfl, rfl⟩
  · have hyphen : (upstream ++ '-' :: revision).contains '-' = true := by
      rw [List.contains_iff_mem]
      exact List.mem_append_right _ List.mem_cons_self
    have kept : ∀ c ∈ revision.reverse, (c != '-') = true := by
      intro c member
      rw [bne_iff_ne]
      intro same
      exact none (same ▸ List.mem_reverse.mp member)
    have back : ((upstream ++ '-' :: revision).reverse.takeWhile (· != '-')).reverse = revision := by
      rw [List.reverse_append, List.reverse_cons, List.append_assoc, List.takeWhile_append_of_pos kept]
      rw [List.singleton_append, List.takeWhile_cons_of_neg (by decide), List.append_nil, List.reverse_reverse]
    have front : (upstream ++ '-' :: revision).length - revision.length - 1 = upstream.length := by
      rw [List.length_append, List.length_cons]
      omega
    simp only [splitRevision, hyphen, if_true, back, front, List.take_left]
  · have hyphen : upstream.contains '-' = false := by
      rw [← Bool.not_eq_true, List.contains_iff_mem]
      exact none
    simp only [splitRevision, hyphen, Bool.false_eq_true, if_false]

theorem writes_splitRevision (value : List Char) :
    WritesRevision value (splitRevision value).1 (splitRevision value).2 := by
  unfold splitRevision
  split
  · rename_i hyphen
    left
    let revision := (value.reverse.takeWhile (· != '-')).reverse
    have none : '-' ∉ revision := by
      intro member
      exact absurd (List.mem_takeWhile_imp (List.mem_reverse.mp member)) (by decide)
    have shape : ∃ upstream, value = upstream ++ '-' :: revision := by
      cases rest : value.reverse.dropWhile (· != '-') with
      | nil =>
        rw [List.dropWhile_eq_nil_iff] at rest
        exact absurd (rest '-' (List.mem_reverse.mpr (List.contains_iff_mem.mp hyphen))) (by decide)
      | cons c before =>
        have stops := List.head?_dropWhile_not (· != '-') value.reverse
        rw [rest, List.head?_cons] at stops
        have first : c = '-' := by simpa using stops
        refine ⟨before.reverse, ?_⟩
        have whole : value.reverse = value.reverse.takeWhile (· != '-') ++ '-' :: before := by
          have parts := (List.takeWhile_append_dropWhile (p := (· != '-')) (l := value.reverse)).symm
          rw [rest, first] at parts
          exact parts
        calc value = value.reverse.reverse := (List.reverse_reverse _).symm
          _ = (value.reverse.takeWhile (· != '-') ++ '-' :: before).reverse := congrArg List.reverse whole
          _ = before.reverse ++ '-' :: revision := by
            rw [List.reverse_append, List.reverse_cons, List.append_assoc, List.singleton_append]
    obtain ⟨upstream, shape⟩ := shape
    have front : value.take (value.length - revision.length - 1) = upstream := by
      rw [shape, List.length_append, List.length_cons]
      have length : upstream.length + (revision.length + 1) - revision.length - 1 = upstream.length := by omega
      rw [length, List.take_left]
    show value = value.take (value.length - revision.length - 1) ++ '-' :: revision ∧ '-' ∉ revision
    rw [front]
    exact ⟨shape, none⟩
  · rename_i hyphen
    exact Or.inr ⟨fun member => hyphen (List.contains_iff_mem.mpr member), rfl, rfl⟩

theorem splitRevision_length {value upstream revision : List Char} (h : WritesRevision value upstream revision)
    (fits : value.length ≤ 160) : upstream.length ≤ 160 ∧ revision.length ≤ 160 := by
  rcases h with ⟨rfl, -⟩ | ⟨-, rfl, rfl⟩
  · rw [List.length_append, List.length_cons] at fits
    omega
  · exact ⟨fits, by decide⟩

theorem debianCompare_parts {left right : List Char} {l r : DpkgVersion} (hl : left.length ≤ 160) (hr : right.length ≤ 160)
    (writesLeft : l.Writes left) (writesRight : r.Writes right) : debianCompare left right = .ok (dpkgOrder l r) := by
  obtain ⟨leftRest, leftEpoch, leftParts⟩ := writesLeft
  obtain ⟨rightRest, rightEpoch, rightParts⟩ := writesRight
  obtain ⟨leftUpstream, leftRevision⟩ := splitRevision_length leftParts ((splitEpoch_length leftEpoch).trans hl)
  obtain ⟨rightUpstream, rightRevision⟩ := splitRevision_length rightParts ((splitEpoch_length rightEpoch).trans hr)
  simp only [debianCompare, splitEpoch_writes leftEpoch, splitEpoch_writes rightEpoch, bind, Except.bind,
    splitRevision_writes leftParts, splitRevision_writes rightParts, debianPartCompare_dpkg leftUpstream rightUpstream,
    debianPartCompare_dpkg leftRevision rightRevision, dpkgOrder]
  cases compare l.epoch r.epoch with
  | eq =>
    rw [Ordering.eq_then]
    cases dpkgPartOrder l.upstream r.upstream <;> rfl
  | lt => rfl
  | gt => rfl

theorem writes_of_splitEpoch {value rest : List Char} {epoch : Nat} (h : splitEpoch value = .ok (epoch, rest)) :
    ∃ version : DpkgVersion, version.Writes value :=
  ⟨{ epoch, upstream := (splitRevision rest).1, revision := (splitRevision rest).2 }, rest, writes_splitEpoch h,
    writes_splitRevision rest⟩

/-- The code gives dpkg's order on every pair of versions that have one; otherwise an epoch is not a number.
The character loop always comes to the end of both runs, and the turn counter never ends the walk. -/
theorem debianCompare_dpkg (left right : List Char) (hl : safeVersion left) (hr : safeVersion right) :
    (∀ l r : DpkgVersion, l.Writes left → r.Writes right → debianCompare left right = .ok (dpkgOrder l r)) ∧
      (∀ error, debianCompare left right = .error error → error = .valueError "invalid epoch" ∧
        ((∀ l : DpkgVersion, ¬ l.Writes left) ∨ ∀ r : DpkgVersion, ¬ r.Writes right)) ∧
      ∀ x y x' y' : List Char, debianNonDigits (x.length + y.length) x y = (.eq, x', y') →
        leadingNonDigit x' = none ∧ leadingNonDigit y' = none := by
  refine ⟨fun l r => debianCompare_parts (safeVersion_length hl) (safeVersion_length hr), ?_, ?_⟩
  · intro error raised
    cases hleft : splitEpoch left with
    | error first =>
      have same : error = first := by
        simp only [debianCompare, hleft, bind, Except.bind] at raised
        exact (Except.error.inj raised).symm
      refine ⟨same.trans (splitEpoch_error hleft), Or.inl ?_⟩
      rintro l ⟨rest, epoch, -⟩
      rw [splitEpoch_writes epoch] at hleft
      cases hleft
    | ok leftSplit =>
      obtain ⟨l, writesLeft⟩ := writes_of_splitEpoch hleft
      cases hright : splitEpoch right with
      | error second =>
        have same : error = second := by
          simp only [debianCompare, hleft, hright, bind, Except.bind] at raised
          exact (Except.error.inj raised).symm
        refine ⟨same.trans (splitEpoch_error hright), Or.inr ?_⟩
        rintro r ⟨rest, epoch, -⟩
        rw [splitEpoch_writes epoch] at hright
        cases hright
      | ok rightSplit =>
        obtain ⟨r, writesRight⟩ := writes_of_splitEpoch hright
        rw [debianCompare_parts (safeVersion_length hl) (safeVersion_length hr) writesLeft writesRight] at raised
        cases raised
  · intro x y x' y' walk
    exact (debianNonDigits_key _ x y (Nat.le_refl _) walk).2 rfl

theorem debianCompare_dpkg_sample :
    debianCompare "1:1.0~rc1-1".toList "1:1.0-1".toList = .ok .lt ∧
      dpkgOrder { epoch := 1, upstream := "1.0~rc1".toList, revision := "1".toList }
        { epoch := 1, upstream := "1.0".toList, revision := "1".toList } = .lt := by
  have h := (debianCompare_dpkg "1:1.0~rc1-1".toList "1:1.0-1".toList (by decide) (by decide)).1
    { epoch := 1, upstream := "1.0~rc1".toList, revision := "1".toList }
    { epoch := 1, upstream := "1.0".toList, revision := "1".toList }
    ⟨"1.0~rc1-1".toList, Or.inl ⟨"1".toList, by decide, by decide, by decide⟩, Or.inl ⟨by decide, by decide⟩⟩
    ⟨"1.0-1".toList, Or.inl ⟨"1".toList, by decide, by decide, by decide⟩, Or.inl ⟨by decide, by decide⟩⟩
  have decided : debianCompare "1:1.0~rc1-1".toList "1:1.0-1".toList = .ok .lt := by decide
  rw [decided] at h
  exact ⟨decided, (Except.ok.inj h).symm⟩

end OpenAssetWatch.Version
