import OpenAssetWatch.Version.Compare

namespace OpenAssetWatch.Version

open Library.Comparator

/-- What the walk compares at one position: a character's rank, or the length and digits of a number. -/
abbrev DebianPart := Int × Nat × List Char

def debianPartOrder : DebianPart → DebianPart → Ordering :=
  compareLex (compareOn (·.1)) (compareLex (compareOn (·.2.1)) (compareOn (·.2.2)))

instance : Std.TransCmp debianPartOrder := by unfold debianPartOrder; infer_instance

def characterPart (c : Char) : DebianPart := (debianNonDigitOrder (some c), 1, ['0'])

def numberPart (value : List Char) : DebianPart := (0, (leadingNumber value).length, leadingNumber value)

/-- The position past the end of a version: no character, and the number zero. -/
def endPart : DebianPart := (0, 1, ['0'])

def debianKey (value : List Char) : List DebianPart :=
  match value with
  | [] => []
  | c :: rest =>
    if c.isDigit then numberPart (c :: rest) :: debianKey (rest.dropWhile Char.isDigit)
    else characterPart c :: debianKey rest
termination_by value.length
decreasing_by
  · exact Nat.lt_succ_of_le (List.dropWhile_suffix _).length_le
  · exact Nat.lt_succ_self _

def debianKeyOrder : List DebianPart → List DebianPart → Ordering := padCompare debianPartOrder endPart

instance : Std.TransCmp debianKeyOrder := by unfold debianKeyOrder; infer_instance

theorem debianKeyOrder_step (xs ys : List DebianPart) :
    debianKeyOrder xs ys =
      (debianPartOrder (xs.headD endPart) (ys.headD endPart)).then (debianKeyOrder xs.tail ys.tail) :=
  padCompare_step debianPartOrder endPart xs ys

theorem character_rank_nonzero (c : Char) : debianNonDigitOrder (some c) ≠ 0 := by
  simp only [debianNonDigitOrder]
  split
  · decide
  · split
    · rename_i alpha
      intro zero
      have h : c.toNat = 0 := by omega
      have null : c = Char.ofNat 0 := by rw [← h, Char.ofNat_toNat]
      subst null
      exact absurd alpha (by decide)
    · omega

theorem debianPartOrder_rank {x y : DebianPart} (h : compare x.1 y.1 ≠ .eq) :
    debianPartOrder x y = compare x.1 y.1 := by
  unfold debianPartOrder compareLex
  simp only [compareOn]
  cases hc : compare x.1 y.1 <;> simp_all [Ordering.then]

theorem debianKey_character {value : List Char} {c : Char} (h : leadingNonDigit value = some c) :
    debianKey value = characterPart c :: debianKey value.tail := by
  rcases value with _ | ⟨d, rest⟩
  · cases h
  · simp only [leadingNonDigit] at h
    split at h
    · cases h
    · cases h
      rename_i nondigit
      rw [debianKey, if_neg nondigit]
      rfl

theorem debianKey_number {value : List Char} (h : leadingNonDigit value = none) :
    (debianKey value).headD endPart = numberPart value ∧
      (debianKey value).tail = debianKey (value.dropWhile Char.isDigit) := by
  rcases value with _ | ⟨c, rest⟩
  · rw [List.dropWhile_nil, debianKey]
    exact ⟨rfl, rfl⟩
  · simp only [leadingNonDigit] at h
    split at h
    · rename_i digit
      rw [debianKey, if_pos digit, List.dropWhile_cons_of_pos digit]
      exact ⟨rfl, rfl⟩
    · cases h

theorem debianKey_rank (value : List Char) :
    ((debianKey value).headD endPart).1 = debianNonDigitOrder (leadingNonDigit value) := by
  cases h : leadingNonDigit value with
  | none => rw [(debianKey_number h).1]; rfl
  | some c => rw [debianKey_character h]; rfl

theorem characterPart_eq {c d : Char} (h : debianNonDigitOrder (some c) = debianNonDigitOrder (some d)) :
    debianPartOrder (characterPart c) (characterPart d) = .eq := by
  rw [characterPart, characterPart, h]
  exact Std.ReflCmp.compare_self

theorem skip_some (c : Char) (value : List Char) : skip (some c) value = value.tail := rfl

theorem leadingNonDigit_length {value : List Char} {c : Char} (h : leadingNonDigit value = some c) :
    value.tail.length < value.length := by
  rcases value with _ | ⟨d, rest⟩
  · cases h
  · exact Nat.lt_succ_self _

theorem debianKeyOrder_decided {left right : List Char} {decided : Ordering} (different : decided ≠ .eq)
    (h : compare (debianNonDigitOrder (leadingNonDigit left))
      (debianNonDigitOrder (leadingNonDigit right)) = decided) :
    debianKeyOrder (debianKey left) (debianKey right) = decided := by
  rw [← debianKey_rank, ← debianKey_rank] at h
  rw [debianKeyOrder_step, debianPartOrder_rank (h ▸ different), h]
  cases decided <;> first | rfl | contradiction

theorem debianNonDigits_decided (fuel : Nat) {left right : List Char} {decided : Ordering}
    (different : decided ≠ .eq)
    (h : compare (debianNonDigitOrder (leadingNonDigit left))
      (debianNonDigitOrder (leadingNonDigit right)) = decided) :
    debianNonDigits (fuel + 1) left right = (decided, left, right) := by
  rw [debianNonDigits]
  cases hl : leadingNonDigit left <;> cases hr : leadingNonDigit right <;> simp only [hl, hr] at h ⊢
  · exact absurd (h.symm.trans Std.ReflCmp.compare_self) different
  all_goals
    rw [h]
    cases decided <;> first | rfl | contradiction

theorem then_of_ne_eq {order : Ordering} (h : order ≠ .eq) (rest : Ordering) : order.then rest = order := by
  cases order <;> first | rfl | contradiction

theorem debianNonDigits_key (fuel : Nat) (left right : List Char)
    (enough : left.length + right.length ≤ fuel) {order : Ordering} {left' right' : List Char}
    (h : debianNonDigits fuel left right = (order, left', right')) :
    debianKeyOrder (debianKey left) (debianKey right) =
        order.then (debianKeyOrder (debianKey left') (debianKey right')) ∧
      (order = .eq → leadingNonDigit left' = none ∧ leadingNonDigit right' = none) := by
  induction fuel generalizing left right with
  | zero =>
    have hl : left = [] := List.length_eq_zero_iff.mp (by omega)
    have hr : right = [] := List.length_eq_zero_iff.mp (by omega)
    subst hl hr
    cases h
    exact ⟨rfl, fun _ => ⟨rfl, rfl⟩⟩
  | succ fuel ih =>
    by_cases hc : compare (debianNonDigitOrder (leadingNonDigit left))
        (debianNonDigitOrder (leadingNonDigit right)) = .eq
    · have ranks := compare_eq_iff_eq.mp hc
      rw [debianNonDigits] at h
      cases hl : leadingNonDigit left <;> cases hr : leadingNonDigit right <;>
        simp only [hl, hr] at h hc ranks
      · cases h
        exact ⟨rfl, fun _ => ⟨hl, hr⟩⟩
      · exact absurd ranks.symm (character_rank_nonzero _)
      · exact absurd ranks (character_rank_nonzero _)
      · rename_i c d
        simp only [hc, skip_some] at h
        have hlen := leadingNonDigit_length hl
        have rlen := leadingNonDigit_length hr
        have rest := ih left.tail right.tail (by omega) h
        rw [debianKeyOrder_step, debianKey_character hl, debianKey_character hr]
        simp only [List.headD_cons, List.tail_cons, characterPart_eq ranks]
        exact rest
    · rw [debianNonDigits_decided fuel hc rfl] at h
      rw [debianKeyOrder_decided hc rfl]
      cases h
      refine ⟨?_, fun impossible => absurd impossible hc⟩
      exact (then_of_ne_eq hc _).symm

theorem debianKeyOrder_number {left right : List Char} (hl : leadingNonDigit left = none)
    (hr : leadingNonDigit right = none) :
    debianKeyOrder (debianKey left) (debianKey right) =
      (compare (leadingNumber left).length (leadingNumber right).length).then
        ((compare (leadingNumber left) (leadingNumber right)).then
          (debianKeyOrder (debianKey (left.dropWhile Char.isDigit))
            (debianKey (right.dropWhile Char.isDigit)))) := by
  have parts : debianPartOrder (numberPart left) (numberPart right) =
      (compare (leadingNumber left).length (leadingNumber right).length).then
        (compare (leadingNumber left) (leadingNumber right)) := rfl
  obtain ⟨lhead, ltail⟩ := debianKey_number hl
  obtain ⟨rhead, rtail⟩ := debianKey_number hr
  rw [debianKeyOrder_step, lhead, rhead, ltail, rtail, parts, Ordering.then_assoc]

theorem debianKeyOrder_turn {left right left' right' : List Char}
    (walk : debianNonDigits (left.length + right.length) left right = (.eq, left', right')) :
    debianKeyOrder (debianKey left) (debianKey right) =
      (compare (leadingNumber left').length (leadingNumber right').length).then
        ((compare (leadingNumber left') (leadingNumber right')).then
          (debianKeyOrder (debianKey (left'.dropWhile Char.isDigit))
            (debianKey (right'.dropWhile Char.isDigit)))) := by
  obtain ⟨keys, numbers⟩ := debianNonDigits_key _ left right (Nat.le_refl _) walk
  rw [keys]
  exact debianKeyOrder_number (numbers rfl).1 (numbers rfl).2

theorem debianSegments_key (turns : Nat) {left right : List Char} {order : Ordering}
    (h : debianSegments turns left right = .ok order) :
    debianKeyOrder (debianKey left) (debianKey right) = order := by
  fun_induction debianSegments turns left right with
  | case1 => cases h; exact Std.ReflCmp.compare_self
  | case2 => cases h
  | case3 turns left right _ left' right' lengths digits walk ih =>
    rw [debianKeyOrder_turn walk, lengths, digits]
    exact ih h
  | case4 turns left right _ left' right' lengths walk decided =>
    cases h
    rw [debianKeyOrder_turn walk, lengths]
    exact then_of_ne_eq decided _
  | case5 turns left right _ left' right' walk decided =>
    cases h
    rw [debianKeyOrder_turn walk]
    exact then_of_ne_eq decided _
  | case6 turns left right _ decided left' right' different walk =>
    cases h
    rw [(debianNonDigits_key _ left right (Nat.le_refl _) walk).1]
    exact then_of_ne_eq different _

/-- Epoch, upstream version and revision, the last two as keys. -/
abbrev DebianVersion := Nat × List DebianPart × List DebianPart

def debianVersionOrder : DebianVersion → DebianVersion → Ordering :=
  compareLex (compareOn (·.1))
    (compareLex (fun x y => debianKeyOrder x.2.1 y.2.1) (fun x y => debianKeyOrder x.2.2 y.2.2))

instance : Std.TransCmp debianVersionOrder := by
  have upstream := transCmp_onKey (fun x : DebianVersion => x.2.1) debianKeyOrder
  have revision := transCmp_onKey (fun x : DebianVersion => x.2.2) debianKeyOrder
  unfold debianVersionOrder
  infer_instance

def debianVersion (value : List Char) : Option DebianVersion :=
  match splitEpoch value with
  | .error _ => none
  | .ok (epoch, remainder) =>
    some (epoch, debianKey (splitRevision remainder).1, debianKey (splitRevision remainder).2)

theorem debianCompare_key {left right : List Char} {order : Ordering}
    (h : debianCompare left right = .ok order) :
    onParsed debianVersion debianVersionOrder left right = order := by
  unfold debianCompare at h
  unfold onParsed debianVersion
  cases hl : splitEpoch left with
  | error _ => simp only [hl, bind, Except.bind] at h; cases h
  | ok l =>
    cases hr : splitEpoch right with
    | error _ => simp only [hl, hr, bind, Except.bind] at h; cases h
    | ok r =>
      simp only [hl, hr, bind, Except.bind, debianPartCompare] at h
      simp only [debianVersionOrder, compareLex, compareOn]
      by_cases epochs : compare l.1 r.1 = .eq
      · rw [epochs] at h ⊢
        cases upstream : debianSegments (maxVersionParts * 4) (splitRevision l.2).1 (splitRevision r.2).1 with
        | error _ => simp only [upstream] at h; cases h
        | ok decided =>
          rw [debianSegments_key _ upstream]
          simp only [upstream] at h
          by_cases equal : decided = .eq
          · subst equal
            exact debianSegments_key _ h
          · cases decided <;> first | contradiction | (cases h; rfl)
      · rw [then_of_ne_eq epochs]
        cases decided : compare l.1 r.1 <;> rw [decided] at h <;> first | contradiction | (cases h; rfl)

end OpenAssetWatch.Version
