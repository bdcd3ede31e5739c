import Mathlib

namespace Library.Brackets

/-- What a symbol does to the nesting. -/
inductive Side where
  | opens
  | closes
  | neither
deriving DecidableEq

section Depth

variable {α : Type*} (side : α → Side)

/-- The nesting behind a symbol; what closes nothing is passed over. -/
def step (depth : Nat) (symbol : α) : Nat :=
  match side symbol with
  | .opens => depth + 1
  | .closes => depth - 1
  | .neither => depth

def depth (start : Nat) (symbols : List α) : Nat := symbols.foldl (step side) start

/-- Every bracket is closed, and none closes what is not open. -/
inductive Balanced : List α → Prop
  | nil : Balanced []
  | other {symbol : α} {rest : List α} : side symbol = .neither → Balanced rest → Balanced (symbol :: rest)
  | group {first last : α} {inner rest : List α} : side first = .opens → side last = .closes → Balanced inner → Balanced rest →
      Balanced (first :: (inner ++ last :: rest))

/-- A bracket is open at the end. -/
def Open (symbols : List α) : Prop :=
  ∃ before first inner, symbols = before ++ first :: inner ∧ side first = .opens ∧ Balanced side inner

/-- The place between two texts is inside of a bracket and the one that closes it; `at_` is what stands there. -/
def Inside (left : List α) (symbol : α) (right : List α) : Prop :=
  ∃ before first inner after last rest, left = before ++ first :: inner ∧ right = after ++ last :: rest ∧ side first = .opens ∧
    side last = .closes ∧ Balanced side (inner ++ symbol :: after)

variable {side}

theorem depth_append (start : Nat) (left right : List α) :
    depth side start (left ++ right) = depth side (depth side start left) right :=
  List.foldl_append

theorem depth_cons (start : Nat) (symbol : α) (rest : List α) :
    depth side start (symbol :: rest) = depth side (step side start symbol) rest :=
  rfl

theorem step_opens {symbol : α} (opens : side symbol = .opens) (depth : Nat) : step side depth symbol = depth + 1 := by
  rw [step, opens]

theorem step_closes {symbol : α} (closes : side symbol = .closes) (depth : Nat) : step side depth symbol = depth - 1 := by
  rw [step, closes]

theorem step_neither {symbol : α} (neither : side symbol = .neither) (depth : Nat) : step side depth symbol = depth := by
  rw [step, neither]

theorem Balanced.append {left right : List α} (first : Balanced side left) (second : Balanced side right) :
    Balanced side (left ++ right) := by
  induction first with
  | nil => exact second
  | other neither _ hypothesis => exact .other neither hypothesis
  | group opens closes inner _ _ hypothesis =>
    rw [List.cons_append, List.append_assoc]
    exact .group opens closes inner hypothesis

theorem Balanced.depth_eq {symbols : List α} (balanced : Balanced side symbols) (start : Nat) :
    depth side start symbols = start := by
  induction balanced generalizing start with
  | nil => rfl
  | other neither _ hypothesis => rw [depth_cons, step_neither neither, hypothesis]
  | group opens closes _ _ inner rest =>
    rw [depth_cons, step_opens opens, depth_append, inner, depth_cons, step_closes closes, rest]
    rfl

theorem Balanced.le_depth {symbols : List α} (balanced : Balanced side symbols) {left right : List α}
    (split : symbols = left ++ right)
    (start : Nat) : start ≤ depth side start left := by
  induction balanced generalizing left right start with
  | nil =>
    rw [(List.append_eq_nil_iff.mp split.symm).1]
    exact Nat.le_refl start
  | @other symbol rest neither _ hypothesis =>
    cases left with
    | nil => exact Nat.le_refl start
    | cons head left =>
      obtain ⟨rfl, behind⟩ := List.cons.inj split
      rw [depth_cons, step_neither neither]
      exact hypothesis behind start
  | @group first last inner rest opens closes balanced _ within behind =>
    cases left with
    | nil => exact Nat.le_refl start
    | cons head left =>
      obtain ⟨rfl, tail⟩ := List.cons.inj split
      rw [depth_cons, step_opens opens]
      rcases List.append_eq_append_iff.mp tail with ⟨middle, rfl, others⟩ | ⟨middle, rfl, -⟩
      · cases middle with
        | nil =>
          rw [List.append_nil, balanced.depth_eq]
          exact Nat.le_succ start
        | cons head middle =>
          obtain ⟨rfl, left⟩ := List.cons.inj others
          rw [depth_append, balanced.depth_eq, depth_cons, step_closes closes]
          exact behind left start
      · exact (Nat.le_succ start).trans (within rfl (start + 1))

theorem Open.pos {symbols : List α} (unclosed : Open side symbols) (start : Nat) : 0 < depth side start symbols := by
  obtain ⟨before, first, inner, rfl, opens, balanced⟩ := unclosed
  rw [depth_append, depth_cons, step_opens opens, balanced.depth_eq]
  exact Nat.succ_pos _

theorem Inside.pos {left right : List α} {symbol : α} (inside : Inside side left symbol right) (start : Nat) :
    0 < depth side start left := by
  obtain ⟨before, first, inner, after, last, rest, rfl, -, opens, -, balanced⟩ := inside
  rw [depth_append, depth_cons, step_opens opens]
  exact (Nat.succ_pos _).trans_le (balanced.le_depth rfl _)

theorem exists_open {symbols : List α} (positive : 0 < depth side 0 symbols) :
    ∃ before first inner, symbols = before ++ first :: inner ∧ side first = .opens ∧ Balanced side inner ∧
      depth side 0 symbols = depth side 0 before + 1 := by
  induction length : symbols.length using Nat.strongRecOn generalizing symbols with
  | _ n hypothesis =>
    rcases List.eq_nil_or_concat' symbols with rfl | ⟨start, symbol, rfl⟩
    · exact absurd positive (Nat.lt_irrefl 0)
    · rw [List.length_append, List.length_singleton] at length
      have last : depth side 0 (start ++ [symbol]) = step side (depth side 0 start) symbol := depth_append 0 start [symbol]
      rw [last] at positive ⊢
      cases kind : side symbol with
      | opens => exact ⟨start, symbol, [], rfl, kind, .nil, step_opens kind _⟩
      | neither =>
        rw [step_neither kind] at positive ⊢
        obtain ⟨before, first, inner, rfl, opens, balanced, deep⟩ := hypothesis start.length (by omega) positive rfl
        exact ⟨before, first, inner ++ [symbol], by simp, opens, balanced.append (.other kind .nil), deep⟩
      | closes =>
        rw [step_closes kind] at positive ⊢
        -- The bracket that is closed here is the last open one before; the one around it stays open.
        obtain ⟨around, closed, content, rfl, opensClosed, balancedClosed, deep⟩ :=
          hypothesis start.length (by omega) (by omega) rfl
        rw [List.length_append, List.length_cons] at length
        obtain ⟨before, first, inner, rfl, opens, balanced, deeper⟩ := hypothesis around.length (by omega) (by omega) rfl
        refine ⟨before, first, inner ++ closed :: (content ++ [symbol]), by simp, opens,
          balanced.append (.group opensClosed kind balancedClosed .nil), ?_⟩
        rw [deep, Nat.add_sub_cancel]
        exact deeper

theorem pos_iff_open {symbols : List α} : 0 < depth side 0 symbols ↔ Open side symbols := by
  constructor
  · intro positive
    obtain ⟨before, first, inner, split, opens, balanced, -⟩ := exists_open positive
    exact ⟨before, first, inner, split, opens, balanced⟩
  · exact fun unclosed => unclosed.pos 0

end Depth

section Splitting

variable {α : Type*} (side : α → Side) (separator : α)

/-- The pieces between the separators at nesting 0, and what is behind the last of them; `piece` is what comes before. -/
def cut [DecidableEq α] (nesting : Nat) (piece : List α) : List α → List (List α) × List α
  | [] => ([], piece)
  | symbol :: rest =>
    if symbol = separator ∧ nesting = 0 then
      let others := cut 0 [] rest
      (piece :: others.1, others.2)
    else cut (step side nesting symbol) (piece ++ [symbol]) rest

/-- The separators of a piece are behind an open bracket. -/
def Whole (piece : List α) : Prop := ∀ before after, piece = before ++ separator :: after → 0 < depth side 0 before

variable {side separator}

theorem Whole.append {piece : List α} (whole : Whole side separator piece) {symbol : α}
    (kept : ¬ (symbol = separator ∧ depth side 0 piece = 0)) : Whole side separator (piece ++ [symbol]) := by
  intro before after split
  rcases List.eq_nil_or_concat' after with rfl | ⟨start, last, rfl⟩
  · obtain ⟨same, symbols⟩ := List.append_inj' split rfl
    rw [← same]
    exact Nat.pos_of_ne_zero fun zero => kept ⟨List.head_eq_of_cons_eq symbols, zero⟩
  · have shorter : piece ++ [symbol] = (before ++ separator :: start) ++ [last] := by
      rw [split]
      simp
    exact whole before start (List.append_inj' shorter rfl).1

theorem intercalate_cons_cons (first second : List α) (rest : List (List α)) :
    [separator].intercalate (first :: second :: rest) = first ++ separator :: [separator].intercalate (second :: rest) := by
  simp [List.intercalate]

theorem cut_spec [DecidableEq α] (neither : side separator = .neither) {nesting : Nat} {piece : List α} (symbols : List α)
    (nested : depth side 0 piece = nesting) (whole : Whole side separator piece) :
    [separator].intercalate ((cut side separator nesting piece symbols).1 ++ [(cut side separator nesting piece symbols).2]) =
        piece ++ symbols ∧
      (∀ part ∈ (cut side separator nesting piece symbols).1, depth side 0 part = 0) ∧
      ∀ part ∈ (cut side separator nesting piece symbols).1 ++ [(cut side separator nesting piece symbols).2],
        Whole side separator part := by
  induction symbols generalizing nesting piece with
  | nil =>
    have joined : [separator].intercalate [piece] = piece ++ [] := by simp [List.intercalate]
    have none : ∀ part ∈ ([] : List (List α)), depth side 0 part = 0 := by simp
    have only : ∀ part ∈ [piece], Whole side separator part := List.forall_mem_singleton.mpr whole
    exact ⟨joined, none, only⟩
  | cons symbol rest hypothesis =>
    rw [cut]
    split
    · rename_i top
      obtain ⟨rfl, rfl⟩ := top
      have empty : Whole side symbol ([] : List α) := by
        intro before after impossible
        cases before <;> cases impossible
      obtain ⟨joined, flat, parts⟩ := @hypothesis 0 [] rfl empty
      generalize cut side symbol 0 [] rest = others at joined flat parts
      obtain ⟨others, tail⟩ := others
      refine ⟨?_, List.forall_mem_cons.mpr ⟨nested, flat⟩, List.forall_mem_cons.mpr ⟨whole, parts⟩⟩
      rw [List.nil_append] at joined
      cases others with
      | nil =>
        show [symbol].intercalate [piece, tail] = piece ++ symbol :: rest
        rw [intercalate_cons_cons, ← joined]
        rfl
      | cons next others =>
        show [symbol].intercalate (piece :: next :: (others ++ [tail])) = piece ++ symbol :: rest
        rw [intercalate_cons_cons, ← joined]
        rfl
    · rename_i kept
      rw [← nested] at kept
      have deeper : depth side 0 (piece ++ [symbol]) = step side nesting symbol := by
        rw [depth_append, nested]
        rfl
      have spec := hypothesis deeper (whole.append kept)
      rw [List.append_assoc] at spec
      exact spec

theorem depth_intercalate (neither : side separator = .neither) {parts : List (List α)}
    (flat : ∀ part ∈ parts, depth side 0 part = 0) : depth side 0 ([separator].intercalate parts) = 0 := by
  induction parts with
  | nil => rfl
  | cons first rest hypothesis =>
    rw [List.forall_mem_cons] at flat
    cases rest with
    | nil =>
      show depth side 0 ([separator].intercalate [first]) = 0
      simpa [List.intercalate] using flat.1
    | cons second rest =>
      rw [intercalate_cons_cons, depth_append, flat.1, depth_cons, step_neither neither]
      exact hypothesis flat.2

end Splitting

end Library.Brackets
