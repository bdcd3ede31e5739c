import OpenAssetWatch.Library.Brackets
import OpenAssetWatch.Text.Unicode

namespace OpenAssetWatch.Schema

open Library Text

section Source

def isQuote (c : Char) : Bool := c = '\'' || c = '"'

/-- The walk of `_split_sql_items`: the items up to the last comma it splits at, and what is behind; `item` is
`body[start:index]`. -/
def walk (quote : Option Char) (depth : Nat) (item : List Char) : List Char → List (List Char) × List Char
  | [] => ([], item)
  | char :: rest =>
    match quote with
    | some mark =>
      if char = mark then
        match rest with
        -- The walk skips the second of two quotes.
        | next :: behind =>
          if next = mark then walk quote depth (item ++ [char, next]) behind else walk none depth (item ++ [char])
            (next :: behind)
        | [] => walk none depth (item ++ [char]) []
      else walk quote depth (item ++ [char]) rest
    | none =>
      if isQuote char = true then walk (some char) depth (item ++ [char]) rest
      else if char = '(' then walk none (depth + 1) (item ++ [char]) rest
      else if char = ')' then walk none (depth - 1) (item ++ [char]) rest
      else if char = ',' ∧ depth = 0 then
        let others := walk none depth [] rest
        (item :: others.1, others.2)
      else walk none depth (item ++ [char]) rest

example (quote : Option Char) (depth : Nat) (item : List Char) : walk quote depth item [] = ([], item) := by rw [walk]

def strip (value : List Char) : List Char := stripChars isSpace value

/-- `_split_sql_items`. -/
def splitSqlItems (body : List Char) : List (List Char) :=
  let walked := walk none 0 [] body
  walked.1.map strip ++ if strip walked.2 = [] then [] else [strip walked.2]

end Source

section Tokens

/-- The parts of a text: a literal holds its content without the doubling of quotes. -/
inductive Token where
  | plain (char : Char)
  | literal (quote : Char) (content : List Char)
  | unclosed (quote : Char) (content : List Char)
deriving DecidableEq

/-- A content with the quotes in it doubled. -/
def doubled (quote : Char) (content : List Char) : List Char := content.flatMap fun c => if c = quote then [c, c] else [c]

def Token.text : Token → List Char
  | .plain char => [char]
  | .literal quote content => quote :: (doubled quote content ++ [quote])
  | .unclosed quote content => quote :: doubled quote content

/-- The quote that a literal starts with. -/
def Token.quote? : Token → Option Char
  | .plain _ => none
  | .literal quote _ | .unclosed quote _ => some quote

/-- The parts of a text as it is read: what follows a literal does not double its quote, and only the last one is not closed. -/
inductive WellRead : List Token → Prop
  | nil : WellRead []
  | plain {char : Char} {rest : List Token} : isQuote char = false → WellRead rest → WellRead (.plain char :: rest)
  | literal {quote : Char} {content : List Char} {rest : List Token} : isQuote quote = true →
      (∀ next ∈ rest.head?, next.quote? ≠ some quote) → WellRead rest → WellRead (.literal quote content :: rest)
  | unclosed {quote : Char} {content : List Char} : isQuote quote = true → WellRead [.unclosed quote content]

def render (tokens : List Token) : List Char := tokens.flatMap Token.text

def side : Token → Brackets.Side
  | .plain '(' => .opens
  | .plain ')' => .closes
  | _ => .neither

def comma : Token := .plain ','

end Tokens

section Walking

theorem walk_plain {char : Char} (unquoted : isQuote char = false) (depth : Nat) (item rest : List Char) :
    walk none depth item (char :: rest) =
      if Token.plain char = comma ∧ depth = 0 then
        let others := walk none 0 [] rest
        (item :: others.1, others.2)
      else walk none (Brackets.step side depth (.plain char)) (item ++ [char]) rest := by
  rw [walk]
  dsimp only
  rw [if_neg (by rw [unquoted]; exact Bool.false_ne_true)]
  by_cases opens : char = '('
  · subst opens
    rfl
  · rw [if_neg opens]
    by_cases closes : char = ')'
    · subst closes
      rfl
    · rw [if_neg closes]
      have neither : Brackets.step side depth (.plain char) = depth := by
        apply Brackets.step_neither
        unfold side
        split
        · rename_i same
          exact absurd (Token.plain.inj same) opens
        · rename_i same
          exact absurd (Token.plain.inj same) closes
        · rfl
      rw [neither]
      by_cases top : char = ',' ∧ depth = 0
      · obtain ⟨rfl, rfl⟩ := top
        rfl
      · rw [if_neg top, if_neg (fun both => top ⟨Token.plain.inj both.1, both.2⟩)]

theorem walk_quote {char : Char} (opens : isQuote char = true) (depth : Nat) (item rest : List Char) :
    walk none depth item (char :: rest) = walk (some char) depth (item ++ [char]) rest := by
  rw [walk.eq_def]
  exact if_pos opens

theorem walk_other {quote char : Char} (other : char ≠ quote) (depth : Nat) (item rest : List Char) :
    walk (some quote) depth item (char :: rest) = walk (some quote) depth (item ++ [char]) rest := by
  rw [walk.eq_def]
  exact if_neg other

theorem walk_doubled (quote : Char) (depth : Nat) (item rest : List Char) :
    walk (some quote) depth item (quote :: quote :: rest) = walk (some quote) depth (item ++ [quote, quote]) rest := by
  rw [walk.eq_def]
  exact (if_pos rfl).trans (if_pos rfl)

theorem walk_closing {quote : Char} (depth : Nat) (item : List Char) {rest : List Char} (single : rest.head? ≠ some quote) :
    walk (some quote) depth item (quote :: rest) = walk none depth (item ++ [quote]) rest := by
  rw [walk.eq_def]
  apply (if_pos rfl).trans
  cases rest with
  | nil => rfl
  | cons next rest => exact if_neg fun same => single (congrArg some same)

theorem walk_content {quote : Char} (content : List Char) (depth : Nat) (item rest : List Char) :
    walk (some quote) depth item (doubled quote content ++ rest) = walk (some quote) depth (item ++ doubled quote content) rest := by
  induction content generalizing item with
  | nil =>
    show walk (some quote) depth item rest = walk (some quote) depth (item ++ []) rest
    rw [List.append_nil]
  | cons c content hypothesis =>
    by_cases same : c = quote
    · subst same
      have split : doubled c (c :: content) = [c, c] ++ doubled c content := by simp [doubled]
      rw [split, List.append_assoc, ← List.append_assoc item]
      exact (walk_doubled c depth item _).trans (hypothesis _)
    · have split : doubled quote (c :: content) = [c] ++ doubled quote content := by simp [doubled, same]
      rw [split, List.append_assoc, ← List.append_assoc item]
      exact (walk_other same depth item _).trans (hypothesis _)

theorem head?_render {tokens : List Token} (read : WellRead tokens) {quote : Char} (isMark : isQuote quote = true)
    (single : ∀ next ∈ tokens.head?, next.quote? ≠ some quote) : (render tokens).head? ≠ some quote := by
  intro same
  cases read with
  | nil => cases same
  | plain unquoted _ =>
    rw [Option.some_inj.mp same, isMark] at unquoted
    cases unquoted
  | literal _ _ _ => exact single _ rfl same
  | unclosed _ => exact single _ rfl same

theorem walk_render {tokens : List Token} (read : WellRead tokens) (depth : Nat) (before : List Token) :
    walk none depth (render before) (render tokens) =
      ((Brackets.cut side comma depth before tokens).1.map render, render (Brackets.cut side comma depth before tokens).2) := by
  induction read generalizing depth before with
  | nil => rfl
  | @plain char rest unquoted _ hypothesis =>
    show walk none depth (render before) (char :: render rest) = _
    rw [walk_plain unquoted, Brackets.cut]
    have added : render (before ++ [.plain char]) = render before ++ [char] := by simp [render, Token.text]
    split
    · rename_i top
      have others := hypothesis 0 []
      have empty : render [] = [] := rfl
      rw [empty] at others
      dsimp only
      rw [others, List.map_cons]
    · rw [← added]
      exact hypothesis _ _
  | @literal quote content rest isMark single read hypothesis =>
    have added : render (before ++ [.literal quote content]) = render before ++ [quote] ++ doubled quote content ++ [quote] := by
      simp [render, Token.text]
    have starts : render (.literal quote content :: rest) = quote :: (doubled quote content ++ (quote :: render rest)) := by
      simp [render, Token.text]
    rw [starts, walk_quote isMark, walk_content, walk_closing _ _ (head?_render read isMark single), ← added, hypothesis]
    rw [Brackets.cut, if_neg (fun both => by cases both.1)]
    rfl
  | @unclosed quote content isMark =>
    have starts : render [.unclosed quote content] = quote :: (doubled quote content ++ []) := by simp [render, Token.text]
    have added : render (before ++ [.unclosed quote content]) = render before ++ [quote] ++ doubled quote content := by
      simp [render, Token.text]
    rw [starts, walk_quote isMark, walk_content, ← added]
    rw [Brackets.cut, if_neg (fun both => by cases both.1)]
    rfl

end Walking

section Reading

theorem exists_content (quote : Char) (text : List Char) :
    ∃ content, text = doubled quote content ∨
      ∃ rest, text = doubled quote content ++ quote :: rest ∧ rest.head? ≠ some quote ∧ rest.length < text.length := by
  induction length : text.length using Nat.strongRecOn generalizing text with
  | _ n hypothesis =>
    cases text with
    | nil => exact ⟨[], .inl rfl⟩
    | cons c text =>
      rw [List.length_cons] at length
      by_cases same : c = quote
      · subst same
        cases text with
        | nil => exact ⟨[], .inr ⟨[], rfl, by simp, by simp only [List.length_nil] at *; omega⟩⟩
        | cons next text =>
          by_cases twice : next = c
          · subst twice
            rw [List.length_cons] at length
            obtain ⟨content, whole | ⟨rest, split, single, shorter⟩⟩ := hypothesis text.length (by omega) text rfl
            · exact ⟨next :: content, .inl (by simp [doubled, whole])⟩
            · refine ⟨next :: content, .inr ⟨rest, ?_, single, ?_⟩⟩
              · conv_lhs => rw [split]
                simp [doubled]
              · omega
          · exact ⟨[], .inr ⟨next :: text, rfl, fun head => twice (Option.some_inj.mp head), by omega⟩⟩
      · obtain ⟨content, whole | ⟨rest, split, single, shorter⟩⟩ := hypothesis text.length (by omega) text rfl
        · exact ⟨c :: content, .inl (by simp [doubled, same, whole])⟩
        · refine ⟨c :: content, .inr ⟨rest, ?_, single, ?_⟩⟩
          · conv_lhs => rw [split]
            simp [doubled, same]
          · omega

theorem exists_tokens (text : List Char) : ∃ tokens, WellRead tokens ∧ render tokens = text := by
  induction length : text.length using Nat.strongRecOn generalizing text with
  | _ n hypothesis =>
    cases text with
    | nil => exact ⟨[], .nil, rfl⟩
    | cons c text =>
      rw [List.length_cons] at length
      cases mark : isQuote c with
      | false =>
        obtain ⟨tokens, read, rfl⟩ := hypothesis text.length (by omega) text rfl
        exact ⟨.plain c :: tokens, .plain mark read, rfl⟩
      | true =>
        obtain ⟨content, rfl | ⟨rest, rfl, single, shorter⟩⟩ := exists_content c text
        · exact ⟨[.unclosed c content], .unclosed mark, by simp [render, Token.text]⟩
        · obtain ⟨tokens, read, rfl⟩ := hypothesis rest.length (by omega) rest rfl
          refine ⟨.literal c content :: tokens, .literal mark ?_ read, by simp [render, Token.text]⟩
          intro next head begins
          apply single
          cases tokens with
          | nil => cases head
          | cons first tokens =>
            obtain rfl := Option.some_inj.mp head
            cases first with
            | plain char => cases begins
            | literal quote content => exact begins
            | unclosed quote content => exact begins

end Reading

section Law

theorem render_intercalate (parts : List (List Token)) :
    render ([comma].intercalate parts) = [','].intercalate (parts.map render) := by
  induction parts with
  | nil => rfl
  | cons first rest hypothesis =>
    cases rest with
    | nil => simp [List.intercalate, render]
    | cons second rest =>
      rw [Brackets.intercalate_cons_cons, List.map_cons, List.map_cons, Brackets.intercalate_cons_cons]
      rw [List.map_cons] at hypothesis
      rw [← hypothesis]
      simp [render, Token.text, comma]

/-- The text is cut at the commas that are outside of literals and behind no open bracket. A literal is one of its parts, so that
no
cut is inside of one; the last item is left out when it is blank. -/
structure SplitAtTopLevel (tokens : List Token) (items : List (List Token)) (last : List Token) : Prop where
  joined : [comma].intercalate (items ++ [last]) = tokens
  outside : ∀ left right, items ++ [last] = left ++ right → left ≠ [] → right ≠ [] →
    ¬ Brackets.Inside side ([comma].intercalate left) comma ([comma].intercalate right)
  kept : ∀ item ∈ items ++ [last], ∀ before after, item = before ++ comma :: after → Brackets.Open side before

theorem split_sql_items_top_level (text : List Char) :
    (∃ tokens, WellRead tokens ∧ render tokens = text) ∧ ∀ tokens, WellRead tokens → render tokens = text →
      ∃ items last, SplitAtTopLevel tokens items last ∧ [','].intercalate ((items ++ [last]).map render) = text ∧
        splitSqlItems text = items.map (fun item => strip (render item)) ++
          if strip (render last) = [] then [] else [strip (render last)] := by
  apply And.intro (exists_tokens text)
  rintro tokens read rfl
  have neither : side comma = .neither := rfl
  have empty : Brackets.Whole side comma [] := by
    intro before after impossible
    cases before <;> cases impossible
  have nested : Brackets.depth side 0 ([] : List Token) = 0 := rfl
  obtain ⟨joined, flat, whole⟩ := Brackets.cut_spec neither tokens nested empty
  have walked := walk_render read 0 []
  have none : render [] = [] := rfl
  rw [none] at walked
  rw [List.nil_append] at joined
  generalize Brackets.cut side comma 0 [] tokens = pieces at joined flat whole walked
  obtain ⟨items, last⟩ := pieces
  refine ⟨items, last, ⟨joined, ?_, ?_⟩, ?_, ?_⟩
  · intro left right split nonempty others inside
    have before : ∀ item ∈ left, Brackets.depth side 0 item = 0 := by
      intro item member
      apply flat
      rcases List.eq_nil_or_concat' right with rfl | ⟨start, final, rfl⟩
      · exact absurd rfl others
      · rw [← List.append_assoc] at split
        rw [(List.append_inj' split rfl).1]
        exact List.mem_append_left _ member
    exact Nat.ne_of_gt (inside.pos 0) (Brackets.depth_intercalate neither before)
  · intro item member before after split
    exact Brackets.pos_iff_open.mp (whole item member before after split)
  · rw [← render_intercalate, joined]
  · rw [splitSqlItems, walked, List.map_map]
    rfl

/-- The comma in front of a blank rest is lost, as nothing is made of the rest. -/
theorem split_sql_items_trailing_comma :
    ([','].intercalate (splitSqlItems ['a', ','])).filter (!isSpace ·) ≠ ['a', ','].filter (!isSpace ·) := by
  decide

end Law

end OpenAssetWatch.Schema
