import OpenAssetWatch.Library.Checked
import OpenAssetWatch.Library.Dict

namespace OpenAssetWatch.Decode

open Library

abbrev Bytes := List UInt8

abbrev DhcpOptions := Dict UInt8 Bytes

/-- The turns of the loop that are left, of 128; nothing is returned where the loop ends by its condition. -/
def dhcpOptionsLoop (data : Bytes) : Nat → Nat → DhcpOptions → Checked (Option DhcpOptions)
  | 0, _, _ => pure none
  | remaining + 1, offset, options =>
    if offset < data.length then do
      let code ← Checked.byteAt data offset
      if code = 0 then dhcpOptionsLoop data remaining (offset + 1) options
      else if code = 255 then pure (some options)
      else if data.length ≤ offset + 1 then Checked.fail "truncated DHCPv4 option length"
      else do
        let length ← Checked.byteAt data (offset + 1)
        if 512 < length.toNat ∨ data.length < offset + 2 + length.toNat then
          Checked.fail "truncated or oversized DHCPv4 option"
        else do
          let value ← Checked.slice data (offset + 2) (offset + 2 + length.toNat)
          let options := if (options.get? code).isSome then options else options.set code value
          dhcpOptionsLoop data remaining (offset + 2 + length.toNat) options
    else pure none

def parseDHCPOptions (data : Bytes) : Checked DhcpOptions := do
  match ← dhcpOptionsLoop data 128 0 .empty with
  | some options => pure options
  | none => if 0 < data.length then Checked.fail "DHCPv4 options exceed bounded option count" else pure .empty

/-- A pad byte, or an option with its code and value. -/
inductive OptionEntry where
  | pad
  | option (code : UInt8) (value : Bytes) (named : code ≠ 0 ∧ code ≠ 255) (short : value.length < 256)

namespace OptionEntry

def bytes : OptionEntry → Bytes
  | pad => [0]
  | option code value _ _ => code :: UInt8.ofNat value.length :: value

def isOption : OptionEntry → Bool
  | pad => false
  | option .. => true

/-- The value of the entry, when it is an option with the code. -/
def valueOf (wanted : UInt8) : OptionEntry → Option Bytes
  | pad => none
  | option code value _ _ => if code = wanted then some value else none

end OptionEntry

def optionBytes (entries : List OptionEntry) : Bytes := entries.flatMap OptionEntry.bytes

/-- The data is a sequence of entries and then something that ends it. -/
def Splits (data : Bytes) (entries : List OptionEntry) (ending : Bytes) : Prop := data = optionBytes entries ++ ending

/-- The end of the data, or the END option with anything after it. -/
def EndsOptions (ending : Bytes) : Prop := ending = [] ∨ ending.head? = some 255

/-- The beginning of an option that the data does not complete. -/
def TruncatedOption (fragment : Bytes) : Prop :=
  ∃ code : UInt8, code ≠ 0 ∧ code ≠ 255 ∧
    (fragment = [code] ∨ ∃ (length : UInt8) (value : Bytes), value.length < length.toNat ∧ fragment = code :: length :: value)

/-- Pad bytes and at most 128 complete options, ended by the END option or by the end of the data. -/
def WellFormedOptions (data : Bytes) : Prop :=
  ∃ entries ending, Splits data entries ending ∧ EndsOptions ending ∧ entries.countP OptionEntry.isOption ≤ 128

section Reading

/-- The loop over what is left of the data. -/
def readOptions : Nat → Bytes → DhcpOptions → Checked (Option DhcpOptions)
  | 0, _, _ => pure none
  | _ + 1, [], _ => pure none
  | remaining + 1, code :: rest, options =>
    if code = 0 then readOptions remaining rest options
    else if code = 255 then pure (some options)
    else
      match rest with
      | [] => Checked.fail "truncated DHCPv4 option length"
      | length :: rest =>
        if rest.length < length.toNat then Checked.fail "truncated or oversized DHCPv4 option"
        else readOptions remaining (rest.drop length.toNat)
          (if (options.get? code).isSome then options else options.set code (rest.take length.toNat))

theorem readOptions_cons (remaining : Nat) (code : UInt8) (rest : Bytes) (options : DhcpOptions) :
    readOptions (remaining + 1) (code :: rest) options =
      if code = 0 then readOptions remaining rest options
      else if code = 255 then pure (some options)
      else
        match rest with
        | [] => Checked.fail "truncated DHCPv4 option length"
        | length :: rest =>
          if rest.length < length.toNat then Checked.fail "truncated or oversized DHCPv4 option"
          else readOptions remaining (rest.drop length.toNat)
            (if (options.get? code).isSome then options else options.set code (rest.take length.toNat)) := by
  rw [readOptions.eq_def]
  rfl

theorem dhcpOptionsLoop_eq (data : Bytes) (remaining offset : Nat) (options : DhcpOptions) :
    dhcpOptionsLoop data remaining offset options = readOptions remaining (data.drop offset) options := by
  induction remaining generalizing offset options with
  | zero => rfl
  | succ remaining ih =>
    rw [dhcpOptionsLoop]
    by_cases inside : offset < data.length
    · rw [if_pos inside, Checked.byteAt_lt inside, List.drop_eq_getElem_cons inside, readOptions_cons]
      show (if data[offset] = 0 then _ else if data[offset] = 255 then _ else _) = _
      by_cases pad : data[offset] = 0
      · rw [if_pos pad, if_pos pad, ih]
      by_cases ends : data[offset] = 255
      · rw [if_neg pad, if_neg pad, if_pos ends, if_pos ends]
      rw [if_neg pad, if_neg pad, if_neg ends, if_neg ends]
      by_cases short : data.length ≤ offset + 1
      · rw [if_pos short, List.drop_eq_nil_of_le short]
      · have next : offset + 1 < data.length := Nat.lt_of_not_le short
        rw [if_neg short, Checked.byteAt_lt next, List.drop_eq_getElem_cons next]
        have small := data[offset + 1].toNat_lt
        show (if 512 < data[offset + 1].toNat ∨ data.length < offset + 2 + data[offset + 1].toNat then _ else _) = _
        dsimp only
        rw [List.length_drop]
        by_cases truncated : data.length < offset + 2 + data[offset + 1].toNat
        · rw [if_pos (Or.inr truncated), if_pos (by omega)]
        · rw [if_neg (by omega), if_neg (by omega), Checked.slice_within (by omega) (by omega)]
          show dhcpOptionsLoop data remaining _ _ = _
          rw [ih, List.drop_drop, Nat.add_sub_cancel_left]
    · rw [if_neg inside, List.drop_eq_nil_of_le (Nat.le_of_not_lt inside)]
      rfl

/-- What the loop makes of an entry. -/
def OptionEntry.record (options : DhcpOptions) : OptionEntry → DhcpOptions
  | .pad => options
  | .option code value _ _ => if (options.get? code).isSome then options else options.set code value

theorem readOptions_entry (remaining : Nat) (entry : OptionEntry) (rest : Bytes) (options : DhcpOptions) :
    readOptions (remaining + 1) (entry.bytes ++ rest) options = readOptions remaining rest (entry.record options) := by
  cases entry with
  | pad => rfl
  | option code value named short =>
    have length : (UInt8.ofNat value.length).toNat = value.length := by
      rw [UInt8.toNat_ofNat']
      exact Nat.mod_eq_of_lt short
    show readOptions (remaining + 1) (code :: (UInt8.ofNat value.length :: (value ++ rest))) options = _
    rw [readOptions_cons, if_neg named.1, if_neg named.2]
    dsimp only
    rw [length, List.length_append, if_neg (by omega), List.take_left, List.drop_left]
    rfl

theorem first_entry (data : Bytes) : (∃ entry rest, data = OptionEntry.bytes entry ++ rest) ∨ EndsOptions data ∨ TruncatedOption data := by
  cases data with
  | nil => exact .inr (.inl (.inl rfl))
  | cons code rest =>
    by_cases pad : code = 0
    · subst pad
      exact .inl ⟨.pad, rest, rfl⟩
    by_cases ends : code = 255
    · subst ends
      exact .inr (.inl (.inr rfl))
    cases rest with
    | nil => exact .inr (.inr ⟨code, pad, ends, .inl rfl⟩)
    | cons length rest =>
      by_cases short : rest.length < length.toNat
      · exact .inr (.inr ⟨code, pad, ends, .inr ⟨length, rest, short, rfl⟩⟩)
      · have size : (rest.take length.toNat).length = length.toNat := by
          rw [List.length_take]
          omega
        have small := length.toNat_lt
        refine .inl ⟨.option code (rest.take length.toNat) ⟨pad, ends⟩ (by omega), rest.drop length.toNat, ?_⟩
        show _ = code :: UInt8.ofNat (rest.take length.toNat).length :: (rest.take length.toNat ++ rest.drop length.toNat)
        rw [size, UInt8.ofNat_toNat, List.take_append_drop]

theorem readOptions_some_iff (remaining : Nat) (data : Bytes) (options result : DhcpOptions) :
    readOptions remaining data options = .ok (some result) ↔
      ∃ entries rest, entries.length < remaining ∧ Splits data entries (255 :: rest) ∧ entries.foldl OptionEntry.record options = result := by
  constructor
  · intro read
    induction remaining generalizing data options with
    | zero => cases read
    | succ remaining ih =>
      rcases first_entry data with ⟨entry, rest, rfl⟩ | ends | ⟨code, notPad, notEnd, short⟩
      · rw [readOptions_entry] at read
        obtain ⟨entries, after, fewer, split, recorded⟩ := ih rest _ read
        refine ⟨entry :: entries, after, Nat.succ_lt_succ fewer, ?_, recorded⟩
        show _ = optionBytes (entry :: entries) ++ 255 :: after
        rw [optionBytes, List.flatMap_cons, List.append_assoc]
        exact congrArg _ split
      · rcases ends with rfl | marked
        · cases read
        · cases data with
          | nil => cases marked
          | cons code rest =>
            cases Option.some.inj marked
            rw [readOptions_cons, if_neg (by decide), if_pos rfl] at read
            cases read
            exact ⟨[], rest, Nat.succ_pos _, rfl, rfl⟩
      · rcases short with rfl | ⟨length, value, fewer, rfl⟩
        · rw [readOptions_cons, if_neg notPad, if_neg notEnd] at read
          cases read
        · rw [readOptions_cons, if_neg notPad, if_neg notEnd] at read
          dsimp only at read
          rw [if_pos fewer] at read
          cases read
  · rintro ⟨entries, rest, fewer, split, recorded⟩
    induction entries generalizing remaining data options with
    | nil =>
      obtain ⟨before, rfl⟩ := Nat.exists_eq_succ_of_ne_zero (Nat.pos_iff_ne_zero.mp fewer)
      cases split
      cases recorded
      show readOptions (before + 1) (255 :: rest) options = _
      rw [readOptions_cons, if_neg (by decide), if_pos rfl]
      rfl
    | cons entry entries ih =>
      obtain ⟨before, rfl⟩ := Nat.exists_eq_succ_of_ne_zero (Nat.pos_iff_ne_zero.mp (Nat.zero_lt_of_lt fewer))
      have data_eq : data = entry.bytes ++ (optionBytes entries ++ 255 :: rest) := by
        rw [← List.append_assoc]
        exact split
      rw [data_eq]
      show readOptions (before + 1) _ options = _
      rw [readOptions_entry]
      exact ih before _ _ (Nat.lt_of_succ_lt_succ fewer) rfl recorded

theorem parseDHCPOptions_ok_iff (data : Bytes) (options : DhcpOptions) :
    parseDHCPOptions data = .ok options ↔
      (data = [] ∧ options = .empty) ∨
        ∃ entries rest, entries.length < 128 ∧ Splits data entries (255 :: rest) ∧ entries.foldl OptionEntry.record .empty = options := by
  rw [← readOptions_some_iff, parseDHCPOptions, dhcpOptionsLoop_eq, List.drop_zero]
  cases read : readOptions 128 data .empty with
  | error fault =>
    constructor
    · intro parsed
      cases parsed
    · rintro (⟨rfl, -⟩ | parsed)
      · cases read
      · cases parsed
  | ok result =>
    cases result with
    | some found =>
      show (Except.ok found = Except.ok options) ↔ _
      constructor
      · intro parsed
        cases parsed
        exact .inr rfl
      · rintro (⟨rfl, -⟩ | parsed)
        · cases read
        · cases parsed
          rfl
    | none =>
      show (if 0 < data.length then Checked.fail _ else pure Dict.empty) = Except.ok options ↔ _
      split_ifs with filled
      · constructor
        · intro parsed
          cases parsed
        · rintro (⟨rfl, -⟩ | parsed)
          · cases filled
          · cases parsed
      · constructor
        · intro parsed
          cases parsed
          exact .inl ⟨List.length_eq_zero_iff.mp (Nat.eq_zero_of_not_pos filled), rfl⟩
        · rintro (⟨-, rfl⟩ | parsed)
          · rfl
          · cases parsed

theorem get?_record (options : DhcpOptions) (entry : OptionEntry) (code : UInt8) :
    (entry.record options).get? code = (options.get? code).or (entry.valueOf code) := by
  cases entry with
  | pad => simp [OptionEntry.record, OptionEntry.valueOf]
  | option named value _ _ =>
    simp only [OptionEntry.record, OptionEntry.valueOf]
    by_cases known : (options.get? named).isSome
    · rw [if_pos known]
      split_ifs with same
      · subst same
        obtain ⟨old, found⟩ := Option.isSome_iff_exists.mp known
        rw [found]
        rfl
      · simp
    · rw [if_neg known, Dict.get?_set]
      by_cases same : code = named
      · subst same
        rw [if_pos rfl, if_pos rfl, Option.not_isSome_iff_eq_none.mp known]
        rfl
      · rw [if_neg same, if_neg (Ne.symm same)]
        simp

theorem get?_recorded (entries : List OptionEntry) (options : DhcpOptions) (code : UInt8) :
    (entries.foldl OptionEntry.record options).get? code = (options.get? code).or (entries.findSome? (OptionEntry.valueOf code)) := by
  induction entries generalizing options with
  | nil => simp
  | cons entry rest ih =>
    rw [List.foldl_cons, ih, get?_record, Option.or_assoc, List.findSome?_cons]
    congr 1
    cases entry.valueOf code <;> rfl

theorem readOptions_split {data ending : Bytes} {entries : List OptionEntry} (split : Splits data entries ending) (turns : Nat)
    (options : DhcpOptions) :
    readOptions (entries.length + turns) data options = readOptions turns ending (entries.foldl OptionEntry.record options) := by
  induction entries generalizing data options with
  | nil =>
    cases split
    show readOptions (0 + turns) ending options = _
    rw [Nat.zero_add]
    rfl
  | cons entry rest ih =>
    have data_eq : data = entry.bytes ++ (optionBytes rest ++ ending) := by
      rw [← List.append_assoc]
      exact split
    rw [data_eq, List.length_cons, Nat.add_right_comm, readOptions_entry, ih rfl]
    rfl

theorem parsed_split {data ending : Bytes} {entries : List OptionEntry} {options : DhcpOptions} (split : Splits data entries ending)
    (parsed : parseDHCPOptions data = .ok options) :
    readOptions 128 ending (entries.foldl OptionEntry.record .empty) = .ok (some options) ∨ (data = [] ∧ options = .empty) := by
  rcases (parseDHCPOptions_ok_iff data options).mp parsed with empty | ⟨entries', rest, fewer, split', recorded⟩
  · exact .inr empty
  · left
    rw [← readOptions_split split, readOptions_some_iff]
    exact ⟨entries', rest, by omega, split', recorded⟩

end Reading

/-- What the parser of options is for. -/
structure OptionsExact (data : Bytes) : Prop where
  accepts : (∃ options, parseDHCPOptions data = .ok options) ↔ WellFormedOptions data
  first : ∀ entries ending options, Splits data entries ending → EndsOptions ending → parseDHCPOptions data = .ok options →
    ∀ code, options.get? code = entries.findSome? (OptionEntry.valueOf code)
  truncated : ∀ entries fragment options, Splits data entries fragment → TruncatedOption fragment → parseDHCPOptions data ≠ .ok options

/-- The END option comes among the first 128 entries. -/
def EndsInTime (data : Bytes) : Prop := ∃ entries rest, entries.length < 128 ∧ Splits data entries (255 :: rest)

theorem EndsInTime.wellFormed {data : Bytes} (ends : EndsInTime data) : WellFormedOptions data := by
  obtain ⟨entries, rest, fewer, split⟩ := ends
  exact ⟨entries, 255 :: rest, split, .inr rfl, List.countP_le_length.trans fewer.le⟩

/-- The parser accepts the well-formed data and no other exactly where they are empty or end in time. -/
theorem options_exact_iff (data : Bytes) : OptionsExact data ↔ (WellFormedOptions data → data = [] ∨ EndsInTime data) := by
  constructor
  · intro exact_ wellFormed
    obtain ⟨options, parsed⟩ := exact_.accepts.mpr wellFormed
    rcases (parseDHCPOptions_ok_iff data options).mp parsed with ⟨empty, -⟩ | ⟨entries, rest, fewer, split, -⟩
    · exact .inl empty
    · exact .inr ⟨entries, rest, fewer, split⟩
  · intro ends
    apply OptionsExact.mk
    case accepts =>
      constructor
      · rintro ⟨options, parsed⟩
        rcases (parseDHCPOptions_ok_iff data options).mp parsed with ⟨rfl, -⟩ | ⟨entries, rest, fewer, split, -⟩
        · exact ⟨[], [], rfl, .inl rfl, Nat.zero_le _⟩
        · exact EndsInTime.wellFormed ⟨entries, rest, fewer, split⟩
      · intro wellFormed
        rcases ends wellFormed with rfl | ⟨entries, rest, fewer, split⟩
        · exact ⟨.empty, rfl⟩
        · exact ⟨_, (parseDHCPOptions_ok_iff data _).mpr (.inr ⟨entries, rest, fewer, split, rfl⟩)⟩
    case first =>
      intro entries ending options split ended parsed code
      rcases parsed_split split parsed with read | ⟨rfl, rfl⟩
      · rcases ended with rfl | marked
        · cases read
        · cases ending with
          | nil => cases marked
          | cons last rest =>
            cases Option.some.inj marked
            rw [readOptions_cons, if_neg (by decide), if_pos rfl] at read
            cases read
            rw [get?_recorded]
            rfl
      · cases entries with
        | nil => rfl
        | cons entry rest =>
          have filled : ([] : Bytes) ≠ optionBytes (entry :: rest) ++ ending := by
            cases entry <;> simp [optionBytes, OptionEntry.bytes]
          exact absurd split filled
    case truncated =>
      intro entries fragment options split short parsed
      obtain ⟨code, notPad, notEnd, cut⟩ := short
      rcases parsed_split split parsed with read | ⟨rfl, -⟩
      · rcases cut with rfl | ⟨length, value, fewer, rfl⟩
        · rw [readOptions_cons, if_neg notPad, if_neg notEnd] at read
          cases read
        · rw [readOptions_cons, if_neg notPad, if_neg notEnd] at read
          dsimp only at read
          rw [if_pos fewer] at read
          cases read
      · have none : fragment = [] := (List.append_eq_nil_iff.mp split.symm).2
        rcases cut with rfl | ⟨length, value, -, rfl⟩ <;> cases none

/-- One pad byte and the end of the data are well formed, and refused. -/
theorem pads_without_end_refused : ¬ OptionsExact [0] := by
  intro exact_
  obtain ⟨options, parsed⟩ := exact_.accepts.mpr ⟨[.pad], [], rfl, .inl rfl, by decide⟩
  cases parsed

end OpenAssetWatch.Decode
