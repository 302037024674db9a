import Mathlib.Data.List.Basic
import NetInterface.Guid
import NetInterface.Proofs.Text.HexFields

/-!
GUIDs and their texts.

A value has room for the digits of all groups, so no shift loses a bit of what was read before
(`shiftIn?_eq_some_iff`), and the parts that are cut out of a value have the digits of the value
(`paddedHex_part`). The texts that are read are those that `WritesBraced` describes, and a GUID is
read from its own.
-/

namespace NetInterface.Guid

open Text

/-! ### Bits -/

/-- Bits that were free take up the number of a group, and none of the others is lost. -/
theorem toNat_shiftIn {bits : BitVec 128} {part : BitVec 64} {width : Nat}
    (free : bits.toNat * 16 ^ width < 2 ^ 128) (fits : part.toNat < 16 ^ width) :
    (bits <<< (4 * width) ||| part.setWidth 128).toNat = 16 ^ width * bits.toNat + part.toNat := by
  have power : 2 ^ (4 * width) = 16 ^ width := by rw [Nat.pow_mul]
  have below : part.toNat < 2 ^ 128 := Nat.lt_trans part.isLt (by decide)
  rw [BitVec.toNat_or, BitVec.toNat_shiftLeft, BitVec.toNat_setWidth, Nat.shiftLeft_eq, power,
    Nat.mod_eq_of_lt free, Nat.mod_eq_of_lt below, ← power, Nat.mul_comm]
  exact (Nat.two_pow_add_eq_or_of_lt (power ▸ fits) bits.toNat).symm

/-- The digits of a part that is cut out of a value are those of the value. -/
theorem paddedHex_part {value mask : BitVec 128} {place width : Nat} (some : 0 < width)
    (masks : mask.toNat = 2 ^ (4 * width) - 1) :
    paddedHex .upper width (value >>> (4 * place) &&& mask).toNat =
      hexDigits .upper width (value.toNat / 16 ^ place) := by
  have part : (value >>> (4 * place) &&& mask).toNat =
      value.toNat / 16 ^ place % 16 ^ width := by
    rw [BitVec.toNat_and, BitVec.toNat_ushiftRight, Nat.shiftRight_eq_div_pow, masks,
      Nat.and_two_pow_sub_one_eq_mod, Nat.pow_mul, Nat.pow_mul]
  rw [part, paddedHex_eq_hexDigits .upper some (Nat.mod_lt _ (Nat.pow_pos (by decide))),
    hexDigits_mod]

/-- The digits of a value, cut into groups. -/
def fields (guid : Guid) : List (List Char) :=
  [hexDigits .upper 8 (guid.value.toNat / 16 ^ 24),
   hexDigits .upper 4 (guid.value.toNat / 16 ^ 20),
   hexDigits .upper 4 (guid.value.toNat / 16 ^ 16),
   hexDigits .upper 4 (guid.value.toNat / 16 ^ 12),
   hexDigits .upper 12 guid.value.toNat]

theorem flatten_fields (guid : Guid) :
    guid.fields.flatten = hexDigits .upper 32 guid.value.toNat := by
  rw [hexDigits_add .upper 20 12, hexDigits_add .upper 16 4, hexDigits_add .upper 12 4,
    hexDigits_add .upper 8 4]
  simp [fields, Nat.div_div_eq_div_mul]

theorem characters_eq (guid : Guid) : guid.characters = joinWith '-' guid.fields := by
  have first : paddedHex .upper 8 (guid.value >>> 96).toNat =
      hexDigits .upper 8 (guid.value.toNat / 16 ^ 24) := by
    have fits : guid.value.toNat / 16 ^ 24 < 16 ^ 8 := Nat.div_lt_of_lt_mul guid.value.isLt
    rw [BitVec.toNat_ushiftRight, Nat.shiftRight_eq_div_pow]
    exact paddedHex_eq_hexDigits .upper (by decide) fits
  have middle (place : Nat) : paddedHex .upper 4 (guid.value >>> (4 * place) &&& 0xffff).toNat =
      hexDigits .upper 4 (guid.value.toNat / 16 ^ place) := paddedHex_part (by decide) rfl
  have second : paddedHex .upper 4 (guid.value >>> 80 &&& 0xffff).toNat = _ := middle 20
  have third : paddedHex .upper 4 (guid.value >>> 64 &&& 0xffff).toNat = _ := middle 16
  have fourth : paddedHex .upper 4 (guid.value >>> 48 &&& 0xffff).toNat = _ := middle 12
  have last : paddedHex .upper 12 (guid.value >>> (4 * 0) &&& 0xffffffffffff).toNat =
      hexDigits .upper 12 (guid.value.toNat / 16 ^ 0) := paddedHex_part (by decide) rfl
  rw [Nat.mul_zero, BitVec.ushiftRight_zero, Nat.pow_zero, Nat.div_one] at last
  simp only [characters, groups, List.map_cons, List.map_nil, first, second, third, fourth, last,
    fields]

theorem map_length_fields (guid : Guid) : guid.fields.map List.length = groupWidths := by
  simp [fields, groupWidths]

theorem hexNumeral_fields (guid : Guid) : HexNumeral guid.fields.flatten guid.value.toNat := by
  rw [flatten_fields]
  exact hexNumeral_hexDigits .upper guid.value.isLt

/-! ### Reading -/

/-- A group is read behind digits that leave room for it, as the number that all of them write. -/
theorem shiftIn?_eq_some_iff {past group : List Char} {bits next : BitVec 128} {width : Nat}
    (numeral : HexNumeral past bits.toNat) (room : past.length + width ≤ 32) (small : width ≤ 16) :
    shiftIn? bits group width = some next ↔
      group.length = width ∧ HexNumeral (past ++ group) next.toNat := by
  have power : 16 ^ past.length * 16 ^ width ≤ 2 ^ 128 := by
    rw [← Nat.pow_add]
    exact Nat.pow_le_pow_right (n := 16) (by decide) room
  have free : bits.toNat * 16 ^ width < 2 ^ 128 :=
    Nat.lt_of_lt_of_le (Nat.mul_lt_mul_of_pos_right numeral.lt (Nat.pow_pos (by decide))) power
  have shifted {part : BitVec 64} (written : group.length = width ∧ HexNumeral group part.toNat) :
      HexNumeral (past ++ group) (bits <<< (4 * width) ||| part.setWidth 128).toNat := by
    obtain ⟨rfl, numeralGroup⟩ := written
    rw [toNat_shiftIn free numeralGroup.lt]
    exact numeral.append numeralGroup
  unfold shiftIn?
  rw [Option.map_eq_some_iff]
  constructor
  · rintro ⟨part, read, rfl⟩
    rw [hexField?_eq_some_iff] at read
    exact ⟨read.1, shifted read⟩
  · rintro ⟨rfl, numeralNext⟩
    obtain ⟨part, numeralGroup⟩ : ∃ part : BitVec 64, HexNumeral group part.toNat :=
      exists_word (fun _ member => numeralNext.isHexDigit (List.mem_append_right past member))
        (by omega)
    refine ⟨part, hexField?_eq_some_iff.mpr ⟨rfl, numeralGroup⟩, ?_⟩
    exact BitVec.toNat_inj.mp ((shifted ⟨rfl, numeralGroup⟩).unique numeralNext)

theorem readGroups?_eq_some_iff {past : List Char} {bits value : BitVec 128}
    (numeral : HexNumeral past bits.toNat) {groups : List (List Char)} {widths : List Nat}
    (count : groups.length = widths.length) (room : past.length + widths.sum ≤ 32)
    (small : ∀ width ∈ widths, width ≤ 16) :
    readGroups? bits (groups.zip widths) = some value ↔
      groups.map List.length = widths ∧ HexNumeral (past ++ groups.flatten) value.toNat := by
  induction groups generalizing past bits widths with
  | nil =>
      obtain rfl := List.length_eq_zero_iff.mp count.symm
      change some bits = some value ↔ [] = [] ∧ HexNumeral (past ++ []) value.toNat
      rw [List.append_nil, Option.some.injEq]
      constructor
      · rintro rfl
        exact ⟨rfl, numeral⟩
      · rintro ⟨-, numeralValue⟩
        exact BitVec.toNat_inj.mp (numeral.unique numeralValue)
  | cons group groups inductionHypothesis =>
      obtain ⟨width, widths, rfl⟩ := List.exists_cons_of_length_eq_add_one count.symm
      rw [List.sum_cons] at room
      have stepped (next : BitVec 128) : shiftIn? bits group width = some next ↔
          group.length = width ∧ HexNumeral (past ++ group) next.toNat :=
        shiftIn?_eq_some_iff numeral (by omega) (small width List.mem_cons_self)
      have further {next : BitVec 128} (long : group.length = width)
          (numeralNext : HexNumeral (past ++ group) next.toNat) :
          readGroups? next (groups.zip widths) = some value ↔
            groups.map List.length = widths ∧
              HexNumeral (past ++ group ++ groups.flatten) value.toNat := by
        apply inductionHypothesis numeralNext (Nat.succ.inj count)
        · rw [List.length_append]
          omega
        · exact fun width member => small width (List.mem_cons_of_mem _ member)
      have unfolded : readGroups? bits ((group :: groups).zip (width :: widths)) =
          (shiftIn? bits group width).bind fun next => readGroups? next (groups.zip widths) := rfl
      rw [unfolded, Option.bind_eq_some_iff, List.map_cons, List.cons.injEq, List.flatten_cons,
        ← List.append_assoc]
      constructor
      · rintro ⟨next, shifted, rest⟩
        obtain ⟨long, numeralNext⟩ := (stepped next).mp shifted
        obtain ⟨lengths, written⟩ := (further long numeralNext).mp rest
        exact ⟨⟨long, lengths⟩, written⟩
      · rintro ⟨⟨long, lengths⟩, written⟩
        obtain ⟨next, numeralNext⟩ :
            ∃ next : BitVec 128, HexNumeral (past ++ group) next.toNat := by
          apply exists_word
          · exact fun _ member => written.isHexDigit (List.mem_append_left _ member)
          · rw [List.length_append]
            omega
        exact ⟨next, (stepped next).mpr ⟨long, numeralNext⟩,
          (further long numeralNext).mpr ⟨lengths, written⟩⟩

/-! ### Texts -/

/-- Five groups of digits with dashes between them, which write the number in one piece. -/
def Writes (text : List Char) (number : Nat) : Prop :=
  ∃ groups, text = joinWith '-' groups ∧ groups.map List.length = [8, 4, 4, 4, 12] ∧
    HexNumeral groups.flatten number

/-- The text writes the number, as it stands or between one pair of braces. -/
def WritesBraced (text : List Char) (number : Nat) : Prop :=
  Writes text number ∨ ∃ inner, text = '\x7b' :: inner ++ ['\x7d'] ∧ Writes inner number

theorem Writes.mem {text : List Char} {number : Nat} (writes : Writes text number)
    {character : Char} (member : character ∈ text) :
    character = '-' ∨ isHexDigit character = true := by
  obtain ⟨groups, rfl, -, numeral⟩ := writes
  rcases mem_joinWith member with dash | ⟨group, among, inside⟩
  · exact .inl dash
  · exact .inr (numeral.isHexDigit (List.mem_flatten.mpr ⟨group, among, inside⟩))

theorem Writes.not_mem {text : List Char} {number : Nat} (writes : Writes text number)
    {character : Char} (dashless : character ≠ '-') (other : isHexDigit character = false) :
    character ∉ text := by
  intro member
  rcases writes.mem member with dash | digit
  · exact dashless dash
  · rw [digit] at other
    cases other

theorem splitOn_of_writes {text : List Char} {number : Nat} (writes : Writes text number) :
    (splitOn '-' text).map List.length = groupWidths ∧
      HexNumeral (splitOn '-' text).flatten number := by
  obtain ⟨groups, rfl, lengths, numeral⟩ := writes
  have nonempty : groups ≠ [] := by
    rintro rfl
    cases lengths
  have dashless : ∀ group ∈ groups, '-' ∉ group := by
    intro group among dash
    have digit := numeral.isHexDigit (List.mem_flatten.mpr ⟨group, among, dash⟩)
    cases digit
  rw [splitOn_joinWith nonempty dashless]
  exact ⟨lengths, numeral⟩

theorem writes_iff {text : List Char} {number : Nat} :
    Writes text number ↔ (splitOn '-' text).map List.length = groupWidths ∧
      HexNumeral (splitOn '-' text).flatten number :=
  ⟨splitOn_of_writes, fun ⟨lengths, numeral⟩ =>
    ⟨_, (joinWith_splitOn '-' text).symm, lengths, numeral⟩⟩

theorem ofGroups?_eq_some_iff {groups : List (List Char)} {guid : Guid} :
    ofGroups? groups = some guid ↔
      groups.map List.length = groupWidths ∧ HexNumeral groups.flatten guid.value.toNat := by
  unfold ofGroups?
  by_cases count : groups.length = groupWidths.length
  · rw [if_pos count, Option.map_eq_some_iff]
    have read (value : BitVec 128) : readGroups? 0 (groups.zip groupWidths) = some value ↔
        groups.map List.length = groupWidths ∧ HexNumeral groups.flatten value.toNat := by
      have start : HexNumeral [] (0 : BitVec 128).toNat := .nil
      exact readGroups?_eq_some_iff start count (by decide) (by decide)
    constructor
    · rintro ⟨value, written, rfl⟩
      exact (read value).mp written
    · intro written
      exact ⟨guid.value, (read guid.value).mpr written, rfl⟩
  · rw [if_neg count]
    constructor
    · exact nofun
    · rintro ⟨lengths, -⟩
      rw [← lengths, List.length_map] at count
      exact absurd rfl count

theorem unbraced?_eq_some_iff {text inner : List Char} :
    unbraced? text = some inner ↔
      text = '\x7b' :: inner ++ ['\x7d'] ∨ text.head? ≠ some '\x7b' ∧ text = inner := by
  unfold unbraced?
  split
  next rest =>
    constructor
    · intro found
      split at found
      next closed =>
        obtain rfl := Option.some.inj found
        left
        rw [List.cons_append, List.dropLast_append_getLast? _ closed]
      next => cases found
    · rintro (closed | ⟨unopened, -⟩)
      · obtain rfl := (List.cons.inj closed).2
        simp
      · exact absurd rfl unopened
  next unopened =>
    rw [Option.some.injEq]
    constructor
    · rintro rfl
      refine .inr ⟨?_, rfl⟩
      intro opened
      obtain ⟨rest, rfl⟩ := List.head?_eq_some_iff.mp opened
      exact unopened rest rfl
    · rintro (rfl | ⟨-, rfl⟩)
      · exact absurd rfl (unopened _)
      · rfl

/-- A text is read if it writes a number, and then as that number. -/
theorem ofCharacters?_eq_some_iff {text : List Char} {guid : Guid} :
    ofCharacters? text = some guid ↔ WritesBraced text guid.value.toNat := by
  have read : ofCharacters? text =
      (unbraced? text).bind fun inner => ofGroups? (splitOn '-' inner) := rfl
  rw [read, Option.bind_eq_some_iff]
  constructor
  · rintro ⟨inner, stripped, written⟩
    rw [ofGroups?_eq_some_iff, ← writes_iff] at written
    rcases unbraced?_eq_some_iff.mp stripped with rfl | ⟨-, rfl⟩
    · exact .inr ⟨inner, rfl, written⟩
    · exact .inl written
  · rintro (written | ⟨inner, rfl, written⟩)
    · have unopened : text.head? ≠ some '\x7b' := by
        intro opened
        exact written.not_mem (by decide) (by decide) (List.mem_of_head? opened)
      exact ⟨text, unbraced?_eq_some_iff.mpr (.inr ⟨unopened, rfl⟩),
        ofGroups?_eq_some_iff.mpr (writes_iff.mp written)⟩
    · exact ⟨inner, unbraced?_eq_some_iff.mpr (.inl rfl),
        ofGroups?_eq_some_iff.mpr (writes_iff.mp written)⟩

theorem parse_eq_ok_iff {text : String} {guid : Guid} :
    parse text = .ok guid ↔ WritesBraced text.toList guid.value.toNat := by
  rw [← ofCharacters?_eq_some_iff, parse]
  cases ofCharacters? text.toList <;> simp

theorem writes_characters (guid : Guid) : Writes guid.characters guid.value.toNat :=
  ⟨guid.fields, guid.characters_eq, guid.map_length_fields, guid.hexNumeral_fields⟩

theorem parse_text (guid : Guid) : parse guid.text = .ok guid := by
  rw [parse_eq_ok_iff, text, String.toList_ofList]
  exact .inl guid.writes_characters

theorem parse_braced (guid : Guid) : parse guid.braced = .ok guid := by
  rw [parse_eq_ok_iff, braced, String.toList_ofList]
  exact .inr ⟨_, rfl, guid.writes_characters⟩

theorem text_injective : Function.Injective text := by
  intro guid other written
  rw [← Except.ok.injEq, ← parse_text guid, written, parse_text]

theorem length_characters (guid : Guid) : guid.characters.length = 36 := by
  rw [characters_eq]
  simp [fields, joinWith]

/-- A text without braces is written again in upper case. -/
theorem characters_of_writes {text : List Char} {guid : Guid}
    (writes : Writes text guid.value.toNat) : guid.characters = text.map Char.toUpper := by
  obtain ⟨groups, rfl, lengths, numeral⟩ := writes
  have count : groups.flatten.length = 32 := by
    rw [List.length_flatten, lengths]
    rfl
  have fields : guid.fields = groups.map (List.map Char.toUpper) := by
    rw [List.eq_iff_flatten_eq]
    constructor
    · rw [flatten_fields, ← count, numeral.hexDigits_eq, ← List.map_flatten]
      rfl
    · rw [map_length_fields, List.map_map, groupWidths, ← lengths]
      simp [Function.comp_def]
  rw [characters_eq, fields, map_joinWith]
  rfl

/-- Outside of its braces an accepted text has none. -/
theorem Writes.filter_braces {text : List Char} {number : Nat} (writes : Writes text number) :
    text.filter (fun character => character ≠ '\x7b' ∧ character ≠ '\x7d') = text := by
  apply List.filter_eq_self.mpr
  intro character member
  rcases writes.mem member with rfl | digit
  · rfl
  · rw [decide_eq_true_iff]
    constructor <;> (rintro rfl; cases digit)

theorem WritesBraced.exists_guid {text : List Char} {number : Nat}
    (writes : WritesBraced text number) : ∃ guid : Guid, guid.value.toNat = number := by
  have read {inner : List Char} (written : Writes inner number) :
      ∃ guid : Guid, guid.value.toNat = number := by
    obtain ⟨groups, -, lengths, numeral⟩ := written
    obtain ⟨value, numeralValue⟩ : ∃ value : BitVec 128, HexNumeral groups.flatten value.toNat := by
      apply exists_word fun _ => numeral.isHexDigit
      rw [List.length_flatten, lengths]
      decide
    exact ⟨⟨value⟩, numeralValue.unique numeral⟩
  rcases writes with written | ⟨inner, -, written⟩
  · exact read written
  · exact read written

theorem mem_upperHex {width value : Nat} {character : Char}
    (member : character ∈ hexDigits .upper width value) :
    character ∈ "0123456789ABCDEF".toList := by
  have digit : ∀ value < 16, hexDigit .upper value ∈ "0123456789ABCDEF".toList := by decide
  induction width generalizing value with
  | zero => cases member
  | succ width inductionHypothesis =>
      rw [hexDigits, List.mem_append, List.mem_singleton] at member
      rcases member with higher | rfl
      · exact inductionHypothesis higher
      · exact digit _ (Nat.mod_lt _ (by decide))

/-- A text is read exactly if it writes a number in five groups of eight, four, four, four and
twelve hexadecimal digits with dashes between them, as it stands or between one pair of braces. The
value is the number that all digits write one after another; every other text is refused as it is,
among them those with braces elsewhere. A GUID is read from its text with and without braces, and a
text that is read is written again without braces and in upper case. -/
theorem guids_read_and_written :
    (∀ text : String,
      (∀ number, (∃ guid, parse text = .ok guid ∧ guid.value.toNat = number) ↔
        WritesBraced text.toList number) ∧
      ((∀ number, ¬ WritesBraced text.toList number) → parse text = .error ⟨text⟩) ∧
      ∀ guid, parse text = .ok guid →
        guid.text.toList = (text.toList.filter fun character =>
          character ≠ '\x7b' ∧ character ≠ '\x7d').map Char.toUpper ∧
        ('\x7b' ∈ text.toList ∨ '\x7d' ∈ text.toList → ∃ inner,
          text.toList = '\x7b' :: inner ++ ['\x7d'] ∧ '\x7b' ∉ inner ∧ '\x7d' ∉ inner)) ∧
    ∀ guid : Guid,
      parse guid.text = .ok guid ∧ parse guid.braced = .ok guid ∧ guid.text.length = 36 ∧
      ∃ groups, guid.text.toList = joinWith '-' groups ∧
        groups.map List.length = [8, 4, 4, 4, 12] ∧
        ∀ character ∈ groups.flatten, character ∈ "0123456789ABCDEF".toList := by
  refine ⟨?_, ?_⟩
  · intro text
    refine ⟨?accepted, ?refused, ?rewritten⟩
    case accepted =>
      intro number
      constructor
      · rintro ⟨guid, parsed, rfl⟩
        exact parse_eq_ok_iff.mp parsed
      · intro writes
        obtain ⟨guid, rfl⟩ := writes.exists_guid
        exact ⟨guid, parse_eq_ok_iff.mpr writes, rfl⟩
    case refused =>
      intro unwritten
      cases read : ofCharacters? text.toList with
      | none => rw [parse, read]
      | some guid => exact absurd (ofCharacters?_eq_some_iff.mp read) (unwritten _)
    case rewritten =>
      intro guid parsed
      rw [Guid.text, String.toList_ofList]
      rcases parse_eq_ok_iff.mp parsed with written | ⟨inner, braced, written⟩
      · refine ⟨?_, ?_⟩
        · rw [written.filter_braces, characters_of_writes written]
        · rintro (opened | closed)
          · exact absurd opened (written.not_mem (by decide) (by decide))
          · exact absurd closed (written.not_mem (by decide) (by decide))
      · refine ⟨?_, fun _ => ⟨inner, braced, ?_, ?_⟩⟩
        · rw [braced, List.filter_append, List.filter_cons_of_neg (by simp), written.filter_braces,
            characters_of_writes written]
          simp
        · exact written.not_mem (by decide) (by decide)
        · exact written.not_mem (by decide) (by decide)
  · intro guid
    refine ⟨guid.parse_text, guid.parse_braced, ?_, guid.fields, ?_, guid.map_length_fields, ?_⟩
    · rw [text, String.length_ofList, length_characters]
    · rw [text, String.toList_ofList, characters_eq]
    · rw [flatten_fields]
      exact fun _ => mem_upperHex

theorem braced_guid_read_and_written :
    (∃ guid, parse "\x7b4d36e972-e325-11ce-bfc1-08002be10318\x7d" = .ok guid ∧
      guid.text = "4D36E972-E325-11CE-BFC1-08002BE10318") ∧
    parse "4d36e972-e325-11ce-bfc1-08002be10318\x7d" =
      .error ⟨"4d36e972-e325-11ce-bfc1-08002be10318\x7d"⟩ := by
  obtain ⟨texts, -⟩ := guids_read_and_written
  refine ⟨?braced, ?unopened⟩
  case braced =>
    obtain ⟨-, -, rewritten⟩ := texts "\x7b4d36e972-e325-11ce-bfc1-08002be10318\x7d"
    obtain ⟨guid, parsed⟩ :
        ∃ guid, parse "\x7b4d36e972-e325-11ce-bfc1-08002be10318\x7d" = .ok guid := ⟨_, rfl⟩
    refine ⟨guid, parsed, ?_⟩
    rw [← String.toList_inj, (rewritten guid parsed).1]
    decide
  case unopened =>
    obtain ⟨-, refused, -⟩ := texts "4d36e972-e325-11ce-bfc1-08002be10318\x7d"
    apply refused
    rintro number (written | ⟨inner, braced, -⟩)
    · exact written.not_mem (by decide) (by decide) (by decide : '\x7d' ∈ _)
    · cases braced

end NetInterface.Guid
