import Mathlib.Tactic.Ring
import NetInterface.Proofs.Text.Digits

/-!
Fields of hexadecimal digits.

`HexNumeral` says which number digits write. A field is read as that number, although its width is
counted in octets: a character that is no digit never passes for digits, whatever octets it takes up
(`hexField?_eq_some_iff`). Writing the number again gives the digits back in one letter case.
-/

namespace NetInterface.Text

/-- The character is the digit of the value, in either letter case. -/
def IsHexDigitOf (value : Nat) (character : Char) : Prop :=
  "0123456789abcdef".toList[value]? = some character ∨
    "0123456789ABCDEF".toList[value]? = some character

/-- The digits write the number, the most significant one first. -/
inductive HexNumeral : List Char → Nat → Prop
  | nil : HexNumeral [] 0
  | concat {digits : List Char} {number : Nat} {character : Char} {value : Nat} :
      HexNumeral digits number → IsHexDigitOf value character →
      HexNumeral (digits ++ [character]) (16 * number + value)

theorem isHexDigitOf_iff {value : Nat} {character : Char} :
    IsHexDigitOf value character ↔
      value < 16 ∧ ∃ letters, hexDigit letters value = character := by
  have lower : "0123456789abcdef".toList = (List.range 16).map (hexDigit .lower) := rfl
  have upper : "0123456789ABCDEF".toList = (List.range 16).map (hexDigit .upper) := rfl
  unfold IsHexDigitOf
  rw [lower, upper, List.getElem?_map, List.getElem?_map]
  by_cases small : value < 16
  · rw [List.getElem?_range small]
    simp only [Option.map_some, Option.some.injEq, small, true_and]
    constructor
    · rintro (written | written)
      · exact ⟨.lower, written⟩
      · exact ⟨.upper, written⟩
    · rintro ⟨_ | _, written⟩
      · exact .inl written
      · exact .inr written
  · simp [small]

theorem lt_of_hexValue? {character : Char} {value : Nat} (read : hexValue? character = some value) :
    character.toNat < 128 ∧ value < 16 := by
  have within {low high : Char} (offset : Nat) (range : low ≤ character ∧ character ≤ high)
      (ascii : high.toNat < 128) (few : high.toNat - low.toNat + offset < 16)
      (placed : character.toNat - low.toNat + offset = value) :
      character.toNat < 128 ∧ value < 16 := by
    have bounds : low.toNat ≤ character.toNat ∧ character.toNat ≤ high.toNat := range
    omega
  unfold hexValue? at read
  split at read
  next range => exact within 0 range (by decide) (by decide) (Option.some.inj read)
  next =>
      split at read
      next range => exact within 10 range (by decide) (by decide) (Option.some.inj read)
      next =>
          split at read
          next range => exact within 10 range (by decide) (by decide) (Option.some.inj read)
          next => cases read

theorem hexValue?_eq_some_iff {character : Char} {value : Nat} :
    hexValue? character = some value ↔ IsHexDigitOf value character := by
  rw [isHexDigitOf_iff]
  constructor
  · intro read
    obtain ⟨ascii, small⟩ := lt_of_hexValue? read
    have listed : ∀ point < 128, ∀ value < 16, hexValue? (Char.ofNat point) = some value →
        hexDigit .lower value = Char.ofNat point ∨ hexDigit .upper value = Char.ofNat point := by
      decide +kernel
    have written := listed character.toNat ascii value small
    rw [Char.ofNat_toNat] at written
    rcases written read with lower | upper
    · exact ⟨small, .lower, lower⟩
    · exact ⟨small, .upper, upper⟩
  · rintro ⟨small, letters, rfl⟩
    exact hexValue?_hexDigit letters small

/-- The digit of a value in one letter case is found from the one in either. -/
theorem shape_hexDigit (letters written : LetterCase) {value : Nat} (small : value < 16) :
    letters.shape (hexDigit written value) = hexDigit letters value := by
  have shaped : ∀ value < 16,
      letters.shape (hexDigit written value) = hexDigit letters value := by
    cases letters <;> cases written <;> decide
  exact shaped value small

theorem hexNumber?_eq_some_iff {digits : List Char} {number : Nat} :
    hexNumber? digits = some number ↔ HexNumeral digits number := by
  constructor
  · intro read
    induction digits using List.reverseRecOn generalizing number with
    | nil =>
        obtain rfl : 0 = number := Option.some.inj read
        exact .nil
    | append_singleton digits character inductionHypothesis =>
        rw [hexNumber?_concat] at read
        obtain ⟨higher, readHigher, read⟩ := Option.bind_eq_some_iff.mp read
        obtain ⟨value, readLowest, rfl⟩ := Option.map_eq_some_iff.mp read
        exact .concat (inductionHypothesis readHigher) (hexValue?_eq_some_iff.mp readLowest)
  · intro numeral
    induction numeral with
    | nil => rfl
    | concat higher lowest inductionHypothesis =>
        rw [hexNumber?_concat, inductionHypothesis, hexValue?_eq_some_iff.mpr lowest]
        rfl

namespace HexNumeral

theorem lt {digits : List Char} {number : Nat} (numeral : HexNumeral digits number) :
    number < 16 ^ digits.length := by
  induction numeral with
  | nil => decide
  | concat higher lowest inductionHypothesis =>
      have small := (isHexDigitOf_iff.mp lowest).1
      rw [List.length_append, List.length_singleton, Nat.pow_succ]
      omega

theorem append {front back : List Char} {higher lower : Nat} (numeral : HexNumeral front higher)
    (behind : HexNumeral back lower) :
    HexNumeral (front ++ back) (16 ^ back.length * higher + lower) := by
  induction behind with
  | nil => simpa using numeral
  | @concat digits number character value further lowest inductionHypothesis =>
      have places : 16 ^ (digits ++ [character]).length * higher + (16 * number + value) =
          16 * (16 ^ digits.length * higher + number) + value := by
        rw [List.length_append, List.length_singleton, Nat.pow_succ]
        ring
      rw [places, ← List.append_assoc]
      exact .concat inductionHypothesis lowest

theorem isHexDigit {digits : List Char} {number : Nat} (numeral : HexNumeral digits number)
    {character : Char} (member : character ∈ digits) : isHexDigit character = true :=
  isHexDigit_of_mem (hexNumber?_eq_some_iff.mpr numeral) member

/-- No digits write two numbers. -/
theorem unique {digits : List Char} {number other : Nat} (numeral : HexNumeral digits number)
    (numeralOther : HexNumeral digits other) : number = other := by
  rw [← hexNumber?_eq_some_iff] at numeral numeralOther
  exact Option.some.inj (numeral.symm.trans numeralOther)

/-- The digits of the number in one letter case are those digits in that letter case. -/
theorem hexDigits_eq {digits : List Char} {number : Nat} (numeral : HexNumeral digits number)
    (letters : LetterCase) :
    hexDigits letters digits.length number = digits.map letters.shape := by
  induction numeral with
  | nil => rfl
  | @concat digits number character value higher lowest inductionHypothesis =>
      obtain ⟨small, written, rfl⟩ := isHexDigitOf_iff.mp lowest
      have place : (16 * number + value) / 16 = number := by omega
      have rest : (16 * number + value) % 16 = value := by omega
      rw [List.length_append, List.length_singleton, hexDigits, place, rest, inductionHypothesis,
        List.map_append, List.map_singleton, shape_hexDigit letters written small]

end HexNumeral

theorem exists_hexNumeral {digits : List Char}
    (hexadecimal : ∀ character ∈ digits, isHexDigit character = true) :
    ∃ number, HexNumeral digits number := by
  induction digits using List.reverseRecOn with
  | nil => exact ⟨0, .nil⟩
  | append_singleton digits character inductionHypothesis =>
      obtain ⟨number, numeral⟩ := inductionHypothesis fun other member =>
        hexadecimal other (List.mem_append_left _ member)
      obtain ⟨value, read⟩ := Option.isSome_iff_exists.mp (hexadecimal character (by simp))
      exact ⟨_, numeral.concat (hexValue?_eq_some_iff.mp read)⟩

/-- Digits write a word that has room for them. -/
theorem exists_word {digits : List Char} {size : Nat}
    (hexadecimal : ∀ character ∈ digits, isHexDigit character = true)
    (room : 4 * digits.length ≤ size) : ∃ word : BitVec size, HexNumeral digits word.toNat := by
  obtain ⟨number, numeral⟩ := exists_hexNumeral hexadecimal
  have fits : number < 2 ^ size := by
    refine Nat.lt_of_lt_of_le numeral.lt ?_
    rw [← Nat.pow_mul 2 4]
    exact Nat.pow_le_pow_right (by decide) room
  refine ⟨.ofNat size number, ?_⟩
  rwa [BitVec.toNat_ofNat, Nat.mod_eq_of_lt fits]

theorem hexNumeral_hexDigits (letters : LetterCase) {width number : Nat}
    (fits : number < 16 ^ width) : HexNumeral (hexDigits letters width number) number := by
  rw [← hexNumber?_eq_some_iff, hexNumber?_hexDigits, Nat.mod_eq_of_lt fits]

/-- The last digits of a number behind those before them. -/
theorem hexDigits_add (letters : LetterCase) (front back value : Nat) :
    hexDigits letters (front + back) value =
      hexDigits letters front (value / 16 ^ back) ++ hexDigits letters back value := by
  induction back generalizing value with
  | zero => simp [hexDigits]
  | succ back inductionHypothesis =>
      rw [← Nat.add_assoc, hexDigits, inductionHypothesis, hexDigits, Nat.div_div_eq_div_mul,
        ← Nat.pow_succ', List.append_assoc]

theorem hexDigits_mod (letters : LetterCase) (width value : Nat) :
    hexDigits letters width (value % 16 ^ width) = hexDigits letters width value := by
  induction width generalizing value with
  | zero => rfl
  | succ width inductionHypothesis =>
      have higher : value % 16 ^ (width + 1) / 16 = value / 16 % 16 ^ width := by
        rw [Nat.pow_succ', Nat.mod_mul_right_div_self]
      have lowest : value % 16 ^ (width + 1) % 16 = value % 16 := by
        rw [Nat.pow_succ', Nat.mod_mul_right_mod]
      rw [hexDigits, hexDigits, higher, lowest, inductionHypothesis]

theorem hexDigits_zero (letters : LetterCase) (width : Nat) :
    hexDigits letters width 0 = List.replicate width '0' := by
  induction width with
  | zero => rfl
  | succ width inductionHypothesis =>
      have zero : hexDigit letters 0 = '0' := by cases letters <;> rfl
      rw [hexDigits, Nat.zero_div, Nat.zero_mod, inductionHypothesis, zero, List.replicate_succ']

/-- A number that fits the width is written with exactly as many digits. -/
theorem paddedHex_eq_hexDigits (letters : LetterCase) {width value : Nat} (some : 0 < width)
    (fits : value < 16 ^ width) :
    paddedHex letters width value = hexDigits letters width value := by
  have shaped {value : Nat} (small : value < 16) :
      letters.shape (Nat.digitChar value) = hexDigit letters value :=
    shape_hexDigit letters .lower small
  induction width generalizing value with
  | zero => cases some
  | succ width inductionHypothesis =>
      unfold paddedHex
      by_cases small : value < 16
      · have digit : (leastHex value).map letters.shape = [hexDigit letters value] := by
          rw [leastHex, Nat.toDigits_of_lt_base small, List.map_singleton, shaped small]
        rw [digit, hexDigits, Nat.div_eq_of_lt small, Nat.mod_eq_of_lt small, hexDigits_zero]
        rfl
      · have digits : (leastHex value).map letters.shape =
            (leastHex (value / 16)).map letters.shape ++ [hexDigit letters (value % 16)] := by
          rw [leastHex, Nat.toDigits_of_base_le (by decide) (by omega), List.map_append,
            List.map_singleton, shaped (Nat.mod_lt _ (by decide))]
          rfl
        have further : 0 < width := by
          rcases Nat.eq_zero_or_pos width with rfl | further
          · omega
          · exact further
        have higher := inductionHypothesis further
          (Nat.div_lt_of_lt_mul (by rwa [← Nat.pow_succ']))
        simp only [digits, hexDigits, ← higher, paddedHex, List.length_append,
          List.length_singleton, Nat.add_sub_add_right, List.append_assoc]

/-! ### Octets -/

theorem utf8EncodeChar_of_ascii {character : Char} (ascii : character.toNat < 128) :
    String.utf8EncodeChar character = [UInt8.ofNat character.toNat] := by
  have fits : character.val.toNat ≤ 127 := Nat.le_of_lt_succ ascii
  simp only [String.utf8EncodeChar, fits, if_true]
  rfl

/-- A character that takes up several octets begins with one that is no digit. -/
theorem all_isHexOctet_utf8EncodeChar (character : Char) :
    (String.utf8EncodeChar character).all isHexOctet = isHexDigit character := by
  by_cases ascii : character.toNat < 128
  · have listed : ∀ point < 128,
        isHexOctet (UInt8.ofNat point) = isHexDigit (Char.ofNat point) := by
      decide +kernel
    have here := listed character.toNat ascii
    rw [Char.ofNat_toNat] at here
    simp [utf8EncodeChar_of_ascii ascii, here]
  · have several : ¬ character.val.toNat ≤ 127 := fun fits => ascii (Nat.lt_succ_of_le fits)
    have digit : isHexDigit character = false := by
      cases read : hexValue? character with
      | none => simp [isHexDigit, read]
      | some value => exact absurd (lt_of_hexValue? read).1 ascii
    have leading : ∀ octet < 256, 192 ≤ octet → isHexOctet (UInt8.ofNat octet) = false := by
      decide +kernel
    rw [digit]
    simp only [String.utf8EncodeChar, several, if_false]
    split
    · rw [List.all_cons, leading _ (by omega) (by omega), Bool.false_and]
    · split
      · rw [List.all_cons, leading _ (by omega) (by omega), Bool.false_and]
      · rw [List.all_cons, leading _ (by omega) (by omega), Bool.false_and]

theorem all_isHexOctet_encode (field : List Char) :
    (Utf8.encode field).all isHexOctet = field.all isHexDigit := by
  simp only [Utf8.encode, List.all_flatMap, all_isHexOctet_utf8EncodeChar]

/-- Hexadecimal digits take up one octet each. -/
theorem length_encode_of_isHexDigit {field : List Char} (digits : field.all isHexDigit = true) :
    (Utf8.encode field).length = field.length := by
  unfold Utf8.encode
  induction field with
  | nil => rfl
  | cons character field inductionHypothesis =>
      rw [List.all_cons, Bool.and_eq_true] at digits
      obtain ⟨value, read⟩ := Option.isSome_iff_exists.mp digits.1
      rw [List.flatMap_cons, List.length_append, inductionHypothesis digits.2,
        utf8EncodeChar_of_ascii (lt_of_hexValue? read).1, List.length_singleton,
        List.length_cons, Nat.add_comm]

/-- A field of the right width is read as the number that its digits write. -/
theorem hexField?_eq_some_iff {width size : Nat} {field : List Char} {word : BitVec size} :
    hexField? width size field = some word ↔
      field.length = width ∧ HexNumeral field word.toNat := by
  unfold hexField?
  dsimp only
  constructor
  · intro read
    split at read
    next form =>
        rw [all_isHexOctet_encode] at form
        rw [length_encode_of_isHexDigit form.2] at form
        obtain ⟨number, written, read⟩ := Option.bind_eq_some_iff.mp read
        split at read
        next fits =>
            obtain rfl := Option.some.inj read
            rw [fits]
            exact ⟨form.1, hexNumber?_eq_some_iff.mp written⟩
        next => cases read
    next => cases read
  · rintro ⟨rfl, numeral⟩
    have digits : field.all isHexDigit = true :=
      List.all_eq_true.mpr fun _ => numeral.isHexDigit
    have same : BitVec.ofNat size word.toNat = word := by simp
    rw [all_isHexOctet_encode, length_encode_of_isHexDigit digits, if_pos ⟨rfl, digits⟩,
      hexNumber?_eq_some_iff.mpr numeral, Option.bind_some, same, if_pos rfl]

end NetInterface.Text
