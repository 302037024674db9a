import Mathlib.Algebra.Ring.Nat
import Mathlib.Data.List.Induction
import NetInterface.Text.Digits

/-!
Written numbers read back.

The digits of a number, in hexadecimal or in decimal without leading zeros, are read as that number,
and only hexadecimal digits are read as a hexadecimal number. Whatever reads back like this is not
written in the same way as anything else. `WritesHex` says what the least hexadecimal text of a
number is without naming its digits one by one; there is exactly one such text.
-/

namespace NetInterface.Text

theorem injective_of_reads {α : Type} {write : α → List Char} {read : List Char → Option α}
    (reads : ∀ value, read (write value) = some value) : Function.Injective write := by
  intro first second same
  rw [← Option.some_inj, ← reads first, same, reads second]

theorem hexValue?_digitChar {value : Nat} (small : value < 16) :
    hexValue? (Nat.digitChar value) = some value := by
  revert value
  decide

theorem hexValue?_hexDigit (letters : LetterCase) {value : Nat} (small : value < 16) :
    hexValue? (hexDigit letters value) = some value := by
  revert value
  cases letters <;> decide

/-- The last digit has the lowest place. -/
theorem hexNumber?_concat (digits : List Char) (digit : Char) :
    hexNumber? (digits ++ [digit]) =
      (hexNumber? digits).bind fun value => (hexValue? digit).map (16 * value + ·) := by
  simp [hexNumber?, List.foldlM_append]

theorem hexNumber?_leastHex (value : Nat) : hexNumber? (leastHex value) = some value := by
  induction value using Nat.strongRecOn with
  | ind value inductionHypothesis =>
      unfold leastHex
      by_cases small : value < 16
      · rw [Nat.toDigits_of_lt_base small]
        simp [hexNumber?, hexValue?_digitChar small]
      · have higher : hexNumber? (Nat.toDigits 16 (value / 16)) = some (value / 16) :=
          inductionHypothesis (value / 16) (by omega)
        have lowest : hexValue? (value % 16).digitChar = some (value % 16) :=
          hexValue?_digitChar (Nat.mod_lt value (by decide))
        rw [Nat.toDigits_of_base_le (by decide) (by omega), hexNumber?_concat, higher, lowest]
        simp only [Option.bind_some, Option.map_some, Nat.div_add_mod]

/-- Digits of a fixed width are read as what they leave of the number. -/
theorem hexNumber?_hexDigits (letters : LetterCase) (width value : Nat) :
    hexNumber? (hexDigits letters width value) = some (value % 16 ^ width) := by
  induction width generalizing value with
  | zero => simp [hexDigits, hexNumber?, Nat.mod_one]
  | succ width inductionHypothesis =>
      have lowest : hexValue? (hexDigit letters (value % 16)) = some (value % 16) :=
        hexValue?_hexDigit letters (Nat.mod_lt value (by decide))
      have places : 16 * (value / 16 % 16 ^ width) + value % 16 = value % 16 ^ (width + 1) := by
        rw [Nat.pow_succ', Nat.mod_mul, Nat.add_comm]
      rw [hexDigits, hexNumber?_concat, inductionHypothesis, lowest]
      simp only [Option.bind_some, Option.map_some, places]

/-- A text that contains any other character is no hexadecimal number. -/
theorem isHexDigit_of_mem {digits : List Char} {value : Nat}
    (read : hexNumber? digits = some value) {character : Char} (member : character ∈ digits) :
    isHexDigit character = true := by
  obtain ⟨front, back, rfl⟩ := List.append_of_mem member
  cases known : hexValue? character with
  | some digit => simp [isHexDigit, known]
  | none =>
      simp [hexNumber?, List.foldlM_append, known] at read

theorem isHexDigit_of_mem_leastHex {value : Nat} {character : Char}
    (member : character ∈ leastHex value) : isHexDigit character = true :=
  isHexDigit_of_mem (hexNumber?_leastHex value) member

theorem not_mem_leastHex {character : Char} (other : isHexDigit character = false) (value : Nat) :
    character ∉ leastHex value := by
  intro member
  cases other.symm.trans (isHexDigit_of_mem_leastHex member)

theorem isHexDigit_of_mem_hexDigits {letters : LetterCase} {width value : Nat} {character : Char}
    (member : character ∈ hexDigits letters width value) : isHexDigit character = true :=
  isHexDigit_of_mem (hexNumber?_hexDigits letters width value) member

theorem decimalNumber?_toDigits (value : Nat) :
    decimalNumber? (Nat.toDigits 10 value) = some value := by
  have digits : (Nat.toDigits 10 value).all Char.isDigit = true := by
    rw [List.all_eq_true]
    intro character member
    exact Nat.isDigit_of_mem_toDigits (by decide) (by decide) member
  unfold decimalNumber?
  rw [if_pos ⟨Nat.toDigits_ne_nil, digits⟩, Nat.ofDigitChars_ten_toDigits]

theorem not_mem_toDigits {character : Char} (other : character.isDigit = false) (value : Nat) :
    character ∉ Nat.toDigits 10 value := by
  intro member
  cases other.symm.trans (Nat.isDigit_of_mem_toDigits (by decide) (by decide) member)

theorem eq_zero_of_toDigits {base value : Nat} (several : 1 < base)
    (zero : Nat.toDigits base value = ['0']) : value = 0 := by
  by_cases small : value < base
  · rw [Nat.toDigits_of_lt_base small, List.cons.injEq] at zero
    exact Nat.digitChar_eq_zero.mp zero.1
  · rw [Nat.toDigits_of_base_le several (Nat.not_lt.mp small)] at zero
    have higher : Nat.toDigits base (value / base) ≠ [] := Nat.toDigits_ne_nil
    exact absurd (List.append_eq_singleton_iff.mp zero) (by simp [higher])

/-- No number but zero is written with a leading zero. -/
theorem toDigits_of_head_zero {base value : Nat} (several : 1 < base)
    (zero : (Nat.toDigits base value).head? = some '0') : Nat.toDigits base value = ['0'] := by
  induction value using Nat.strongRecOn with
  | ind value inductionHypothesis =>
      by_cases small : value < base
      · rw [Nat.toDigits_of_lt_base small] at zero ⊢
        rw [Option.some.inj zero]
      · have large : base ≤ value := Nat.not_lt.mp small
        have higher : (Nat.toDigits base (value / base)).head? = some '0' := by
          rw [Nat.toDigits_of_base_le several large, List.head?_append] at zero
          rwa [Option.or_of_isSome (by simp [Nat.toDigits_ne_nil])] at zero
        have fewer : value / base < value := Nat.div_lt_self (by omega) several
        have nothing : value / base = 0 :=
          eq_zero_of_toDigits several (inductionHypothesis (value / base) fewer higher)
        have some : 0 < value / base := Nat.div_pos large (by omega)
        omega

theorem decimalNumber?_eq_none_iff {text : List Char} :
    decimalNumber? text = none ↔ text = [] ∨ ∃ character ∈ text, character.isDigit = false := by
  by_cases empty : text = []
  · simp [decimalNumber?, empty]
  · simp [decimalNumber?, empty]

theorem isDigit_of_decimalNumber? {text : List Char} {value : Nat}
    (read : decimalNumber? text = some value) {character : Char} (member : character ∈ text) :
    character.isDigit = true := by
  cases digit : character.isDigit with
  | true => rfl
  | false =>
      rw [decimalNumber?_eq_none_iff.mpr (.inr ⟨character, member, digit⟩)] at read
      cases read

theorem isHexDigit_of_isDigit {character : Char} (digit : character.isDigit = true) :
    isHexDigit character = true := by
  have range : '0' ≤ character ∧ character ≤ '9' := by
    simpa [Char.isDigit, Char.le_def] using digit
  rw [isHexDigit, hexValue?, if_pos range]
  rfl

theorem word32?_toNat (word : UInt32) : word32? word.toNat = some word := by
  have bound : word.toNat < UInt32.size := word.toNat_lt
  simp [word32?, bound]

theorem word32?_eq_some_iff {value : Nat} {word : UInt32} :
    word32? value = some word ↔ value < 2 ^ 32 ∧ UInt32.ofNat value = word := by
  have size : UInt32.size = 2 ^ 32 := rfl
  rw [word32?, size]
  by_cases fits : value < 2 ^ 32
  · rw [if_pos fits, Option.some.injEq, and_iff_right fits]
  · rw [if_neg fits]
    exact ⟨nofun, fun small => absurd small.1 fits⟩

/-! ### Least hexadecimal -/

/-- The text is the number in lower-case hexadecimal without leading zeros. -/
structure WritesHex (value : Nat) (text : List Char) : Prop where
  digits : ∀ character ∈ text, character ∈ "0123456789abcdef".toList
  reads : hexNumber? text = some value
  nonempty : text ≠ []
  unpadded : text.head? = some '0' → text = ['0']

theorem mem_lowerHex_iff {character : Char} :
    character ∈ "0123456789abcdef".toList ↔ ∃ value < 16, Nat.digitChar value = character := by
  have digits : "0123456789abcdef".toList = (List.range 16).map Nat.digitChar := rfl
  simp only [digits, List.mem_map, List.mem_range]

theorem digitChar_of_hexValue? {character : Char}
    (lower : character ∈ "0123456789abcdef".toList) {value : Nat}
    (read : hexValue? character = some value) : value < 16 ∧ Nat.digitChar value = character := by
  obtain ⟨known, small, rfl⟩ := mem_lowerHex_iff.mp lower
  rw [hexValue?_digitChar small, Option.some.injEq] at read
  exact ⟨read ▸ small, congrArg Nat.digitChar read.symm⟩

theorem writesHex_leastHex (value : Nat) : WritesHex value (leastHex value) := by
  refine ⟨?_, hexNumber?_leastHex value, Nat.toDigits_ne_nil, toDigits_of_head_zero (by decide)⟩
  induction value using Nat.strongRecOn with
  | ind value inductionHypothesis =>
      unfold leastHex
      intro character member
      by_cases small : value < 16
      · rw [Nat.toDigits_of_lt_base small, List.mem_singleton] at member
        exact mem_lowerHex_iff.mpr ⟨value, small, member.symm⟩
      · rw [Nat.toDigits_of_base_le (by decide) (by omega), List.mem_append,
          List.mem_singleton] at member
        rcases member with higher | lowest
        · exact inductionHypothesis (value / 16) (by omega) character higher
        · exact mem_lowerHex_iff.mpr ⟨value % 16, Nat.mod_lt value (by decide), lowest.symm⟩

/-- There is one such text of each number. -/
theorem WritesHex.eq_leastHex {value : Nat} {text : List Char} (writes : WritesHex value text) :
    text = leastHex value := by
  induction text using List.reverseRecOn generalizing value with
  | nil => exact absurd rfl writes.nonempty
  | append_singleton higher lowest inductionHypothesis =>
      obtain ⟨digits, reads, -, unpadded⟩ := writes
      rw [hexNumber?_concat] at reads
      obtain ⟨front, readsFront, reads⟩ := Option.bind_eq_some_iff.mp reads
      obtain ⟨digit, readsDigit, rfl⟩ := Option.map_eq_some_iff.mp reads
      obtain ⟨small, rfl⟩ := digitChar_of_hexValue? (digits lowest (by simp)) readsDigit
      by_cases single : higher = []
      · subst single
        obtain rfl : 0 = front := Option.some.inj readsFront
        rw [leastHex, Nat.toDigits_of_lt_base (by omega)]
        simp
      · have unpaddedFront : higher.head? ≠ some '0' := by
          intro zero
          have alone := unpadded (by simp [List.head?_append, zero])
          exact absurd (List.append_eq_singleton_iff.mp alone) (by simp [single])
        have writesFront : WritesHex front higher :=
          ⟨fun character member => digits character (List.mem_append_left _ member), readsFront,
            single, fun zero => absurd zero unpaddedFront⟩
        have written := inductionHypothesis writesFront
        have positive : front ≠ 0 := by
          rintro rfl
          exact unpaddedFront (by rw [written]; rfl)
        have place : (16 * front + digit) / 16 = front := by omega
        have rest : (16 * front + digit) % 16 = digit := by omega
        rw [leastHex, Nat.toDigits_of_base_le (by decide) (by omega), place, rest, written]
        rfl

theorem writesHex_iff {value : Nat} {text : List Char} :
    WritesHex value text ↔ text = leastHex value :=
  ⟨WritesHex.eq_leastHex, fun same => same ▸ writesHex_leastHex value⟩

end NetInterface.Text
