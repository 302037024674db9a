import NetInterface.Text.Utf8

/-!
Numbers written with ASCII digits.

A hexadecimal digit has a value in either letter case, `hexNumber?` reads any number of digits and
`hexDigits` writes a fixed number of them. A field of fixed width is read by `hexField?`, which
counts octets, and written by `paddedHex`. Decimal texts of any length are read by
`decimalNumber?`, and `word32?` keeps those below two to the power of thirty-two.
-/

namespace NetInterface.Text

inductive LetterCase where
  | lower
  | upper
deriving DecidableEq, Repr

/-- The value of an ASCII hexadecimal digit of either letter case. -/
def hexValue? (character : Char) : Option Nat :=
  if '0' ≤ character ∧ character ≤ '9' then some (character.toNat - '0'.toNat)
  else if 'a' ≤ character ∧ character ≤ 'f' then some (character.toNat - 'a'.toNat + 10)
  else if 'A' ≤ character ∧ character ≤ 'F' then some (character.toNat - 'A'.toNat + 10)
  else none

def isHexDigit (character : Char) : Bool :=
  (hexValue? character).isSome

/-- The digit of a value below sixteen. -/
def hexDigit : LetterCase → Nat → Char
  | .lower, value => Nat.digitChar value
  | .upper, value => (Nat.digitChar value).toUpper

/-- The number that the digits write, most significant first; absent if one is no digit. -/
def hexNumber? (digits : List Char) : Option Nat :=
  digits.foldlM (fun value digit => (hexValue? digit).map (16 * value + ·)) 0

/-- The last `width` hexadecimal digits of a number, leading zeros kept. -/
def hexDigits (letters : LetterCase) : Nat → Nat → List Char
  | 0, _ => []
  | width + 1, value =>
      hexDigits letters width (value / 16) ++ [hexDigit letters (value % 16)]

def isHexOctet (octet : UInt8) : Bool :=
  (0x30 ≤ octet && octet ≤ 0x39) || (0x41 ≤ octet && octet ≤ 0x46) ||
    (0x61 ≤ octet && octet ≤ 0x66)

/-- The number that a field writes, if it takes up exactly `width` octets, each of them a
hexadecimal digit, and the number fits a word of the given size. -/
def hexField? (width size : Nat) (field : List Char) : Option (BitVec size) :=
  let octets := Utf8.encode field
  if octets.length = width ∧ octets.all isHexOctet then
    (hexNumber? field).bind fun value =>
      let word := BitVec.ofNat size value
      if word.toNat = value then some word else none
  else
    none

/-- A number in lower-case hexadecimal without leading zeros. -/
def leastHex (value : Nat) : List Char :=
  Nat.toDigits 16 value

def LetterCase.shape : LetterCase → Char → Char
  | .lower => Char.toLower
  | .upper => Char.toUpper

/-- A number in hexadecimal, with zeros in front of it if it is shorter than the width. -/
def paddedHex (letters : LetterCase) (width value : Nat) : List Char :=
  let digits := (leastHex value).map letters.shape
  List.replicate (width - digits.length) '0' ++ digits

/-- The value of a non-empty text of ASCII decimal digits, of any length. -/
def decimalNumber? (text : List Char) : Option Nat :=
  if text ≠ [] ∧ text.all Char.isDigit then some (Nat.ofDigitChars 10 text 0) else none

/-- The number as a machine word, if it fits one. -/
def word32? (value : Nat) : Option UInt32 :=
  if value < UInt32.size then some (UInt32.ofNat value) else none

@[simp]
theorem length_hexDigits (letters : LetterCase) (width value : Nat) :
    (hexDigits letters width value).length = width := by
  induction width generalizing value with
  | zero => rfl
  | succ width inductionHypothesis => simp [hexDigits, inductionHypothesis]

end NetInterface.Text
