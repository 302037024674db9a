import NetInterface.Address.Ipv4

/-!
IPv6 addresses as eight 16-bit words, and their texts.

A text is eight groups of one to four hexadecimal digits; `::` stands for one or more zero groups
and a dotted quad may stand for the last two. Writing shortens the leftmost of the longest runs of
two or more zero words, in lower case without leading zeros, and never uses a dotted quad.
-/

namespace NetInterface

open Text

structure Ipv6 where
  words : List UInt16
  length_words : words.length = 8
deriving DecidableEq

namespace Ipv6

def ofWords? (words : List UInt16) : Option Ipv6 :=
  if complete : words.length = 8 then some ⟨words, complete⟩ else none

/-- A word from its two octets, the most significant first. -/
def wordOfOctets (high low : UInt8) : UInt16 :=
  UInt16.ofNat (256 * high.toNat + low.toNat)

def octetsOfWord (word : UInt16) : List UInt8 :=
  [UInt8.ofNat (word.toNat / 256), UInt8.ofNat (word.toNat % 256)]

def octets (address : Ipv6) : List UInt8 :=
  address.words.flatMap octetsOfWord

/-- Neighbouring octets joined to words; absent for an odd number of octets. -/
def wordsOfOctets? : List UInt8 → Option (List UInt16)
  | [] => some []
  | high :: low :: remaining => (wordsOfOctets? remaining).map (wordOfOctets high low :: ·)
  | [_] => none

def ofOctets? (octets : List UInt8) : Option Ipv6 := do
  ofWords? (← wordsOfOctets? octets)

def ofOctets (octets : List UInt8) : Except AddressError Ipv6 :=
  match ofOctets? octets with
  | some address => .ok address
  | none => .error (.invalidLength .v6 octets.length)

/-! ### Reading -/

/-- One group of a text: one to four hexadecimal digits. -/
def group? (field : List Char) : Option UInt16 :=
  if 1 ≤ field.length ∧ field.length ≤ 4 then
    (hexNumber? field).map UInt16.ofNat
  else
    none

/-- The two words that a dotted quad stands for. -/
def quad? (field : List Char) : Option (List UInt16) :=
  (Ipv4.ofCharacters? field).map fun quad =>
    [wordOfOctets quad.first quad.second, wordOfOctets quad.third quad.fourth]

/-- The words of the groups between colons; an empty text has none. -/
def headWords? (text : List Char) : Option (List UInt16) :=
  if text = [] then some [] else (splitOn ':' text).mapM group?

/-- As `headWords?`, but the last group may be a dotted quad. -/
def tailWords? (text : List Char) : Option (List UInt16) :=
  if text = [] then
    some []
  else
    go (splitOn ':' text)
where
  go : List (List Char) → Option (List UInt16)
    | [] => some []
    | [field] => quad? field <|> (group? field).map ([·])
    | field :: fields => do
        let word ← group? field
        return word :: (← go fields)

/-- The texts before and after the first `::`, if there is one. -/
def cutAtElision? : List Char → Option (List Char × List Char)
  | ':' :: ':' :: after => some ([], after)
  | [] => none
  | character :: remaining =>
      (cutAtElision? remaining).map fun (before, after) => (character :: before, after)

def words? (text : List Char) : Option (List UInt16) :=
  match cutAtElision? text with
  | none => tailWords? text
  | some (before, after) => do
      let front ← headWords? before
      let back ← tailWords? after
      if front.length + back.length ≤ 7 then
        return front ++ List.replicate (8 - front.length - back.length) 0 ++ back
      else
        none

def ofCharacters? (text : List Char) : Option Ipv6 := do
  ofWords? (← words? text)

def parse (text : String) : Except AddressError Ipv6 :=
  match ofCharacters? text.toList with
  | some address => .ok address
  | none => .error (.invalidFormat .v6 text)

/-! ### Writing -/

/-- The number of zeros that the words start with. -/
def leadingZeros (words : List UInt16) : Nat :=
  (words.takeWhile (· == 0)).length

/-- The start and length of the leftmost longest run of zero words. -/
def longestZeroRun : List UInt16 → Nat × Nat
  | [] => (0, 0)
  | word :: remaining =>
      let (start, length) := longestZeroRun remaining
      let here := leadingZeros (word :: remaining)
      if length ≤ here then (0, here) else (start + 1, length)

def groups (words : List UInt16) : List Char :=
  joinWith ':' (words.map fun word => leastHex word.toNat)

def characters (address : Ipv6) : List Char :=
  let (start, length) := longestZeroRun address.words
  if 2 ≤ length then
    groups (address.words.take start) ++ [':', ':'] ++
      groups (address.words.drop (start + length))
  else
    groups address.words

def text (address : Ipv6) : String :=
  String.ofList address.characters

end Ipv6

end NetInterface
