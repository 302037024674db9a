/-!
UTF-8: octets decoded by a machine that reads one octet at a time.

`decode` yields a character for every well-formed sequence and a gap for every longest part that
could have begun one, as well as for every octet that cannot begin one. A text is well formed if no
gap remains; otherwise each gap may stand for one replacement character.
-/

namespace NetInterface.Text.Utf8

/-- Between characters, or inside one: how many octets are still due, the range of the next one and
the bits read so far. -/
inductive State where
  | start
  | inside (due : Nat) (low high : Nat) (bits : Nat)
deriving DecidableEq, Repr

/-- The effect of an octet between characters. -/
def first (octet : Nat) : List (Option Char) × State :=
  if octet < 0x80 then ([some (Char.ofNat octet)], .start)
  else if 0xC2 ≤ octet ∧ octet ≤ 0xDF then ([], .inside 1 0x80 0xBF (octet % 0x20))
  else if octet = 0xE0 then ([], .inside 2 0xA0 0xBF 0)
  else if octet = 0xED then ([], .inside 2 0x80 0x9F 0xD)
  else if 0xE1 ≤ octet ∧ octet ≤ 0xEF then ([], .inside 2 0x80 0xBF (octet % 0x10))
  else if octet = 0xF0 then ([], .inside 3 0x90 0xBF 0)
  else if octet = 0xF4 then ([], .inside 3 0x80 0x8F 4)
  else if 0xF1 ≤ octet ∧ octet ≤ 0xF3 then ([], .inside 3 0x80 0xBF (octet % 0x8))
  else ([none], .start)

/-- The characters and gaps that an octet completes, and the state after it. -/
def step : State → Nat → List (Option Char) × State
  | .start, octet => first octet
  | .inside due low high bits, octet =>
      if low ≤ octet ∧ octet ≤ high then
        let bits := 64 * bits + octet % 64
        if due ≤ 1 then
          ([some (Char.ofNat bits)], .start)
        else
          ([], .inside (due - 1) 0x80 0xBF bits)
      else
        let (completed, state) := first octet
        (none :: completed, state)

def run : State → List UInt8 → List (Option Char)
  | .start, [] => []
  | .inside .., [] => [none]
  | state, octet :: octets =>
      let (completed, next) := step state octet.toNat
      completed ++ run next octets

def decode (octets : List UInt8) : List (Option Char) :=
  run .start octets

/-- The text, if all octets are well formed. -/
def text? (octets : List UInt8) : Option String :=
  ((decode octets).mapM id).map String.ofList

/-- The text with a replacement character for every gap. -/
def lossyText (octets : List UInt8) : String :=
  String.ofList ((decode octets).map (·.getD '\uFFFD'))

def octets (text : String) : List UInt8 :=
  text.toUTF8.data.toList

/-- The octets of characters, in order. -/
def encode (characters : List Char) : List UInt8 :=
  characters.flatMap String.utf8EncodeChar

end NetInterface.Text.Utf8
