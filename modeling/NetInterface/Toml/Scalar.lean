import NetInterface.Text.Digits
import NetInterface.Text.Split
import NetInterface.Toml.Value

/-!
TOML values that are written without quotes: booleans, numbers, dates and times.

Numbers, dates and times keep the text that they were written as.
-/

namespace NetInterface.Toml.Scalar

open Text

/-- Digits with single underscores between them. -/
def isSeparated (isDigit : Char → Bool) (text : List Char) : Bool :=
  (splitOn '_' text).all fun group => group ≠ [] && group.all isDigit

/-- The text after a sign, if there is one. -/
def unsigned : List Char → List Char
  | '+' :: rest => rest
  | '-' :: rest => rest
  | rest => rest

/-- Decimal digits without a leading zero. -/
def isDecimal (text : List Char) : Bool :=
  isSeparated Char.isDigit text && (text.length = 1 || text.head? != some '0')

/-- The letters after a leading zero that choose another base, and the digits of that base. -/
def bases : List (Char × (Char → Bool)) :=
  [('x', isHexDigit),
   ('o', fun digit => '0' ≤ digit && digit ≤ '7'),
   ('b', fun digit => digit = '0' || digit = '1')]

/-- An integer in base ten with an optional sign. An underscore between the sign and the digits is
let through, and the digits after it may begin with zeros. -/
def isWhole (text : List Char) : Bool :=
  match text with
  | '+' :: '_' :: digits | '-' :: '_' :: digits => isSeparated Char.isDigit digits
  | text => isDecimal (unsigned text)

/-- Groups with underscores between them, which stand between digits of any base. A group of a
single character may also be a sign that comes first. -/
def isGrouped (text : List Char) : Bool :=
  let groups := splitOn '_' text
  groups.all (· ≠ []) &&
    groups.tail.all (fun group => group.head?.any isHexDigit) &&
    groups.dropLast.all (fun group => group.length = 1 || group.getLast?.any isHexDigit)

/-- Whether a text has the form of an integer, which says little of its digits: their value is only
asked for where an integer is wanted. In another base they may be missing, and if an underscore
follows the first digits, only the characters beside underscores are looked at. -/
def isInteger (text : List Char) : Bool :=
  match text with
  | '0' :: letter :: rest =>
      match bases.find? (·.1 = letter) with
      | some (_, isDigit) => rest = [] || isSeparated isDigit rest
      | none => false
  | text =>
      let digits := unsigned text
      let rest := digits.dropWhile Char.isDigit
      let isFree := !rest.any fun character => ['.', 'e', 'E', ' '].contains character
      isWhole text ||
        (digits.head? != some '0' && rest.head? = some '_' && isFree && isGrouped text)

/-- An exponent after its letter: a sign and digits, which may begin with zeros. -/
def isExponent (text : List Char) : Bool :=
  isSeparated Char.isDigit (unsigned text)

/-- What may follow the integer part of a float: a fraction, an exponent or both. -/
def isFloatTail (text : List Char) : Bool :=
  match text with
  | '.' :: rest =>
      let fraction := rest.takeWhile fun character => character != 'e' && character != 'E'
      isSeparated Char.isDigit fraction &&
        match rest.drop fraction.length with
        | [] => true
        | _ :: exponent => isExponent exponent
  | letter :: exponent => (letter = 'e' || letter = 'E') && isExponent exponent
  | [] => false

def isFloat (text : List Char) : Bool :=
  let whole := text.takeWhile fun character => !(['.', 'e', 'E'].contains character)
  let name := unsigned text
  name = ['i', 'n', 'f'] || name = ['n', 'a', 'n'] ||
    (isWhole whole && isFloatTail (text.drop whole.length))

/-- A number of exactly the given width within bounds. -/
def field (width least most : Nat) (text : List Char) : Bool :=
  text.length = width &&
    match decimalNumber? text with
    | some value => least ≤ value && value ≤ most
    | none => false

def isLeapYear (year : Nat) : Bool :=
  year % 4 = 0 && (year % 100 != 0 || year % 400 = 0)

def daysIn (year month : Nat) : Nat :=
  if month = 2 then (if isLeapYear year then 29 else 28)
  else if [4, 6, 9, 11].contains month then 30
  else 31

def isDate (text : List Char) : Bool :=
  match splitOn '-' text with
  | [year, month, day] =>
      field 4 0 9999 year && field 2 1 12 month &&
        field 2 1
          (daysIn ((decimalNumber? year).getD 0) ((decimalNumber? month).getD 0)) day
  | _ => false

/-- Seconds, with a fraction if there is a point. -/
def isSecond (text : List Char) : Bool :=
  match cut? '.' text with
  | none => field 2 0 60 text
  | some (whole, fraction) => field 2 0 60 whole && (decimalNumber? fraction).isSome

/-- A time of day; the seconds may be left out. -/
def isTime (text : List Char) : Bool :=
  match splitOn ':' text with
  | [hour, minute] => field 2 0 23 hour && field 2 0 59 minute
  | [hour, minute, second] => field 2 0 23 hour && field 2 0 59 minute && isSecond second
  | _ => false

def isOffset : List Char → Bool
  | [letter] => letter = 'Z' || letter = 'z'
  | sign :: rest =>
      (sign = '+' || sign = '-') &&
        match splitOn ':' rest with
        | [hour, minute] => field 2 0 23 hour && field 2 0 59 minute
        | _ => false
  | [] => false

def isTimeWithOffset (text : List Char) : Bool :=
  let time := text.takeWhile fun character =>
    character.isDigit || character = ':' || character = '.'
  isTime time && (text.length = time.length || isOffset (text.drop time.length))

/-- A date, a time, or both with an optional offset. -/
def isDateTime (text : List Char) : Bool :=
  isDate text || isTime text ||
    (isDate (text.take 10) &&
      match text.drop 10 with
      | mark :: time => (mark = 'T' || mark = 't' || mark = ' ') && isTimeWithOffset time
      | [] => false)

def value? (text : List Char) : Option Value :=
  if text = "true".toList then some (.boolean true)
  else if text = "false".toList then some (.boolean false)
  else if isInteger text then some (.integer (String.ofList text))
  else if isFloat text then some (.float (String.ofList text))
  else if isDateTime text then some (.dateTime (String.ofList text))
  else none

def isBlank (character : Char) : Bool :=
  character = ' ' || character = '\t'

/-- Whether a character ends a value that is written without quotes. A quote does not. -/
def isDelimiter (character : Char) : Bool :=
  isBlank character || ['\r', '\n', ',', ']', '[', '\x7b', '\x7d', '#', '='].contains character

/-- Whether a text goes on with a value that is written without quotes. -/
def isBare : List Char → Bool
  | [] => false
  | character :: _ => !isDelimiter character && !(['.', '"', '\''].contains character)

/-- The text of a value at the beginning of a text. Blanks belong to it if more of it follows, as
between a date and a time. -/
def token : List Char → List Char
  | [] => []
  | character :: rest =>
      if !isDelimiter character || (isBlank character && isBare (rest.dropWhile isBlank)) then
        character :: token rest
      else
        []

/-- The value at the beginning of a text and what follows. -/
def read (text : List Char) : Except Fault (Value × List Char) :=
  let token := token text
  match value? token with
  | some value => .ok (value, text.drop token.length)
  | none => .error .malformed

end NetInterface.Toml.Scalar
