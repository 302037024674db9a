import NetInterface.Text.Digits
import NetInterface.Toml.Value

/-!
Quoted TOML strings: with or without escapes, on one line or on several.

Each reader starts after the opening quotes and yields the text and what follows the closing ones.
Several-line strings may end in one or two quotes of their own before the closing three.
-/

namespace NetInterface.Toml.Quoted

open Text

/-- Whether a character may stand unescaped on one line. -/
def isPlain (character : Char) : Bool :=
  character = '\t' || (0x20 ≤ character.toNat && character != '\x7f')

def ofCodePoint? (digits : List Char) : Option Char :=
  match hexNumber? digits with
  | some value => if valid : value.isValidChar then some (Char.ofNatAux value valid) else none
  | none => none

/-- The escapes of one letter. -/
def shortEscape? : Char → Option Char
  | 'b' => some '\x08'
  | 't' => some '\t'
  | 'n' => some '\n'
  | 'f' => some '\x0c'
  | 'r' => some '\r'
  | 'e' => some '\x1b'
  | '"' => some '"'
  | '\\' => some '\\'
  | _ => none

/-- The character of an escape after its backslash, and what follows. -/
def escape? : List Char → Option (Char × List Char)
  | 'x' :: a :: b :: rest => (ofCodePoint? [a, b]).map (·, rest)
  | 'u' :: a :: b :: c :: d :: rest => (ofCodePoint? [a, b, c, d]).map (·, rest)
  | 'U' :: a :: b :: c :: d :: e :: f :: g :: h :: rest =>
      (ofCodePoint? [a, b, c, d, e, f, g, h]).map (·, rest)
  | letter :: rest => (shortEscape? letter).map (·, rest)
  | [] => none

/-- A one-line string with escapes. The text read so far comes last first. -/
def basic : Nat → List Char → List Char → Except Fault (String × List Char)
  | 0, _, _ => .error .malformed
  | steps + 1, read, text =>
      match text with
      | '"' :: rest => .ok (String.ofList read.reverse, rest)
      | '\\' :: rest =>
          match escape? rest with
          | some (character, rest) => basic steps (character :: read) rest
          | none => .error .malformed
      | character :: rest =>
          if isPlain character then basic steps (character :: read) rest else .error .malformed
      | [] => .error .malformed

/-- A one-line string without escapes. -/
def literal : List Char → List Char → Except Fault (String × List Char)
  | read, '\'' :: rest => .ok (String.ofList read.reverse, rest)
  | read, character :: rest =>
      if isPlain character then literal (character :: read) rest else .error .malformed
  | _, [] => .error .malformed

/-- The text after closing quotes; up to two quotes before them belong to the string. -/
def close (quote : Char) (read : List Char) (rest : List Char) : String × List Char :=
  match rest with
  | first :: second :: others =>
      if first = quote then
        if second = quote then
          (String.ofList (quote :: quote :: read).reverse, others)
        else
          (String.ofList (quote :: read).reverse, second :: others)
      else
        (String.ofList read.reverse, rest)
  | [first] =>
      if first = quote then (String.ofList (quote :: read).reverse, [])
      else (String.ofList read.reverse, rest)
  | [] => (String.ofList read.reverse, [])

/-- The text after a line break at its very beginning, which does not count. -/
def dropLineBreak : List Char → List Char
  | '\n' :: rest => rest
  | '\r' :: '\n' :: rest => rest
  | rest => rest

/-- The blanks and line breaks after a backslash at the end of a line, which all do not count. -/
def skipLineBreaks (seenBreak : Bool) : List Char → Except Fault (List Char)
  | '\n' :: rest => skipLineBreaks true rest
  | '\r' :: '\n' :: rest => skipLineBreaks true rest
  | ' ' :: rest => skipLineBreaks seenBreak rest
  | '\t' :: rest => skipLineBreaks seenBreak rest
  | rest => if seenBreak then .ok rest else .error .malformed

/-- A string of several lines with escapes. -/
def multiBasic : Nat → List Char → List Char → Except Fault (String × List Char)
  | 0, _, _ => .error .malformed
  | steps + 1, read, text =>
      match text with
      | '"' :: '"' :: '"' :: rest => .ok (close '"' read rest)
      | '\\' :: rest =>
          match escape? rest with
          | some (character, rest) => multiBasic steps (character :: read) rest
          | none => do multiBasic steps read (← skipLineBreaks false rest)
      | '\r' :: '\n' :: rest => multiBasic steps ('\n' :: '\r' :: read) rest
      | character :: rest =>
          if isPlain character || character = '\n' then multiBasic steps (character :: read) rest
          else .error .malformed
      | [] => .error .malformed

/-- A string of several lines without escapes. -/
def multiLiteral : List Char → List Char → Except Fault (String × List Char)
  | read, '\'' :: '\'' :: '\'' :: rest => .ok (close '\'' read rest)
  | read, '\r' :: '\n' :: rest => multiLiteral ('\n' :: '\r' :: read) rest
  | read, character :: rest =>
      if isPlain character || character = '\n' then multiLiteral (character :: read) rest
      else .error .malformed
  | _, [] => .error .malformed

/-- A quoted string of any kind; absent if the text does not begin with a quote. -/
def string? : List Char → Option (Except Fault (String × List Char))
  | '"' :: '"' :: '"' :: rest =>
      some (multiBasic (rest.length + 1) [] (dropLineBreak rest))
  | '"' :: rest => some (basic (rest.length + 1) [] rest)
  | '\'' :: '\'' :: '\'' :: rest => some (multiLiteral [] (dropLineBreak rest))
  | '\'' :: rest => some (literal [] rest)
  | _ => none

/-- A quoted string on one line, as keys are written. -/
def oneLine? : List Char → Option (Except Fault (String × List Char))
  | '"' :: rest => some (basic (rest.length + 1) [] rest)
  | '\'' :: rest => some (literal [] rest)
  | _ => none

end NetInterface.Toml.Quoted
