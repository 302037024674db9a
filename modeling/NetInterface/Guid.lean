import NetInterface.Text.Split
import NetInterface.Text.Digits

/-!
Adapter GUIDs: 128-bit values written as five groups of hexadecimal digits.

The groups hold 8, 4, 4, 4 and 12 digits and are joined with dashes. Reading takes either letter
case, with or without one pair of braces around the text, and shifts the groups into the value one
after another; writing cuts them out of it and uses upper case.
-/

namespace NetInterface

open Text

structure Guid where
  value : BitVec 128
deriving DecidableEq

/-- The text is no GUID. -/
structure GuidError where
  text : String
deriving DecidableEq, Repr

def GuidError.message (error : GuidError) : String :=
  "Invalid adapter GUID '" ++ error.text ++ "'"

namespace Guid

/-- The number of digits of each group, in order. -/
def groupWidths : List Nat := [8, 4, 4, 4, 12]

/-- The text inside one pair of braces; a text without an opening brace stands for itself. -/
def unbraced? (text : List Char) : Option (List Char) :=
  match text with
  | '\x7b' :: inner =>
      if inner.getLast? = some '\x7d' then some inner.dropLast else none
  | _ => some text

/-- Reads a group of the given width and puts its number behind the bits read before. -/
def shiftIn? (bits : BitVec 128) (group : List Char) (width : Nat) : Option (BitVec 128) :=
  (hexField? width 64 group).map fun part => bits <<< (4 * width) ||| part.setWidth 128

/-- The value of groups whose widths are given, behind the bits of the groups before them. -/
def readGroups? (bits : BitVec 128) (groups : List (List Char × Nat)) : Option (BitVec 128) :=
  groups.foldlM (fun bits (group, width) => shiftIn? bits group width) bits

def ofGroups? (groups : List (List Char)) : Option Guid :=
  if groups.length = groupWidths.length then
    (readGroups? 0 (groups.zip groupWidths)).map Guid.mk
  else
    none

def ofCharacters? (text : List Char) : Option Guid := do
  ofGroups? (splitOn '-' (← unbraced? text))

def parse (text : String) : Except GuidError Guid :=
  match ofCharacters? text.toList with
  | some guid => .ok guid
  | none => .error ⟨text⟩

/-- The numbers of the groups, cut out of the value, with their widths. -/
def groups (guid : Guid) : List (BitVec 128 × Nat) :=
  [(guid.value >>> 96, 8),
   (guid.value >>> 80 &&& 0xffff, 4),
   (guid.value >>> 64 &&& 0xffff, 4),
   (guid.value >>> 48 &&& 0xffff, 4),
   (guid.value &&& 0xffffffffffff, 12)]

def characters (guid : Guid) : List Char :=
  joinWith '-' (guid.groups.map fun (part, width) => paddedHex .upper width part.toNat)

def text (guid : Guid) : String :=
  String.ofList guid.characters

def braced (guid : Guid) : String :=
  String.ofList ('\x7b' :: guid.characters ++ ['\x7d'])

def inspect (guid : Guid) : String :=
  "AdapterGuid(" ++ guid.text ++ ")"

end Guid

end NetInterface
