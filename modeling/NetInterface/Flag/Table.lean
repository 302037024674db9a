/-!
Tables of flags: the name, display token and bit of each flag of a kind.

A flag without a bit is known by name but never set in a mask.
-/

namespace NetInterface

structure FlagRow (F : Type) where
  flag : F
  name : String
  /-- The name of the flag in JSON documents. -/
  label : String
  token : String
  bit : Option UInt32

structure FlagTable (F : Type) where
  rows : List (FlagRow F)

namespace FlagRow

variable {F : Type}

def mask (row : FlagRow F) : UInt32 :=
  row.bit.getD 0

/-- Whether the flag has a bit and all of it is set in the mask. -/
def isSet (row : FlagRow F) (mask : UInt32) : Bool :=
  match row.bit with
  | some bit => bit != 0 && mask &&& bit == bit
  | none => false

end FlagRow

namespace FlagTable

variable {F : Type} [DecidableEq F]

def row? (table : FlagTable F) (flag : F) : Option (FlagRow F) :=
  table.rows.find? (·.flag = flag)

def bit? (table : FlagTable F) (flag : F) : Option UInt32 :=
  (table.row? flag).bind (·.bit)

/-- The row of a flag name, in either letter case. -/
def named? (table : FlagTable F) (name : String) : Option (FlagRow F) :=
  table.rows.find? (·.name.toList.map Char.toLower = name.toList.map Char.toLower)

def maskOf (table : FlagTable F) (flag : F) : UInt32 :=
  (table.bit? flag).getD 0

/-- The bits of all the given flags. -/
def maskOfAll (table : FlagTable F) (flags : List F) : UInt32 :=
  flags.foldr (fun flag mask => table.maskOf flag ||| mask) 0

def isEnabled (table : FlagTable F) (mask : UInt32) (flag : F) : Bool :=
  match table.bit? flag with
  | some bit => bit != 0 && mask &&& bit == bit
  | none => false

omit [DecidableEq F] in
/-- The flags that are set in the mask, in table order. -/
def enabled (table : FlagTable F) (mask : UInt32) : List F :=
  (table.rows.filter (·.isSet mask)).map (·.flag)

omit [DecidableEq F] in
def tokens (table : FlagTable F) (mask : UInt32) : List String :=
  (table.rows.filter (·.isSet mask)).map (·.token)

end FlagTable

end NetInterface
