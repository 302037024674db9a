/-!
TOML values, and tables that are put together from headers and dotted keys.

A table remembers how it came about, because that decides how it may still grow: a table that only
a longer key or header mentions may be defined later, a table that was defined may gain subtables
by headers alone, and a value is complete as soon as it is written.
-/

namespace NetInterface.Toml

inductive Value where
  | string (value : String)
  | integer (text : String)
  | float (text : String)
  | boolean (value : Bool)
  | dateTime (text : String)
  | array (items : List Value)
  | table (members : List (String × Value))

inductive Fault where
  | malformed
  | duplicateKey
  | nestedTooDeeply
deriving DecidableEq, Repr

inductive Origin where
  /-- Mentioned on the way to a header. -/
  | mentioned
  /-- Mentioned on the way to a dotted key. -/
  | dotted
  /-- Defined by a header of its own. -/
  | defined
deriving DecidableEq, Repr

inductive Node where
  | value (value : Value)
  | table (origin : Origin) (members : List (String × Node))
  /-- An array of tables, the last one first. -/
  | tables (last : List (String × Node)) (earlier : List (List (String × Node)))

abbrev Members := List (String × Node)

namespace Members

def get? (members : Members) (key : String) : Option Node :=
  (members.find? (·.1 = key)).map (·.2)

/-- Replaces the node of a key in its place, or adds the key at the end. -/
def set (members : Members) (key : String) (node : Node) : Members :=
  match members with
  | [] => [(key, node)]
  | member :: others =>
      if member.1 = key then (key, node) :: others else member :: set others key node

/-- Changes the table at the end of a path. Missing tables on the way are created; a dotted key
does not pass through tables that a header has defined. -/
def change (dotted : Bool) : List String → (Members → Except Fault Members) → Members →
    Except Fault Members
  | [], act, members => act members
  | key :: path, act, members =>
      match members.get? key with
      | none => do
          let inner ← change dotted path act []
          return members.set key (.table (if dotted then .dotted else .mentioned) inner)
      | some (.table origin inner) =>
          if dotted && origin = .defined then
            .error .duplicateKey
          else do
            return members.set key (.table origin (← change dotted path act inner))
      | some (.tables last earlier) =>
          if dotted then
            .error .duplicateKey
          else do
            return members.set key (.tables (← change dotted path act last) earlier)
      | some (.value _) => .error .duplicateKey

/-- Gives a new key its value. -/
def assign (path : List String) (key : String) (value : Value) (members : Members) :
    Except Fault Members :=
  members.change true path fun inner =>
    match inner.get? key with
    | none => .ok (inner.set key (.value value))
    | some _ => .error .duplicateKey

/-- Defines the table of a header. -/
def defineTable (path : List String) (key : String) (members : Members) : Except Fault Members :=
  members.change false path fun inner =>
    match inner.get? key with
    | none => .ok (inner.set key (.table .defined []))
    | some (.table .mentioned content) => .ok (inner.set key (.table .defined content))
    | some _ => .error .duplicateKey

/-- Adds one more table to the array of a header. -/
def appendTable (path : List String) (key : String) (members : Members) : Except Fault Members :=
  members.change false path fun inner =>
    match inner.get? key with
    | none => .ok (inner.set key (.tables [] []))
    | some (.tables last earlier) => .ok (inner.set key (.tables [] (last :: earlier)))
    | some _ => .error .duplicateKey

end Members

namespace Node

mutual

/-- The finished value of a node. -/
def toValue : Node → Value
  | .value complete => complete
  | .table _ members => .table (membersToValues members)
  | .tables last earlier => .array (tablesToValues earlier [.table (membersToValues last)])

def membersToValues : List (String × Node) → List (String × Value)
  | [] => []
  | (key, node) :: members => (key, node.toValue) :: membersToValues members

def tablesToValues : List (List (String × Node)) → List Value → List Value
  | [], values => values
  | members :: others, values => tablesToValues others (.table (membersToValues members) :: values)

end

end Node

end NetInterface.Toml
