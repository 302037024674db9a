import NetInterface.Address.Ipv6

/-!
IPv6 addresses with a zone: a scope id, a scope name, both or neither.

A scope id is never zero and a scope name never empty; setting such a value clears it. The text is
the address, then `%` and the name or else the id. Reading takes a scope of decimal digits for an
id and any other for a name.
-/

namespace NetInterface

open Text

@[ext]
structure ScopedIpv6 where
  address : Ipv6
  scopeId : Option UInt32
  scopeName : Option String
  scopeId_ne_zero : scopeId ≠ some 0
  scopeName_ne_empty : scopeName ≠ some ""
deriving DecidableEq

namespace ScopedIpv6

def unscoped (address : Ipv6) : ScopedIpv6 :=
  ⟨address, none, none, nofun, nofun⟩

/-- The address with the given scope id; zero stands for none. -/
def withScopeId (ipv6 : ScopedIpv6) (id : UInt32) : ScopedIpv6 :=
  if zero : id = 0 then
    { ipv6 with scopeId := none, scopeId_ne_zero := nofun }
  else
    { ipv6 with scopeId := some id, scopeId_ne_zero := by simpa using zero }

/-- The address with the given scope name; the empty name stands for none. -/
def withScopeName (ipv6 : ScopedIpv6) (name : String) : ScopedIpv6 :=
  if empty : name = "" then
    { ipv6 with scopeName := none, scopeName_ne_empty := nofun }
  else
    { ipv6 with scopeName := some name, scopeName_ne_empty := by simpa using empty }

def isScoped (ipv6 : ScopedIpv6) : Bool :=
  ipv6.scopeId.isSome || ipv6.scopeName.isSome

/-- The scope id as it is shown beside an address. -/
def scopeLabel (ipv6 : ScopedIpv6) : Option String :=
  ipv6.scopeId.map fun id => "0x" ++ String.ofList (leastHex id.toNat)

/-- The name of the scope, or its id in decimal. -/
def scopeText (ipv6 : ScopedIpv6) : Option (List Char) :=
  match ipv6.scopeName with
  | some name => some name.toList
  | none => ipv6.scopeId.map fun id => Nat.toDigits 10 id.toNat

def characters (ipv6 : ScopedIpv6) : List Char :=
  match ipv6.scopeText with
  | some scope => ipv6.address.characters ++ '%' :: scope
  | none => ipv6.address.characters

def text (ipv6 : ScopedIpv6) : String :=
  String.ofList ipv6.characters

/-- The address with the scope that a text names; absent for an empty scope, one that contains
another `%`, and digits whose value is too large for an id. -/
def withScopeText? (address : Ipv6) (scope : List Char) : Option ScopedIpv6 :=
  if scope = [] ∨ '%' ∈ scope then
    none
  else
    match decimalNumber? scope with
    | some value => (word32? value).map (unscoped address).withScopeId
    | none => some ((unscoped address).withScopeName (String.ofList scope))

def ofCharacters? (text : List Char) : Option ScopedIpv6 :=
  match cut? '%' text with
  | none => (Ipv6.ofCharacters? text).map unscoped
  | some (address, scope) => do withScopeText? (← Ipv6.ofCharacters? address) scope

def parse (text : String) : Except AddressError ScopedIpv6 :=
  match ofCharacters? text.toList with
  | some ipv6 => .ok ipv6
  | none => .error (.invalidFormat .v6 text)

def ofOctets (octets : List UInt8) (scopeId : Option UInt32) : Except AddressError ScopedIpv6 :=
  (Ipv6.ofOctets octets).map fun address => (unscoped address).withScopeId (scopeId.getD 0)

/-- The order of optional values: an absent one comes first. -/
def compareOption {α : Type} [Ord α] : Option α → Option α → Ordering
  | none, none => .eq
  | none, some _ => .lt
  | some _, none => .gt
  | some left, some right => compare left right

instance : Ord ScopedIpv6 where
  compare left right :=
    (compare left.address.octets right.address.octets).then <|
      (compareOption left.scopeId right.scopeId).then
        (compareOption left.scopeName right.scopeName)

end ScopedIpv6

end NetInterface
