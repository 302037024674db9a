import NetInterface.Address.Assigned
import NetInterface.Flag.Interface
import NetInterface.Guid
import NetInterface.HardwareAddress

/-!
A network interface: its identity, flags and addresses, and how it is shown.
-/

namespace NetInterface

/-- A request that the present state or platform cannot answer. -/
inductive IllegalState where
  | closed
  | unavailable (feature : String)
deriving DecidableEq, Repr

namespace IllegalState

def reason : IllegalState → String
  | .closed => "interface browser is closed"
  | .unavailable feature => feature ++ " is not available on linux"

def message (state : IllegalState) : String :=
  "Illegal state: " ++ state.reason

end IllegalState

structure Interface where
  index : UInt32
  name : String
  guid : Option Guid
  flags : UInt32
  mtu : Option UInt64
  hardwareAddress : Option HardwareAddress
  ipv4 : List (AssignedAddress Ipv4)
  ipv6 : List (AssignedAddress ScopedIpv6)
deriving DecidableEq

namespace Interface

/-- An interface that has an index and a name only. -/
def bare (index : UInt32) (name : String) : Interface :=
  ⟨index, name, none, 0, none, none, [], []⟩

/-- Adapters have a GUID on another platform only, so none is ever given out. -/
def platformUuid (_interface : Interface) : Except IllegalState (Option Guid) :=
  .error (.unavailable "platform UUID")

def hasFlag (interface : Interface) (flag : InterfaceFlag) : Bool :=
  InterfaceFlag.table.isEnabled interface.flags flag

def isUp (interface : Interface) : Bool :=
  interface.hasFlag .up

def isLoopback (interface : Interface) : Bool :=
  interface.hasFlag .loopback

def hasAddresses (interface : Interface) : Bool :=
  !interface.ipv4.isEmpty || !interface.ipv6.isEmpty

/-- The texts of all addresses without scopes, the IPv4 addresses first. -/
def plainAddresses (interface : Interface) : List String :=
  interface.ipv4.map (·.address.text) ++ interface.ipv6.map (·.address.address.text)

/-! ### Text -/

def flagsText (interface : Interface) : String :=
  String.ofList (Text.leastHex interface.flags.toNat) ++ "<" ++
    String.intercalate "," (InterfaceFlag.table.tokens interface.flags) ++ ">"

def headline (interface : Interface) : String :=
  interface.name ++ " (" ++ toString interface.index.toNat ++ "): flags=" ++
    interface.flagsText ++
    match interface.mtu with
    | some mtu => " mtu " ++ toString mtu.toNat
    | none => ""

def detailLines (interface : Interface) : List String :=
  (interface.hardwareAddress.toList.map fun address => "ether " ++ address.text) ++
    (interface.ipv4.map fun address => "inet  " ++ address.text) ++
    (interface.ipv6.map fun address => "inet6 " ++ address.text)

/-- A headline, then one indented line for each address. -/
def text (interface : Interface) : String :=
  interface.headline ++ String.join (interface.detailLines.map ("\n        " ++ ·))

/-! ### JSON -/

def json (interface : Interface) : Json :=
  .object
    [("index", .number interface.index.toNat),
     ("name", .string interface.name),
     ("platform_uuid", .ofOption (.string ∘ Guid.text) interface.guid),
     ("flags", .number interface.flags.toNat),
     ("flag_names", .array ((InterfaceFlag.table.tokens interface.flags).map .string)),
     ("mtu", .ofOption (.number ∘ UInt64.toNat) interface.mtu),
     ("mac", .ofOption (.string ∘ HardwareAddress.text) interface.hardwareAddress),
     ("ipv4", .array (interface.ipv4.map AssignedAddress.json)),
     ("ipv6", .array (interface.ipv6.map AssignedAddress.json))]

end Interface

end NetInterface
