import NetInterface.Address.Ipv4
import NetInterface.Native.Entry
import NetInterface.Text.Digits
import NetInterface.Text.Split

/-!
The system's list of addresses, read from the files in which the kernel publishes its network state.

One file names the interfaces and a few files describe each of them. IPv6 addresses are listed with
their interfaces. Of the IPv4 addresses only the values are listed: the interface and the netmask of
one are those of the most specific direct route that covers it. An address without such a route is
a loopback address.
-/

namespace NetInterface.KernelFiles

open Text

def lines (text : String) : List (List Char) :=
  splitOn '\n' text.toList

/-- The parts of a line between blanks. -/
def words (line : List Char) : List (List Char) :=
  (splitOn ' ' (line.map fun character => if character = '\t' then ' ' else character)).filter
    (· ≠ [])

/-- The octets that a text of hexadecimal digits writes, two digits each. -/
def hexOctets? : List Char → Option (List UInt8)
  | [] => some []
  | high :: low :: rest => do
      return UInt8.ofNat (← hexNumber? [high, low]) :: (← hexOctets? rest)
  | [_] => none

/-- The names of all interfaces: what precedes the colons of the table of devices. -/
def interfaceNames (devices : String) : List String :=
  (lines devices).filterMap fun line => do
    let (before, _) ← cut? ':' line
    let name ← (words before).getLast?
    return String.ofList name

/-- What the files of one interface say. -/
structure Link where
  name : String
  index : Nat
  flags : UInt32
  hardwareType : Nat
  octets : List UInt8

def decimal (text : String) : Nat :=
  ((words ((lines text).headD [])).head?.bind decimalNumber?).getD 0

/-- A number after the characters 0x. -/
def hexadecimal (text : String) : Nat :=
  (hexNumber? (((words ((lines text).headD [])).headD []).drop 2)).getD 0

/-- An interface that is up and able to carry data is running. -/
def runningFlag (flags : UInt32) (state : String) : UInt32 :=
  let state := (words ((lines state).headD [])).headD []
  if flags &&& 0x1 != 0 && (state = "up".toList || state = "unknown".toList) then 0x40 else 0

def link (name index flags type address state : String) : Link :=
  let flags := UInt32.ofNat (hexadecimal flags)
  let address := (words ((lines address).headD [])).headD []
  { name := name
    index := decimal index
    flags := flags ||| runningFlag flags state
    hardwareType := decimal type
    octets := ((splitOn ':' address).mapM hexOctets?).elim [] List.flatten }

def entry (link : Link) (address netmask other : Option SocketAddress) : NativeEntry :=
  ⟨some (Utf8.octets link.name), link.flags, address, netmask, other⟩

def linkEntry (link : Link) : NativeEntry :=
  entry link (some (.packet link.hardwareType link.octets.length link.octets)) none none

/-- As many octets as given, the first bits of which are set. -/
def netmask : Nat → Nat → List UInt8
  | 0, _ => []
  | octets + 1, bits =>
      UInt8.ofNat (256 - 1 <<< (8 - min bits 8)) :: netmask octets (bits - 8)

/-- A line with an address, the index of its interface, the length of its prefix, its scope, its
flags and the name of its interface. -/
def ofInet6Line? (links : List Link) (line : List Char) : Option NativeEntry :=
  match words line with
  | [address, index, length, _, _, name] => do
      let link ← links.find? (·.name.toList = name)
      let octets ← hexOctets? address
      let scope := if octets.take 2 = [0xfe, 0x80] then (hexNumber? index).getD 0 else 0
      let mask := netmask 16 (← hexNumber? length)
      return entry link (some (.inet6 octets (UInt32.ofNat scope))) (some (.inet6 mask 0)) none
  | _ => none

/-- A network that is reached through an interface without a gateway. -/
structure Route where
  name : List Char
  network : List UInt8
  mask : List UInt8

/-- A line of the routing table, in which the octets of addresses are written last to first. -/
def route? (line : List Char) : Option Route :=
  match words line with
  | name :: network :: gateway :: _ :: _ :: _ :: _ :: mask :: _ => do
      if gateway.any (· ≠ '0') then none
      else return ⟨name, (← hexOctets? network).reverse, (← hexOctets? mask).reverse⟩
  | _ => none

def masked (octets mask : List UInt8) : List UInt8 :=
  octets.zipWith (· &&& ·) mask

def moreSpecific (best : Option Route) (route : Route) : Option Route :=
  match best with
  | some known => if bitCount known.mask < bitCount route.mask then some route else some known
  | none => some route

/-- The most specific route that covers an address. -/
def routeTo? (routes : List Route) (octets : List UInt8) : Option Route :=
  (routes.filter fun route => masked octets route.mask = route.network).foldl moreSpecific none

/-- The local addresses in the tree of routes: each is above a line that says so. -/
def localAddresses : List (List (List Char)) → List (List UInt8)
  | [_, address] :: kind :: rest =>
      let here :=
        if kind = ["/32".toList, "host".toList, "LOCAL".toList] then
          ((Ipv4.ofCharacters? address).map Ipv4.octets).toList
        else
          []
      here ++ localAddresses (kind :: rest)
  | _ :: rest => localAddresses rest
  | [] => []

def ofInetAddress? (links : List Link) (routes : List Route) (octets : List UInt8) :
    Option NativeEntry := do
  let (name, mask) :=
    match routeTo? routes octets with
    | some route => (route.name, route.mask)
    | none => ("lo".toList, [255, 0, 0, 0])
  let link ← links.find? (·.name.toList = name)
  let broadcast :=
    if link.flags &&& 0x2 != 0 then
      some (SocketAddress.inet (octets.zipWith (fun octet bits => octet ||| ~~~bits) mask))
    else
      none
  return entry link (some (.inet octets)) (some (.inet mask)) broadcast

/-- The table: all links, then the IPv4 addresses and then the IPv6 addresses. -/
def table (links : List Link) (routeTree routeTable inet6 : String) : NativeTable where
  entries :=
    links.map linkEntry ++
      (localAddresses ((lines routeTree).map words)).eraseDups.filterMap
        (ofInetAddress? links ((lines routeTable).filterMap route?)) ++
      (lines inet6).filterMap (ofInet6Line? links)
  indexes := links.map fun link => (Utf8.octets link.name, UInt32.ofNat link.index)
  error := none

end NetInterface.KernelFiles
