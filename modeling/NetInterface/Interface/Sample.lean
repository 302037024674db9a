import NetInterface.Interface.Basic

/-!
Sample values for documentation and for trying out the library.
-/

namespace NetInterface.Sample

def ipv4Loopback : Ipv4 := ⟨127, 0, 0, 1⟩

def ipv6Loopback : ScopedIpv6 :=
  .unscoped ⟨[0, 0, 0, 0, 0, 0, 0, 1], rfl⟩

def hardwareAddress : HardwareAddress :=
  .ofEui48 #v[0xac, 0xde, 0x48, 0x00, 0x11, 0x22]

def ipv4Assigned : AssignedAddress Ipv4 :=
  ⟨⟨192, 168, 0, 42⟩, some 24, some ⟨192, 168, 0, 254⟩, none, 0⟩

def ipv6Assigned : AssignedAddress ScopedIpv6 :=
  ⟨.unscoped ⟨[0x2001, 0x470, 0x2ccb, 0xa61b, 0xe, 0xacf8, 0x6736, 0xd81e], rfl⟩,
    some 56, none, none, AddressFlag.table.maskOfAll [.autoConfigured, .secured]⟩

def ipv6LinkLocalAssigned : AssignedAddress ScopedIpv6 :=
  ⟨(ScopedIpv6.unscoped ⟨[0xfe80, 0, 0, 0, 0xaede, 0x48ff, 0xfe00, 0x1122], rfl⟩
      |>.withScopeId 6).withScopeName "en5",
    some 64, none, none, AddressFlag.table.maskOfAll [.secured]⟩

def interface : Interface where
  index := 3
  name := "en0"
  guid := some ⟨0x24af95192a424f6299fa1ed3147ad90a⟩
  flags := InterfaceFlag.table.maskOfAll [.up, .running, .broadcast, .multicast]
  mtu := some 1500
  hardwareAddress := some hardwareAddress
  ipv4 := [ipv4Assigned]
  ipv6 :=
    [ipv6LinkLocalAssigned,
     ⟨.unscoped ⟨[0x2001, 0x470, 0x2ccb, 0xa61b, 0xe, 0xacf8, 0x6736, 0xd81f], rfl⟩,
       some 56, none, none, AddressFlag.table.maskOfAll [.autoConfigured, .secured]⟩]

end NetInterface.Sample
