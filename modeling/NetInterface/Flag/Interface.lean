import NetInterface.Flag.Table

/-!
The flags of an interface and their bits on Linux.
-/

namespace NetInterface

inductive InterfaceFlag where
  | up
  | running
  | loopback
  | pointToPoint
  | broadcast
  | multicast
  | debug
  | promiscuous
  | allMulticast
  | noArp
  | noTrailers
  | transmitting
  | simplex
  | master
  | slave
deriving DecidableEq, Repr

namespace InterfaceFlag

def table : FlagTable InterfaceFlag where
  rows :=
    [⟨.up, "up", "up", "UP", some 0x1⟩,
     ⟨.running, "running", "running", "RUNNING", some 0x40⟩,
     ⟨.loopback, "loopback", "loopback", "LOOPBACK", some 0x8⟩,
     ⟨.pointToPoint, "pointopoint", "point-to-point", "POINTOPOINT", some 0x10⟩,
     ⟨.broadcast, "broadcast", "broadcast", "BROADCAST", some 0x2⟩,
     ⟨.multicast, "multicast", "multicast", "MULTICAST", some 0x1000⟩,
     ⟨.debug, "debug", "debug", "DEBUG", some 0x4⟩,
     ⟨.promiscuous, "promisc", "promiscuous", "PROMISC", some 0x100⟩,
     ⟨.allMulticast, "allmulti", "all-multicast", "ALLMULTI", some 0x200⟩,
     ⟨.noArp, "noarp", "no-arp", "NOARP", some 0x80⟩,
     ⟨.noTrailers, "notrailers", "no-trailers", "NOTRAILERS", some 0x20⟩,
     ⟨.transmitting, "oactive", "tx-in-progress", "OACTIVE", none⟩,
     ⟨.simplex, "simplex", "simplex", "SIMPLEX", none⟩,
     ⟨.master, "master", "master", "MASTER", some 0x400⟩,
     ⟨.slave, "slave", "slave", "SLAVE", some 0x800⟩]

end InterfaceFlag

end NetInterface
