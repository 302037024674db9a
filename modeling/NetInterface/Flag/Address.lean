import NetInterface.Flag.Table

/-!
The flags of an address that is assigned to an interface.
-/

namespace NetInterface

inductive AddressFlag where
  | autoConfigured
  | deprecated
  | secured
  | temporary
  | anycast
  | detached
  | duplicated
  | dynamic
  | optimistic
  | tentative
  | noDad
deriving DecidableEq, Repr

namespace AddressFlag

def table : FlagTable AddressFlag where
  rows :=
    [⟨.autoConfigured, "autoconf", "auto-configured", "autoconf", some 0x40⟩,
     ⟨.deprecated, "deprecated", "deprecated", "deprecated", some 0x10⟩,
     ⟨.secured, "secured", "secured", "secured", some 0x400⟩,
     ⟨.temporary, "temporary", "temporary", "temporary", some 0x80⟩,
     ⟨.anycast, "anycast", "anycast", "anycast", some 0x1⟩,
     ⟨.detached, "detached", "detached", "detached", some 0x8⟩,
     ⟨.duplicated, "duplicated", "duplicated", "duplicated", some 0x4⟩,
     ⟨.dynamic, "dynamic", "dynamic", "dynamic", some 0x100⟩,
     ⟨.optimistic, "optimistic", "optimistic", "optimistic", some 0x200⟩,
     ⟨.tentative, "tentative", "tentative", "tentative", some 0x2⟩,
     ⟨.noDad, "nodad", "no-dad", "nodad", some 0x20⟩]

end AddressFlag

end NetInterface
