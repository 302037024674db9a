import NetInterface.Listing.Conversion
import NetInterface.Proofs.Address.Parts

/-!
What can be wrong with a listed address.

`faults` gives all that is wrong with an address in the order of the checks, from the lengths of its
parts and from which of them there are. The conversion of an address fails with the first of its
faults and succeeds if there is none (`fault?_assign`).
-/

namespace NetInterface

namespace ListedAddress

def lengthFault? (family : Family) (octets : List UInt8) : Option ListedAddressError :=
  if octets.length = family.octetCount then none
  else some (.address (.invalidLength family octets.length))

def prefixFault? (family : Family) (text : String) (length : Nat) : Option ListedAddressError :=
  if length ≤ family.maxPrefixLength then none
  else some (.assignment (.prefixTooLong length text family))

def exclusionFault? (text : String) (listed : ListedAddress) : Option ListedAddressError :=
  if listed.broadcast.isSome ∧ listed.peer.isSome then
    some (.assignment (.broadcastAndPeer text))
  else
    none

/-- All that is wrong with an address of the family, in the order of the checks. The last two faults
show the text of the address. -/
def faults (family : Family) (text : String) (listed : ListedAddress) :
    List ListedAddressError :=
  [listed.broadcast.bind (lengthFault? family), listed.peer.bind (lengthFault? family),
    lengthFault? family listed.octets, listed.prefixLength.bind (prefixFault? family text),
    listed.exclusionFault? text].filterMap id

/-- Why a conversion failed, if it did. -/
def fault? {ε α : Type} : Except ε α → Option ε
  | .error error => some error
  | .ok _ => none

theorem fault?_mapError {ε δ α : Type} (result : Except ε α) (change : ε → δ) :
    fault? (result.mapError change) = (fault? result).map change := by
  cases result <;> rfl

/-- The decoder takes as many octets as an address of the family has and refuses any others. -/
structure Decodes {α : Type} (family : Family) (decode : List UInt8 → Except AddressError α) :
    Prop where
  ok : ∀ octets : List UInt8, octets.length = family.octetCount →
    ∃ address, decode octets = .ok address
  error : ∀ octets : List UInt8, octets.length ≠ family.octetCount →
    decode octets = .error (.invalidLength family octets.length)

namespace Decodes

variable {α : Type} {family : Family} {decode : List UInt8 → Except AddressError α}

theorem ipv4 : Decodes .v4 Ipv4.ofOctets :=
  ⟨fun _ => Ipv4.ofOctets_of_length, fun _ => Ipv4.ofOctets_of_length_ne⟩

theorem map {β : Type} (decodes : Decodes family decode) (change : α → β) :
    Decodes family fun octets => (decode octets).map change := by
  constructor
  · intro octets complete
    obtain ⟨address, decoded⟩ := decodes.ok octets complete
    exact ⟨change address, by rw [decoded]; rfl⟩
  · intro octets other
    rw [decodes.error octets other]
    rfl

theorem ipv6 (scopeId : Option UInt32) :
    Decodes .v6 fun octets => ScopedIpv6.ofOctets octets scopeId := by
  have unscoped : Decodes .v6 Ipv6.ofOctets :=
    ⟨fun _ => Ipv6.ofOctets_of_length, fun _ => Ipv6.ofOctets_of_length_ne⟩
  exact unscoped.map _

/-- The octets have a fault that decoding fails with, or none and are decoded. -/
theorem decode_cases (decodes : Decodes family decode) (octets : List UInt8) :
    (∃ error, lengthFault? family octets = some (.address error) ∧
      decode octets = .error error) ∨
    lengthFault? family octets = none ∧ ∃ address, decode octets = .ok address := by
  by_cases complete : octets.length = family.octetCount
  · exact .inr ⟨by simp [lengthFault?, complete], decodes.ok octets complete⟩
  · exact .inl ⟨_, by simp [lengthFault?, complete], decodes.error octets complete⟩

theorem mapM_cases (decodes : Decodes family decode) (octets? : Option (List UInt8)) :
    (∃ error, octets?.bind (lengthFault? family) = some (.address error) ∧
      octets?.mapM decode = .error error) ∨
    octets?.bind (lengthFault? family) = none ∧ ∃ address? : Option α,
      octets?.mapM decode = .ok address? ∧ address?.isSome = octets?.isSome := by
  cases octets? with
  | none => exact .inr ⟨rfl, none, rfl, rfl⟩
  | some octets =>
      rcases decodes.decode_cases octets with ⟨error, faulty, failed⟩ | ⟨sound, address, decoded⟩
      · refine .inl ⟨error, faulty, ?_⟩
        rw [Option.mapM_some, failed]
        rfl
      · refine .inr ⟨sound, some address, ?_, rfl⟩
        rw [Option.mapM_some, decoded]
        rfl

end Decodes

variable {α : Type} [Address α]

/-- Joining the parts of an address fails with the first fault that decoding leaves. -/
theorem fault?_ofParts (address : α) (listed : ListedAddress) {broadcast peer : Option α}
    (broadcasting : broadcast.isSome = listed.broadcast.isSome)
    (peering : peer.isSome = listed.peer.isSome) :
    fault? ((AssignedAddress.ofParts address listed.prefixLength broadcast peer
      listed.flags).mapError .assignment) =
      ([listed.prefixLength.bind (prefixFault? (Address.family α) (Address.text address)),
        listed.exclusionFault? (Address.text address)].filterMap id).head? := by
  rw [fault?_mapError]
  by_cases fits : ∀ length, listed.prefixLength = some length →
      length ≤ (Address.family α).maxPrefixLength
  · have sound : listed.prefixLength.bind
        (prefixFault? (Address.family α) (Address.text address)) = none := by
      cases prefixed : listed.prefixLength with
      | none => rfl
      | some length => simp [prefixFault?, fits length prefixed]
    by_cases both : broadcast.isSome ∧ peer.isSome
    · obtain ⟨broadcast, rfl⟩ := Option.isSome_iff_exists.mp both.1
      obtain ⟨peer, rfl⟩ := Option.isSome_iff_exists.mp both.2
      rw [AssignedAddress.ofParts_of_both address broadcast peer listed.flags fits, sound]
      simp [exclusionFault?, ← broadcasting, ← peering, fault?]
    · have exclusive : broadcast = none ∨ peer = none := by
        cases broadcast <;> cases peer <;> simp_all
      rw [AssignedAddress.ofParts_eq_ok address listed.flags fits exclusive, sound]
      rw [broadcasting, peering] at both
      simp [exclusionFault?, both, fault?]
  · obtain ⟨length, prefixed, long⟩ : ∃ length, listed.prefixLength = some length ∧
        (Address.family α).maxPrefixLength < length := by
      simpa using fits
    rw [prefixed, AssignedAddress.ofParts_of_prefixTooLong address broadcast peer listed.flags long]
    simp [prefixFault?, Nat.not_le.mpr long, fault?]

/-- An address is left out for the first of its faults, and not without one. -/
theorem fault?_assign {decode decodeOther : List UInt8 → Except AddressError α} {text : String}
    (decodes : Decodes (Address.family α) decode)
    (decodesOther : Decodes (Address.family α) decodeOther) (listed : ListedAddress)
    (shown : ∀ address, decode listed.octets = .ok address → Address.text address = text) :
    fault? (listed.assign decode decodeOther) =
      (listed.faults (Address.family α) text).head? := by
  unfold assign faults
  rcases decodesOther.mapM_cases listed.broadcast with
    ⟨error, faulty, failed⟩ | ⟨broadcastSound, broadcast, broadcastDecoded, broadcasting⟩
  · rw [failed, faulty]
    rfl
  rcases decodesOther.mapM_cases listed.peer with
    ⟨error, faulty, failed⟩ | ⟨peerSound, peer, peerDecoded, peering⟩
  · rw [broadcastDecoded, broadcastSound, failed, faulty]
    rfl
  rcases decodes.decode_cases listed.octets with
    ⟨error, faulty, failed⟩ | ⟨sound, address, decoded⟩
  · rw [broadcastDecoded, broadcastSound, peerDecoded, peerSound, failed, faulty]
    rfl
  · rw [broadcastDecoded, broadcastSound, peerDecoded, peerSound, decoded, sound,
      ← shown address decoded]
    exact fault?_ofParts address listed broadcasting peering

end ListedAddress

end NetInterface
