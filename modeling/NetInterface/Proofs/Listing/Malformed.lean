import NetInterface.Application.Log
import NetInterface.Proofs.Listing.Faults

/-!
Malformed parts of a listing.

Whether a part is malformed is a matter of that part alone. `malformed_parts_isolated` says that each
malformed part is reported once, in the order of the listing and with the first of its faults, and
that the listing without these parts becomes the same interfaces without any report.
-/

namespace NetInterface

namespace ListedAddress

/-- A part of the address has the wrong length, or there is one too many. -/
def IsMalformed (family : Family) (listed : ListedAddress) : Prop :=
  (∃ octets ∈ listed.broadcast, octets.length ≠ family.octetCount) ∨
    (∃ octets ∈ listed.peer, octets.length ≠ family.octetCount) ∨
    listed.octets.length ≠ family.octetCount ∨
    (∃ length ∈ listed.prefixLength, family.maxPrefixLength < length) ∨
    (listed.broadcast.isSome ∧ listed.peer.isSome)

instance (family : Family) (listed : ListedAddress) : Decidable (listed.IsMalformed family) :=
  inferInstanceAs (Decidable (_ ∨ _ ∨ _ ∨ _ ∨ _))

theorem faults_eq_nil {family : Family} {text : String} {listed : ListedAddress} :
    listed.faults family text = [] ↔ ¬ listed.IsMalformed family := by
  have lengths (octets? : Option (List UInt8)) : octets?.bind (lengthFault? family) = none ↔
      ¬ ∃ octets ∈ octets?, octets.length ≠ family.octetCount := by
    cases octets? <;> simp [lengthFault?]
  have prefixes : listed.prefixLength.bind (prefixFault? family text) = none ↔
      ¬ ∃ length ∈ listed.prefixLength, family.maxPrefixLength < length := by
    cases listed.prefixLength <;> simp [prefixFault?]
  have length : lengthFault? family listed.octets = none ↔
      ¬ listed.octets.length ≠ family.octetCount := by
    simp [lengthFault?]
  have exclusion : listed.exclusionFault? text = none ↔
      ¬ (listed.broadcast.isSome ∧ listed.peer.isSome) := by
    simp [exclusionFault?]
  simp only [faults, List.filterMap_eq_nil_iff, List.forall_mem_cons, id, lengths, length, prefixes,
    exclusion, IsMalformed, not_or]
  simp

/-- The text of a listed address of the family; empty if it cannot be decoded. -/
def text (listing : Listing) (listed : ListedAddress) : Family → String
  | .v4 =>
      match Ipv4.ofOctets listed.octets with
      | .ok address => address.text
      | .error _ => ""
  | .v6 =>
      match ScopedIpv6.ofOctets listed.octets listed.scopeId with
      | .ok address => (nameScope listing address).text
      | .error _ => ""

theorem fault?_ipv4 (listing : Listing) (listed : ListedAddress) :
    fault? listed.ipv4 = (listed.faults .v4 (listed.text listing .v4)).head? := by
  apply fault?_assign Decodes.ipv4 Decodes.ipv4
  intro address decoded
  simp only [text, decoded]
  rfl

theorem fault?_ipv6 (listing : Listing) (listed : ListedAddress) :
    fault? (listed.ipv6 listing) = (listed.faults .v6 (listed.text listing .v6)).head? := by
  apply fault?_assign ((Decodes.ipv6 listed.scopeId).map (nameScope listing)) (Decodes.ipv6 none)
  intro address decoded
  cases unnamed : ScopedIpv6.ofOctets listed.octets listed.scopeId with
  | error error => simp [unnamed, Except.map] at decoded
  | ok zoned =>
      obtain rfl : nameScope listing zoned = address := by
        simpa [unnamed, Except.map] using decoded
      simp only [text, unnamed]
      rfl

end ListedAddress

/-- A part of a listed interface that is checked by itself. -/
inductive ListedPart where
  | hardwareAddress (octets : List UInt8)
  | guid (text : String)
  | address (listed : ListedAddress)

namespace ListedPart

/-- An address of no known family is never malformed. -/
def IsMalformed : ListedPart → Prop
  | hardwareAddress octets => ¬ (6 ≤ octets.length ∧ octets.length ≤ 8)
  | guid text => (Guid.parse text).isOk = false
  | address listed => ∃ family ∈ listed.family, listed.IsMalformed family

instance : DecidablePred IsMalformed
  | hardwareAddress _ => inferInstanceAs (Decidable (¬ _))
  | guid _ => inferInstanceAs (Decidable (_ = false))
  | address _ => inferInstanceAs (Decidable (∃ _ ∈ _, _))

/-- All that is wrong with the part, in the order of the checks. -/
def faults (listing : Listing) : ListedPart → List PartError
  | hardwareAddress octets =>
      if 6 ≤ octets.length ∧ octets.length ≤ 8 then []
      else [.hardwareAddress (.invalidLength octets.length)]
  | guid text => if (Guid.parse text).isOk then [] else [.guid ⟨text⟩]
  | address listed =>
      listed.family.toList.flatMap fun family =>
        (listed.faults family (listed.text listing family)).map (.address family)

theorem faults_eq_nil {listing : Listing} {part : ListedPart} :
    part.faults listing = [] ↔ ¬ part.IsMalformed := by
  cases part with
  | hardwareAddress octets => simp [faults, IsMalformed]
  | guid text => simp [faults, IsMalformed]
  | address listed =>
      cases family : listed.family <;>
        simp [faults, IsMalformed, family, ListedAddress.faults_eq_nil]

theorem isSome_head?_faults (listing : Listing) (part : ListedPart) :
    (part.faults listing).head?.isSome = decide part.IsMalformed := by
  rw [Bool.eq_iff_iff, List.isSome_head?]
  simp [faults_eq_nil]

end ListedPart

namespace ListedAddress

theorem error?_eq_head? (listing : Listing) (listed : ListedAddress) :
    listed.error? listing = ((ListedPart.address listed).faults listing).head? := by
  have ipv4 := listed.fault?_ipv4 listing
  have ipv6 := listed.fault?_ipv6 listing
  unfold error?
  cases family : listed.family with
  | none => simp [ListedPart.faults, family]
  | some each =>
      cases each with
      | v4 =>
          simp only [ListedPart.faults, family, Option.toList_some, List.flatMap_singleton,
            List.head?_map, ← ipv4]
          cases listed.ipv4 <;> rfl
      | v6 =>
          simp only [ListedPart.faults, family, Option.toList_some, List.flatMap_singleton,
            List.head?_map, ← ipv6]
          cases listed.ipv6 listing <;> rfl

end ListedAddress

theorem Guid.error_of_parse {text : String} {error : GuidError}
    (failed : Guid.parse text = .error error) : error = ⟨text⟩ := by
  unfold Guid.parse at failed
  split at failed
  · cases failed
  · exact (Except.error.inj failed).symm

section

variable {Part Result : Type} {keep : Part → Bool} {convert : Part → Option Result}

theorem toList_bind_eq_filterMap (convert : Part → Option Result) (part? : Option Part) :
    (part?.bind convert).toList = part?.toList.filterMap convert := by
  cases part? with
  | none => rfl
  | some part => cases converted : convert part <;> simp [converted]

theorem bind_filter_of_lost (lost : ∀ part, keep part = false → convert part = none)
    (part? : Option Part) : (part?.filter keep).bind convert = part?.bind convert := by
  cases part? with
  | none => rfl
  | some part =>
      cases kept : keep part with
      | true => rw [Option.filter_some_pos kept]
      | false => rw [Option.filter_some_neg kept, Option.bind_some, lost part kept, Option.bind_none]

theorem filterMap_filter_of_lost (lost : ∀ part, keep part = false → convert part = none)
    (parts : List Part) : (parts.filter keep).filterMap convert = parts.filterMap convert := by
  rw [List.filterMap_filter]
  congr 1
  funext part
  cases kept : keep part with
  | true => rfl
  | false => exact (lost part kept).symm

end

namespace ListedAddress

/-- The address is of the family and no part of it is malformed. -/
def IsSound (family : Family) (listed : ListedAddress) : Prop :=
  listed.family = some family ∧ ¬ listed.IsMalformed family

instance (family : Family) : DecidablePred (IsSound family) :=
  fun _ => inferInstanceAs (Decidable (_ ∧ _))

theorem isSome_toOption_of_fault? {ε α : Type} {result : Except ε α} {faults : List ε}
    (first : fault? result = faults.head?) : result.toOption.isSome = true ↔ faults = [] := by
  rw [← List.head?_eq_none_iff, ← first]
  cases result <;> simp [fault?, Except.toOption]

theorem isSome_ipv4?_iff {listed : ListedAddress} :
    listed.ipv4?.isSome = true ↔ listed.IsSound .v4 := by
  have sound := isSome_toOption_of_fault? (listed.fault?_ipv4 [])
  rw [faults_eq_nil] at sound
  by_cases known : listed.family = some .v4 <;> simp [ipv4?, IsSound, known, sound]

theorem isSome_ipv6?_iff {listing : Listing} {listed : ListedAddress} :
    (listed.ipv6? listing).isSome = true ↔ listed.IsSound .v6 := by
  have sound := isSome_toOption_of_fault? (listed.fault?_ipv6 listing)
  rw [faults_eq_nil] at sound
  by_cases known : listed.family = some .v6 <;> simp [ipv6?, IsSound, known, sound]

/-- A malformed address becomes an address of neither family. -/
theorem lost_of_isMalformed {listed : ListedAddress} (listing : Listing)
    (malformed : (ListedPart.address listed).IsMalformed) :
    listed.ipv4? = none ∧ listed.ipv6? listing = none := by
  obtain ⟨family, known, malformed⟩ := malformed
  have unsound (other : Family) : ¬ listed.IsSound other := by
    rintro ⟨same, sound⟩
    obtain rfl : family = other := Option.some.inj (known.symm.trans same)
    exact sound malformed
  refine ⟨?_, ?_⟩
  · exact Option.not_isSome_iff_eq_none.mp fun some => unsound .v4 (isSome_ipv4?_iff.mp some)
  · exact Option.not_isSome_iff_eq_none.mp fun some => unsound .v6 (isSome_ipv6?_iff.mp some)

end ListedAddress

namespace ListedInterface

/-- The parts of an interface that are checked, in this order. -/
def parts (listed : ListedInterface) : List ListedPart :=
  listed.hardwareAddress.toList.map .hardwareAddress ++ listed.guid.toList.map .guid ++
    listed.addresses.map .address

/-- The interface without its malformed parts. -/
def pruned (listed : ListedInterface) : ListedInterface :=
  { listed with
    hardwareAddress := listed.hardwareAddress.filter fun octets =>
      ¬ (ListedPart.hardwareAddress octets).IsMalformed
    guid := listed.guid.filter fun text => ¬ (ListedPart.guid text).IsMalformed
    addresses := listed.addresses.filter fun address => ¬ (ListedPart.address address).IsMalformed }

theorem parts_pruned (listed : ListedInterface) :
    listed.pruned.parts = listed.parts.filter fun part => ¬ part.IsMalformed := by
  simp [parts, pruned, List.filter_append, List.filter_map, Function.comp_def, Option.toList_filter]

theorem hardwareAddressError?_eq (listing : Listing) (listed : ListedInterface) :
    listed.hardwareAddressError? = listed.hardwareAddress.bind fun octets =>
      ((ListedPart.hardwareAddress octets).faults listing).head? := by
  unfold hardwareAddressError?
  cases listed.hardwareAddress with
  | none => rfl
  | some octets =>
      by_cases fits : 6 ≤ octets.length ∧ octets.length ≤ 8 <;>
        simp [ListedPart.faults, HardwareAddress.ofOctets, fits]

theorem guidError?_eq (listing : Listing) (listed : ListedInterface) :
    listed.guidError? = listed.guid.bind fun text =>
      ((ListedPart.guid text).faults listing).head? := by
  unfold guidError?
  cases listed.guid with
  | none => rfl
  | some text =>
      cases read : Guid.parse text with
      | ok guid => simp [ListedPart.faults, read, Except.isOk, Except.toBool]
      | error error =>
          obtain rfl : error = ⟨text⟩ := Guid.error_of_parse read
          simp [ListedPart.faults, read, Except.isOk, Except.toBool]

/-- The errors are the first faults of the parts. -/
theorem errors_eq_filterMap (listing : Listing) (listed : ListedInterface) :
    listed.errors listing = listed.parts.filterMap fun part => (part.faults listing).head? := by
  have addresses : listed.addresses.filterMap (·.error? listing) =
      listed.addresses.filterMap fun address =>
        ((ListedPart.address address).faults listing).head? := by
    congr 1
    funext address
    exact address.error?_eq_head? listing
  rw [errors, listed.hardwareAddressError?_eq listing, listed.guidError?_eq listing, addresses,
    toList_bind_eq_filterMap, toList_bind_eq_filterMap]
  simp only [parts, List.filterMap_append, List.filterMap_map]
  rfl

/-- A malformed part comes to nothing, so leaving it out changes nothing. -/
theorem interface_pruned {listing other : Listing} (listed : ListedInterface)
    (scopes : other.scopeName? = listing.scopeName?) :
    listed.pruned.interface other = listed.interface listing := by
  have guid (text : String) (malformed : (ListedPart.guid text).IsMalformed) :
      (Guid.parse text).toOption = none := by
    simp only [ListedPart.IsMalformed] at malformed
    cases read : Guid.parse text <;>
      simp_all [Except.isOk, Except.toBool, Except.toOption]
  have hardware (octets : List UInt8) (malformed : (ListedPart.hardwareAddress octets).IsMalformed) :
      (HardwareAddress.ofOctets octets).toOption = none := by
    simp only [ListedPart.IsMalformed] at malformed
    rw [HardwareAddress.ofOctets, dif_neg malformed]
    rfl
  have ipv6 : ListedAddress.ipv6? other = ListedAddress.ipv6? listing := by
    have named : ListedAddress.nameScope other = ListedAddress.nameScope listing := by
      funext address
      rw [ListedAddress.nameScope, scopes, ListedAddress.nameScope]
    funext address
    simp only [ListedAddress.ipv6?, ListedAddress.ipv6, named]
  simp only [interface, pruned, ipv6]
  rw [bind_filter_of_lost (by simpa using guid), bind_filter_of_lost (by simpa using hardware)]
  rw [filterMap_filter_of_lost, filterMap_filter_of_lost]
  · intro address malformed
    exact (ListedAddress.lost_of_isMalformed listing (by simpa using malformed)).2
  · intro address malformed
    exact (ListedAddress.lost_of_isMalformed listing (by simpa using malformed)).1

end ListedInterface

namespace Listing

/-- The listing without all malformed parts. -/
def pruned (listing : Listing) : Listing :=
  listing.map ListedInterface.pruned

theorem scopeName?_pruned (listing : Listing) : listing.pruned.scopeName? = listing.scopeName? := by
  funext index
  -- Scopes are looked up by index and named by name, and both stay.
  unfold scopeName? pruned
  rw [List.find?_map, Option.map_map]
  rfl

theorem interfaces_pruned (listing : Listing) :
    listing.pruned.interfaces = listing.interfaces := by
  have each (listed : ListedInterface) :
      listed.pruned.interface listing.pruned = listed.interface listing :=
    listed.interface_pruned listing.scopeName?_pruned
  rw [interfaces, pruned, List.map_map, interfaces]
  exact List.map_congr_left fun listed _ => each listed

/-- The malformed parts with the interfaces that they are parts of, in the order of the listing. -/
def malformed (listing : Listing) : List (ListedInterface × ListedPart) :=
  listing.flatMap fun listed => (listed.parts.filter (·.IsMalformed)).map (listed, ·)

theorem malformed_pruned (listing : Listing) : listing.pruned.malformed = [] := by
  rw [malformed, pruned, List.flatMap_map, List.flatMap_eq_nil_iff]
  intro listed _
  simp [ListedInterface.parts_pruned, List.filter_filter]

/-- The reports are on the malformed parts, one on each, and give the first fault of the part. -/
theorem skipped_eq_malformed (listing : Listing) :
    listing.skipped.map (fun part => (part.interface, some part.error)) =
      listing.malformed.map fun (listed, part) => (listed.name, (part.faults listing).head?) := by
  rw [skipped, malformed, List.map_flatMap, List.map_flatMap]
  congr 1
  funext listed
  have errors : (listed.errors listing).map some =
      (listed.parts.filter (·.IsMalformed)).map fun part => (part.faults listing).head? := by
    -- A part has a first fault exactly if it is malformed.
    rw [listed.errors_eq_filterMap, List.map_filterMap_some_eq_filter_map_isSome, List.filter_map]
    congr 2
    funext part
    exact part.isSome_head?_faults listing
  calc (listed.skipped listing).map (fun part => (part.interface, some part.error))
      = ((listed.errors listing).map some).map (listed.name, ·) := by
        simp [ListedInterface.skipped]
    _ = _ := by simp [errors]

theorem skipped_pruned (listing : Listing) : listing.pruned.skipped = [] := by
  have reports := listing.pruned.skipped_eq_malformed
  rw [malformed_pruned] at reports
  simpa using reports

/-- Of what is logged while a browser is populated only the reports are warnings. -/
theorem warnings_populating (listing : Listing) (interfaces : Nat) :
    ((Browser.populating listing interfaces).flatMap Event.logLines).filter (·.level = .warn) =
      listing.skipped.map fun part => ⟨.warn, part.error.notice, part.fields⟩ := by
  have reports : (listing.skipped.map Event.skipped).flatMap Event.logLines =
      listing.skipped.map fun part => ⟨.warn, part.error.notice, part.fields⟩ := by
    rw [List.flatMap_map, List.map_eq_flatMap]
    rfl
  have warned (report : LogLine)
      (reported : report ∈ listing.skipped.map fun part =>
        (⟨.warn, part.error.notice, part.fields⟩ : LogLine)) : decide (report.level = .warn) := by
    obtain ⟨part, -, rfl⟩ := List.mem_map.mp reported
    rfl
  calc ((Browser.populating listing interfaces).flatMap Event.logLines).filter (·.level = .warn)
      = ((listing.skipped.map Event.skipped).flatMap Event.logLines).filter (·.level = .warn) := by
        simp [Browser.populating, Event.logLines]
    _ = _ := by rw [reports, List.filter_eq_self.mpr warned]

/-- There is one warning for each malformed part and no other. It names the interface and the first
fault of the part. Without the malformed parts, which leaves all other parts as they are, the
listing becomes the same interfaces and there is no warning. -/
theorem malformed_parts_isolated (listing : Listing) :
    (∀ interfaces,
      ((Browser.populating listing interfaces).flatMap Event.logLines).filter (·.level = .warn) =
        listing.skipped.map fun part => ⟨.warn, part.error.notice, part.fields⟩) ∧
      (listing.skipped.map fun part => (part.interface, some part.error)) =
        listing.malformed.map (fun (listed, part) => (listed.name, (part.faults listing).head?)) ∧
      (∀ listed : ListedInterface,
        listed.pruned.parts = listed.parts.filter fun part => ¬ part.IsMalformed) ∧
      listing.pruned.interfaces = listing.interfaces ∧ listing.pruned.skipped = [] :=
  ⟨listing.warnings_populating, listing.skipped_eq_malformed, ListedInterface.parts_pruned,
    listing.interfaces_pruned, listing.skipped_pruned⟩

end Listing

end NetInterface
