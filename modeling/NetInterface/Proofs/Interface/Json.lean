import Mathlib.Data.List.Forall2
import NetInterface.Proofs.Address.Ipv4Text
import NetInterface.Proofs.Address.ScopedText
import NetInterface.Proofs.Guid
import NetInterface.Proofs.HardwareAddress
import NetInterface.Proofs.Json.Layouts
import NetInterface.Snapshot

/-!
What the documents of interfaces tell apart.

A document shows every part of an interface as it is, but of the scope of an IPv6 address only the
name or, without one, the id in decimal. Interfaces are `ShownAlike` if they agree in what is shown,
and exactly then their documents are written alike.
-/

namespace NetInterface

theorem optionRel_eq_iff {α : Type} {first second : Option α} :
    Option.Rel Eq first second ↔ first = second := by
  constructor
  · rintro (rfl | _) <;> rfl
  · rintro rfl
    cases first with
    | none => exact .none
    | some value => exact .some rfl

namespace Json

variable {α : Type} {encode : α → Json} {same : α → α → Prop}

theorem ofOption_eq_iff (present : ∀ value, encode value ≠ .null)
    (encoded : ∀ first second, encode first = encode second ↔ same first second)
    {first second : Option α} :
    ofOption encode first = ofOption encode second ↔ Option.Rel same first second := by
  cases first with
  | none =>
      cases second with
      | none => exact ⟨fun _ => .none, fun _ => rfl⟩
      | some value => exact ⟨fun absent => absurd absent.symm (present value), nofun⟩
  | some value =>
      cases second with
      | none => exact ⟨fun absent => absurd absent (present value), nofun⟩
      | some other =>
          refine (encoded value other).trans ⟨.some, ?_⟩
          rintro ⟨same⟩
          exact same

theorem ofOption_inj (present : ∀ value, encode value ≠ .null)
    (injective : Function.Injective encode) {first second : Option α} :
    ofOption encode first = ofOption encode second ↔ first = second :=
  (ofOption_eq_iff present fun _ _ => injective.eq_iff).trans optionRel_eq_iff

theorem array_map_eq_iff
    (encoded : ∀ first second, encode first = encode second ↔ same first second)
    {first second : List α} :
    array (first.map encode) = array (second.map encode) ↔ List.Forall₂ same first second := by
  rw [array.injEq, ← List.forall₂_eq_eq_eq, List.forall₂_map_left_iff, List.forall₂_map_right_iff]
  simp only [encoded]

theorem number_injective : Function.Injective number := fun _ _ same => number.inj same

theorem string_injective : Function.Injective string := fun _ _ same => string.inj same

end Json

namespace AssignedAddress

variable {α : Type}

/-- All parts are the same, up to what counts as the same address. -/
structure Alike (same : α → α → Prop) (first second : AssignedAddress α) : Prop where
  address : same first.address second.address
  prefixLength : first.prefixLength = second.prefixLength
  broadcast : Option.Rel same first.broadcast second.broadcast
  peer : Option.Rel same first.peer second.peer
  flags : first.flags = second.flags

theorem alike_eq_iff {first second : AssignedAddress α} :
    first.Alike Eq second ↔ first = second := by
  constructor
  · rintro ⟨address, prefixLength, broadcast, peer, flags⟩
    rw [optionRel_eq_iff] at broadcast peer
    cases first
    cases second
    simp_all
  · rintro rfl
    exact ⟨rfl, rfl, optionRel_eq_iff.mpr rfl, optionRel_eq_iff.mpr rfl, rfl⟩

theorem json_eq_iff [Address α] {same : α → α → Prop}
    (shown : ∀ first second : α, Address.text first = Address.text second ↔ same first second)
    (first second : AssignedAddress α) :
    first.json = second.json ↔ first.Alike same second := by
  have encoded (first second : α) :
      (Json.string ∘ Address.text) first = (Json.string ∘ Address.text) second ↔
        same first second :=
    Json.string_injective.eq_iff.trans (shown first second)
  constructor
  · intro written
    simp only [json, Json.object.injEq, List.cons.injEq, Prod.mk.injEq, true_and] at written
    obtain ⟨address, prefixLength, broadcast, peer, flags, -⟩ := written
    exact
      { address := (encoded _ _).mp address
        prefixLength := (Json.ofOption_inj nofun Json.number_injective).mp prefixLength
        broadcast := (Json.ofOption_eq_iff nofun encoded).mp broadcast
        peer := (Json.ofOption_eq_iff nofun encoded).mp peer
        flags := UInt32.toNat_inj.mp (Json.number.inj flags) }
  · rintro ⟨address, prefixLength, broadcast, peer, flags⟩
    rw [json, json, (shown _ _).mpr address, prefixLength,
      (Json.ofOption_eq_iff nofun encoded).mpr broadcast,
      (Json.ofOption_eq_iff nofun encoded).mpr peer, flags]

end AssignedAddress

namespace Interface

/-- The interfaces are the same but for what is not shown of the scopes of their addresses. -/
structure ShownAlike (first second : Interface) : Prop where
  index : first.index = second.index
  name : first.name = second.name
  guid : first.guid = second.guid
  flags : first.flags = second.flags
  mtu : first.mtu = second.mtu
  hardwareAddress : first.hardwareAddress = second.hardwareAddress
  ipv4 : first.ipv4 = second.ipv4
  ipv6 : List.Forall₂ (AssignedAddress.Alike ScopedIpv6.ShownAlike) first.ipv6 second.ipv6

theorem json_eq_iff (first second : Interface) :
    first.json = second.json ↔ first.ShownAlike second := by
  have ipv4 (first second : AssignedAddress Ipv4) : first.json = second.json ↔ first = second :=
    (AssignedAddress.json_eq_iff (fun _ _ => Ipv4.text_injective.eq_iff) first second).trans
      AssignedAddress.alike_eq_iff
  have ipv6 (first second : AssignedAddress ScopedIpv6) :
      first.json = second.json ↔ first.Alike ScopedIpv6.ShownAlike second :=
    AssignedAddress.json_eq_iff (fun _ _ => ScopedIpv6.text_eq_iff) first second
  constructor
  · intro written
    simp only [json, Json.object.injEq, List.cons.injEq, Prod.mk.injEq, true_and] at written
    obtain ⟨index, name, guid, flags, -, mtu, hardwareAddress, ipv4s, ipv6s, -⟩ := written
    exact
      { index := UInt32.toNat_inj.mp (Json.number.inj index)
        name := Json.string.inj name
        guid := (Json.ofOption_inj nofun
          (Json.string_injective.comp Guid.text_injective)).mp guid
        flags := UInt32.toNat_inj.mp (Json.number.inj flags)
        mtu := (Json.ofOption_inj nofun
          (Json.number_injective.comp fun _ _ => UInt64.toNat_inj.mp)).mp mtu
        hardwareAddress := (Json.ofOption_inj nofun
          (Json.string_injective.comp HardwareAddress.text_injective)).mp hardwareAddress
        ipv4 := List.forall₂_eq_eq_eq ▸ (Json.array_map_eq_iff ipv4).mp ipv4s
        ipv6 := (Json.array_map_eq_iff ipv6).mp ipv6s }
  · rintro ⟨index, name, guid, flags, mtu, hardwareAddress, ipv4s, ipv6s⟩
    have arrays := (Json.array_map_eq_iff ipv6).mpr ipv6s
    rw [json, json, index, name, guid, flags, mtu, hardwareAddress, ipv4s, arrays]

end Interface

/-- The compact texts of two interfaces, and those of two snapshots, are the same exactly if nothing
that is shown differs. -/
theorem compact_json_eq_iff :
    (∀ first second : Interface,
        first.json.compact = second.json.compact ↔ first.ShownAlike second) ∧
      ∀ first second : Snapshot,
        first.json.compact = second.json.compact ↔
          List.Forall₂ Interface.ShownAlike first.toList second.toList := by
  constructor
  · intro first second
    rw [Json.compact_injective.eq_iff, Interface.json_eq_iff]
  · intro first second
    rw [Json.compact_injective.eq_iff, Snapshot.json, Snapshot.json,
      Json.array_map_eq_iff Interface.json_eq_iff]

end NetInterface
