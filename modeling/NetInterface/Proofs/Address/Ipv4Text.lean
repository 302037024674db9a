import NetInterface.Address.Ipv4
import NetInterface.Proofs.Text.Digits

/-!
Written IPv4 addresses read back.

The parts of a dotted quad are decimal numbers, which contain no dot and have no leading zeros.
-/

namespace NetInterface.Ipv4

open Text

theorem octet?_toDigits (octet : UInt8) : octet? (Nat.toDigits 10 octet.toNat) = some octet := by
  have fits : octet.toNat < 256 := octet.toNat_lt
  simp only [octet?, decimalNumber?_toDigits, Option.bind_eq_bind, Option.bind_some]
  rw [if_pos ⟨fits, toDigits_of_head_zero (by decide)⟩]
  simp

/-- Every address is read from its text. -/
theorem ofCharacters?_characters (address : Ipv4) :
    ofCharacters? address.characters = some address := by
  have undotted (octet : UInt8) : '.' ∉ Nat.toDigits 10 octet.toNat := by
    intro member
    cases Nat.isDigit_of_mem_toDigits (by decide) (by decide) member
  unfold ofCharacters? characters
  rw [mapM_splitOn_joinWith (by simp [octets]) undotted octet?_toDigits]
  rfl

theorem text_injective : Function.Injective text := fun _ _ written =>
  injective_of_reads ofCharacters?_characters (String.ofList_injective written)

end NetInterface.Ipv4
