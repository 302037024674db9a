import NetInterface.Proofs.Address.Ipv6Text
import NetInterface.Proofs.Address.Parts

/-!
Written addresses with a scope, and which of them read back.

The text shows one scope only, the name before the id, and what follows the `%` is taken for an id
if it consists of digits. An address reads back exactly if its scope is `Unambiguous`, and every
address that is read at all has such a scope.
-/

namespace NetInterface

open Text

namespace Ipv6

theorem not_mem_characters {character : Char} (other : isHexDigit character = false)
    (uncolon : character ≠ ':') (address : Ipv6) : character ∉ address.characters := by
  have ungrouped (words : List UInt16) : character ∉ groups words := by
    intro member
    rcases mem_joinWith member with isColon | ⟨field, inGroups, inField⟩
    · exact uncolon isColon
    · obtain ⟨word, -, rfl⟩ := List.mem_map.mp inGroups
      exact not_mem_leastHex other word.toNat inField
  unfold characters
  simp only
  split
  · simp [ungrouped, uncolon]
  · exact ungrouped address.words

end Ipv6

namespace ScopedIpv6

/-- Not both parts of the scope are set, and the name cannot be taken for anything but a name. -/
structure Unambiguous (ipv6 : ScopedIpv6) : Prop where
  single : ¬ (ipv6.scopeId.isSome ∧ ipv6.scopeName.isSome)
  name_without_mark : ∀ name, ipv6.scopeName = some name → '%' ∉ name.toList
  name_not_digits : ∀ name, ipv6.scopeName = some name →
    ∃ character ∈ name.toList, character.isDigit = false

namespace Unambiguous

theorem unscoped (address : Ipv6) : Unambiguous (unscoped address) :=
  ⟨by simp [ScopedIpv6.unscoped], nofun, nofun⟩

theorem withScopeId (address : Ipv6) (id : UInt32) :
    Unambiguous ((ScopedIpv6.unscoped address).withScopeId id) := by
  constructor <;> simp [ScopedIpv6.unscoped]

theorem withScopeName (address : Ipv6) {name : String} (unmarked : '%' ∉ name.toList)
    (other : ∃ character ∈ name.toList, character.isDigit = false) :
    Unambiguous ((ScopedIpv6.unscoped address).withScopeName name) := by
  have named (shown : String)
      (set : ((ScopedIpv6.unscoped address).withScopeName name).scopeName = some shown) :
      shown = name := by
    simp only [scopeName_withScopeName] at set
    split at set
    · cases set
    · exact (Option.some.inj set).symm
  constructor
  · simp [ScopedIpv6.unscoped]
  · intro shown set
    rw [named shown set]
    exact unmarked
  · intro shown set
    rw [named shown set]
    exact other

end Unambiguous

/-! ### Reading -/

theorem unambiguous_of_withScopeText? {address : Ipv6} {scope : List Char} {ipv6 : ScopedIpv6}
    (read : withScopeText? address scope = some ipv6) : Unambiguous ipv6 := by
  unfold withScopeText? at read
  split at read
  · cases read
  · rename_i proper
    obtain ⟨nonempty, unmarked⟩ := not_or.mp proper
    split at read
    · obtain ⟨id, -, rfl⟩ := Option.map_eq_some_iff.mp read
      exact .withScopeId address id
    · rename_i undecimal
      cases read
      have other := (decimalNumber?_eq_none_iff.mp undecimal).resolve_left nonempty
      apply Unambiguous.withScopeName <;> simpa

/-- Every address that is read has a scope that reads back. -/
theorem unambiguous_of_ofCharacters? {text : List Char} {ipv6 : ScopedIpv6}
    (read : ofCharacters? text = some ipv6) : Unambiguous ipv6 := by
  unfold ofCharacters? at read
  split at read
  · obtain ⟨address, -, rfl⟩ := Option.map_eq_some_iff.mp read
    exact .unscoped address
  · obtain ⟨address, -, given⟩ := Option.bind_eq_some_iff.mp read
    exact unambiguous_of_withScopeText? given

/-! ### Reading what is written -/

theorem ofCharacters?_append_scope (address : Ipv6) (scope : List Char) :
    ofCharacters? (address.characters ++ '%' :: scope) = withScopeText? address scope := by
  have unmarked : '%' ∉ address.characters := address.not_mem_characters rfl (by decide)
  simp [ofCharacters?, cut?_append_separator unmarked, Ipv6.ofCharacters?_characters]

theorem withScopeText?_toDigits (address : Ipv6) (id : UInt32) :
    withScopeText? address (Nat.toDigits 10 id.toNat) =
      some ((unscoped address).withScopeId id) := by
  have unmarked : '%' ∉ Nat.toDigits 10 id.toNat := by
    intro member
    cases Nat.isDigit_of_mem_toDigits (by decide) (by decide) member
  unfold withScopeText?
  rw [if_neg (not_or.mpr ⟨Nat.toDigits_ne_nil, unmarked⟩), decimalNumber?_toDigits]
  simp [word32?_toNat]

theorem withScopeText?_toList (address : Ipv6) {name : String} (nonempty : name ≠ "")
    (unmarked : '%' ∉ name.toList)
    (other : ∃ character ∈ name.toList, character.isDigit = false) :
    withScopeText? address name.toList = some ((unscoped address).withScopeName name) := by
  have undecimal : decimalNumber? name.toList = none := decimalNumber?_eq_none_iff.mpr (.inr other)
  unfold withScopeText?
  rw [if_neg (not_or.mpr ⟨by simpa using nonempty, unmarked⟩), undecimal]
  simp

theorem ofCharacters?_characters {ipv6 : ScopedIpv6} (unambiguous : Unambiguous ipv6) :
    ofCharacters? ipv6.characters = some ipv6 := by
  cases named : ipv6.scopeName with
  | some name =>
      have unnumbered : ipv6.scopeId = none := by
        simpa [named] using unambiguous.single
      have nonempty : name ≠ "" := by
        rintro rfl
        exact ipv6.scopeName_ne_empty named
      have written : ipv6.characters = ipv6.address.characters ++ '%' :: name.toList := by
        simp [characters, scopeText, named]
      rw [written, ofCharacters?_append_scope, withScopeText?_toList ipv6.address nonempty
        (unambiguous.name_without_mark name named) (unambiguous.name_not_digits name named)]
      congr 1
      ext1 <;> simp [unscoped, named, unnumbered, nonempty]
  | none =>
      cases numbered : ipv6.scopeId with
      | some id =>
          have nonzero : id ≠ 0 := by
            rintro rfl
            exact ipv6.scopeId_ne_zero numbered
          have written : ipv6.characters =
              ipv6.address.characters ++ '%' :: Nat.toDigits 10 id.toNat := by
            simp [characters, scopeText, named, numbered]
          rw [written, ofCharacters?_append_scope, withScopeText?_toDigits]
          congr 1
          ext1 <;> simp [unscoped, named, numbered, nonzero]
      | none =>
          have unmarked : '%' ∉ ipv6.address.characters :=
            ipv6.address.not_mem_characters rfl (by decide)
          have written : ipv6.characters = ipv6.address.characters := by
            simp [characters, scopeText, named, numbered]
          have uncut : cut? '%' ipv6.address.characters = none := cut?_eq_none_iff.mpr unmarked
          rw [written, ofCharacters?, uncut]
          simp only [Ipv6.ofCharacters?_characters, Option.map_some]
          congr 1
          ext1 <;> simp [unscoped, named, numbered]

theorem parse_eq_ok_iff {text : String} {ipv6 : ScopedIpv6} :
    parse text = .ok ipv6 ↔ ofCharacters? text.toList = some ipv6 := by
  unfold parse
  split <;> simp_all

theorem parse_text {ipv6 : ScopedIpv6} (unambiguous : Unambiguous ipv6) :
    parse ipv6.text = .ok ipv6 := by
  rw [parse_eq_ok_iff, text, String.toList_ofList]
  exact ofCharacters?_characters unambiguous

theorem unambiguous_of_parse {text : String} {ipv6 : ScopedIpv6} (read : parse text = .ok ipv6) :
    Unambiguous ipv6 :=
  unambiguous_of_ofCharacters? (parse_eq_ok_iff.mp read)

/-- An address, however its scope was set, reads back exactly if its scope is unambiguous, and so
does every address that is read from any text. -/
theorem parse_text_eq_ok_iff (ipv6 : ScopedIpv6) (text : String) :
    (parse ipv6.text = .ok ipv6 ↔ Unambiguous ipv6) ∧
      (∀ read, parse text = .ok read → Unambiguous read) ∧
      ((parse text).bind fun read => parse read.text) = parse text := by
  refine ⟨⟨unambiguous_of_parse, parse_text⟩, fun read => unambiguous_of_parse, ?_⟩
  cases result : parse text with
  | error error => rfl
  | ok read => exact parse_text (unambiguous_of_parse result)

/-- The text of a name of digits is taken for an id and that of an address with both parts loses the
id; an address that was read has neither fault. -/
theorem scopes_read_back :
    let linkLocal : Ipv6 := ⟨[0xfe80, 0, 0, 0, 0, 0, 0, 1], rfl⟩
    let digits := (unscoped linkLocal).withScopeName "12"
    let both := ((unscoped linkLocal).withScopeId 6).withScopeName "en5"
    let named := (unscoped linkLocal).withScopeName "en5"
    parse digits.text ≠ .ok digits ∧ parse both.text ≠ .ok both ∧
      parse "FE80:0::0.0.0.1%en5" = .ok named ∧ Unambiguous named ∧
      parse named.text = .ok named := by
  intro linkLocal digits both named
  have read : parse "FE80:0::0.0.0.1%en5" = .ok named := parse_eq_ok_iff.mpr (by decide)
  have unambiguous := (parse_text_eq_ok_iff named "FE80:0::0.0.0.1%en5").2.1 named read
  refine ⟨?_, ?_, read, unambiguous, (parse_text_eq_ok_iff named "").1.mpr unambiguous⟩
  · intro readBack
    have other := ((parse_text_eq_ok_iff digits "").1.mp readBack).name_not_digits "12" rfl
    simp at other
  · intro readBack
    exact ((parse_text_eq_ok_iff both "").1.mp readBack).single ⟨rfl, rfl⟩

/-! ### Addresses with one text -/

/-- The octets and the part of the scope that is shown are the same. -/
structure ShownAlike (first second : ScopedIpv6) : Prop where
  octets : first.address.octets = second.address.octets
  scope : first.scopeText = second.scopeText

theorem cut?_characters (ipv6 : ScopedIpv6) :
    cut? '%' ipv6.characters = ipv6.scopeText.map (ipv6.address.characters, ·) := by
  have unmarked : '%' ∉ ipv6.address.characters := ipv6.address.not_mem_characters rfl (by decide)
  unfold characters
  cases ipv6.scopeText with
  | none => exact cut?_eq_none_iff.mpr unmarked
  | some scope => exact cut?_append_separator unmarked scope

theorem text_eq_iff {first second : ScopedIpv6} :
    first.text = second.text ↔ first.ShownAlike second := by
  constructor
  · intro written
    have same : first.characters = second.characters := String.ofList_injective written
    have cuts := congrArg (cut? '%') same
    rw [cut?_characters, cut?_characters] at cuts
    unfold characters at same
    cases shown : first.scopeText <;> cases otherShown : second.scopeText <;>
      simp only [shown, otherShown, Option.map_some, Option.map_none] at cuts same
    · exact ⟨congrArg _ (Ipv6.characters_injective same), by rw [shown, otherShown]⟩
    · cases cuts
    · cases cuts
    · obtain ⟨addresses, scopes⟩ := Prod.mk.inj (Option.some.inj cuts)
      exact ⟨congrArg _ (Ipv6.characters_injective addresses), by rw [shown, otherShown, scopes]⟩
  · rintro ⟨octets, scope⟩
    rw [text, text, characters, characters, Ipv6.octets_injective octets, scope]

example :
    let linkLocal := unscoped ⟨[0xfe80, 0, 0, 0, 0, 0, 0, 1], rfl⟩
    (linkLocal.withScopeId 6).text = (linkLocal.withScopeName "6").text := by decide

end ScopedIpv6

end NetInterface
