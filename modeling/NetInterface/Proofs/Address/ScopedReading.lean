import NetInterface.Proofs.Address.ScopedText

/-!
Which texts are read as an IPv6 address with a scope.

`Denotes` says it without reading from left to right: the text of an address stands alone, or before
a `%` and a scope, which is a number that fits a word or any other name without a second `%`. The
texts of addresses themselves have no `%`, so a text can be taken apart in one way only, and every
other text is refused as a whole (`parse_denotes`).
-/

namespace NetInterface

open Text

namespace Text

variable {α : Type}

/-- If all items are read, each of them is. -/
theorem exists_of_mapM_eq_some {β : Type} {read : α → Option β} {items : List α} {results : List β}
    (all : items.mapM read = some results) {item : α} (member : item ∈ items) :
    ∃ result, read item = some result := by
  induction items generalizing results with
  | nil => cases member
  | cons first others inductionHypothesis =>
      rw [List.mapM_cons] at all
      obtain ⟨result, readFirst, rest⟩ := Option.bind_eq_some_iff.mp all
      obtain ⟨further, readOthers, -⟩ := Option.bind_eq_some_iff.mp rest
      rcases List.mem_cons.mp member with rfl | inOthers
      · exact ⟨result, readFirst⟩
      · exact inductionHypothesis readOthers inOthers

end Text

/-! ### Characters of addresses -/

/-- The characters that texts of addresses consist of. -/
def IsAddressCharacter (character : Char) : Prop :=
  isHexDigit character = true ∨ character = '.' ∨ character = ':'

theorem Ipv4.isAddressCharacter_of_ofCharacters? {text : List Char} {address : Ipv4}
    (read : ofCharacters? text = some address) {character : Char} (member : character ∈ text) :
    IsAddressCharacter character := by
  obtain ⟨octets, parts, -⟩ := Option.bind_eq_some_iff.mp read
  rcases mem_splitOn member with dot | ⟨field, inText, inField⟩
  · exact .inr (.inl dot)
  · obtain ⟨octet, readField⟩ := exists_of_mapM_eq_some parts inText
    obtain ⟨value, decimal, -⟩ := Option.bind_eq_some_iff.mp readField
    exact .inl (isHexDigit_of_isDigit (isDigit_of_decimalNumber? decimal inField))

namespace Ipv6

theorem isAddressCharacter_of_group? {field : List Char} {word : UInt16}
    (read : group? field = some word) {character : Char} (member : character ∈ field) :
    IsAddressCharacter character := by
  unfold group? at read
  split at read
  · obtain ⟨value, digits, -⟩ := Option.map_eq_some_iff.mp read
    exact .inl (isHexDigit_of_mem digits member)
  · cases read

theorem isAddressCharacter_of_headWords? {text : List Char} {words : List UInt16}
    (read : headWords? text = some words) {character : Char} (member : character ∈ text) :
    IsAddressCharacter character := by
  unfold headWords? at read
  split at read
  · next empty =>
    rw [empty] at member
    cases member
  · rcases mem_splitOn member with colon | ⟨field, inText, inField⟩
    · exact .inr (.inr colon)
    · obtain ⟨word, readField⟩ := exists_of_mapM_eq_some read inText
      exact isAddressCharacter_of_group? readField inField

theorem isAddressCharacter_of_quad? {field : List Char} {words : List UInt16}
    (read : quad? field = some words) {character : Char} (member : character ∈ field) :
    IsAddressCharacter character := by
  obtain ⟨quad, readQuad, -⟩ := Option.map_eq_some_iff.mp read
  exact Ipv4.isAddressCharacter_of_ofCharacters? readQuad member

theorem isAddressCharacter_of_go {fields : List (List Char)} {words : List UInt16}
    (read : tailWords?.go fields = some words) {field : List Char} (inFields : field ∈ fields)
    {character : Char} (member : character ∈ field) : IsAddressCharacter character := by
  induction fields generalizing words with
  | nil => cases inFields
  | cons first others inductionHypothesis =>
      cases others with
      | nil =>
          obtain rfl := List.mem_singleton.mp inFields
          cases readQuad : quad? field with
          | some quad => exact isAddressCharacter_of_quad? readQuad member
          | none =>
              rw [tailWords?.go, readQuad] at read
              obtain ⟨word, readGroup, -⟩ := Option.map_eq_some_iff.mp read
              exact isAddressCharacter_of_group? readGroup member
      | cons second others =>
          obtain ⟨word, readFirst, rest⟩ := Option.bind_eq_some_iff.mp read
          obtain ⟨further, readOthers, -⟩ := Option.bind_eq_some_iff.mp rest
          rcases List.mem_cons.mp inFields with rfl | inOthers
          · exact isAddressCharacter_of_group? readFirst member
          · exact inductionHypothesis readOthers inOthers

theorem isAddressCharacter_of_tailWords? {text : List Char} {words : List UInt16}
    (read : tailWords? text = some words) {character : Char} (member : character ∈ text) :
    IsAddressCharacter character := by
  unfold tailWords? at read
  split at read
  · next empty =>
    rw [empty] at member
    cases member
  · rcases mem_splitOn member with colon | ⟨field, inText, inField⟩
    · exact .inr (.inr colon)
    · exact isAddressCharacter_of_go read inText inField

theorem isAddressCharacter_of_ofCharacters? {text : List Char} {address : Ipv6}
    (read : ofCharacters? text = some address) {character : Char} (member : character ∈ text) :
    IsAddressCharacter character := by
  obtain ⟨words, readWords, -⟩ := Option.bind_eq_some_iff.mp read
  unfold words? at readWords
  split at readWords
  · exact isAddressCharacter_of_tailWords? readWords member
  · next before after cut =>
    obtain ⟨front, readFront, rest⟩ := Option.bind_eq_some_iff.mp readWords
    obtain ⟨back, readBack, -⟩ := Option.bind_eq_some_iff.mp rest
    rw [eq_of_cutAtElision? cut] at member
    rcases List.mem_append.mp member with inBefore | inElision
    · exact isAddressCharacter_of_headWords? readFront inBefore
    · simp only [List.mem_cons] at inElision
      rcases inElision with colon | colon | inAfter
      · exact .inr (.inr colon)
      · exact .inr (.inr colon)
      · exact isAddressCharacter_of_tailWords? readBack inAfter

theorem parse_eq_ok_iff {text : String} {address : Ipv6} :
    parse text = .ok address ↔ ofCharacters? text.toList = some address := by
  unfold parse
  split <;> simp_all

/-- No text of an address contains the mark before a scope. -/
theorem unmarked_of_parse {text : String} {address : Ipv6} (read : parse text = .ok address) :
    '%' ∉ text.toList := by
  rw [parse_eq_ok_iff] at read
  intro member
  rcases isAddressCharacter_of_ofCharacters? read member with digit | dot | colon
  · cases digit
  · cases dot
  · cases colon

end Ipv6

/-! ### Addresses with a scope -/

namespace ScopedIpv6

/-- The number that the digits of a scope write. -/
def writtenId (scope : String) : Nat :=
  Nat.ofDigitChars 10 scope.toList 0

/-- The texts that stand for an address with a scope: that of an address alone, and that of an
address before a `%` and either the digits of the id, zero for none, or the name of the scope. -/
inductive Denotes : String → ScopedIpv6 → Prop
  | alone {text : String} {ipv6 : ScopedIpv6} (read : Ipv6.parse text = .ok ipv6.address)
      (unnumbered : ipv6.scopeId = none) (unnamed : ipv6.scopeName = none) : Denotes text ipv6
  | numbered {text scope : String} {ipv6 : ScopedIpv6} (read : Ipv6.parse text = .ok ipv6.address)
      (nonempty : scope ≠ "") (digits : ∀ character ∈ scope.toList, character.isDigit = true)
      (fits : writtenId scope < 2 ^ 32)
      (id : ipv6.scopeId =
        if writtenId scope = 0 then none else some (UInt32.ofNat (writtenId scope)))
      (unnamed : ipv6.scopeName = none) : Denotes (text ++ "%" ++ scope) ipv6
  | named {text scope : String} {ipv6 : ScopedIpv6} (read : Ipv6.parse text = .ok ipv6.address)
      (unmarked : '%' ∉ scope.toList)
      (other : ∃ character ∈ scope.toList, character.isDigit = false)
      (unnumbered : ipv6.scopeId = none) (name : ipv6.scopeName = some scope) :
      Denotes (text ++ "%" ++ scope) ipv6

theorem scopeId_withScopeId_ofNat (address : Ipv6) {value : Nat} (fits : value < 2 ^ 32) :
    ((unscoped address).withScopeId (UInt32.ofNat value)).scopeId =
      if value = 0 then none else some (UInt32.ofNat value) := by
  have zero : UInt32.ofNat value = 0 ↔ value = 0 := by
    rw [← UInt32.toNat_inj, UInt32.toNat_ofNat_of_lt' fits]
    rfl
  rw [scopeId_withScopeId]
  simp only [zero]

/-- A scope of digits is taken for an id, however many leading zeros there are. -/
theorem withScopeText?_of_digits (address : Ipv6) {scope : String} (nonempty : scope ≠ "")
    (digits : ∀ character ∈ scope.toList, character.isDigit = true) :
    withScopeText? address scope.toList =
      (word32? (writtenId scope)).map (unscoped address).withScopeId := by
  have unmarked : '%' ∉ scope.toList := fun member => nomatch digits '%' member
  have proper : ¬ (scope.toList = [] ∨ '%' ∈ scope.toList) :=
    not_or.mpr ⟨by simpa using nonempty, unmarked⟩
  have decimal : decimalNumber? scope.toList = some (writtenId scope) := by
    rw [decimalNumber?, if_pos ⟨by simpa using nonempty, List.all_eq_true.mpr digits⟩, writtenId]
  rw [withScopeText?, if_neg proper, decimal]

theorem toList_marked (text scope : String) :
    (text ++ "%" ++ scope).toList = text.toList ++ '%' :: scope.toList := by
  simp

theorem ofCharacters?_marked {before : String} (unmarked : '%' ∉ before.toList) (scope : String) :
    ofCharacters? (before ++ "%" ++ scope).toList =
      (Ipv6.ofCharacters? before.toList).bind (withScopeText? · scope.toList) := by
  rw [toList_marked, ofCharacters?, cut?_append_separator unmarked]
  rfl

theorem ofCharacters?_of_parse {text : String} {address : Ipv6}
    (read : Ipv6.parse text = .ok address) (scope : String) :
    ofCharacters? (text ++ "%" ++ scope).toList = withScopeText? address scope.toList := by
  rw [ofCharacters?_marked (Ipv6.unmarked_of_parse read), Ipv6.parse_eq_ok_iff.mp read,
    Option.bind_some]

theorem parse_of_denotes {text : String} {ipv6 : ScopedIpv6} (denotes : Denotes text ipv6) :
    parse text = .ok ipv6 := by
  rw [parse_eq_ok_iff]
  cases denotes with
  | alone read unnumbered unnamed =>
      have uncut := cut?_eq_none_iff.mpr (Ipv6.unmarked_of_parse read)
      rw [ofCharacters?, uncut]
      simp only [Ipv6.parse_eq_ok_iff.mp read, Option.map_some]
      congr 1
      ext1
      · rfl
      · exact unnumbered.symm
      · exact unnamed.symm
  | @numbered text scope _ read nonempty digits fits id unnamed =>
      rw [ofCharacters?_of_parse read, withScopeText?_of_digits _ nonempty digits,
        word32?_eq_some_iff.mpr ⟨fits, rfl⟩, Option.map_some]
      congr 1
      ext1
      · rw [address_withScopeId, address_unscoped]
      · rw [scopeId_withScopeId_ofNat _ fits, id]
      · rw [scopeName_withScopeId, scopeName_unscoped, unnamed]
  | @named text scope _ read unmarked other unnumbered name =>
      have nonempty : scope ≠ "" := by
        rintro rfl
        exact ipv6.scopeName_ne_empty name
      rw [ofCharacters?_of_parse read, withScopeText?_toList _ nonempty unmarked other]
      congr 1
      ext1
      · rw [address_withScopeName, address_unscoped]
      · rw [scopeId_withScopeName, scopeId_unscoped, unnumbered]
      · rw [scopeName_withScopeName, if_neg nonempty, name]

theorem denotes_of_withScopeText? {text scope : String} {address : Ipv6} {ipv6 : ScopedIpv6}
    (read : Ipv6.parse text = .ok address)
    (given : withScopeText? address scope.toList = some ipv6) :
    Denotes (text ++ "%" ++ scope) ipv6 := by
  have proper : ¬ (scope.toList = [] ∨ '%' ∈ scope.toList) := by
    intro improper
    rw [withScopeText?, if_pos improper] at given
    cases given
  obtain ⟨filled, unmarked⟩ := not_or.mp proper
  have nonempty : scope ≠ "" := by simpa using filled
  by_cases digits : ∀ character ∈ scope.toList, character.isDigit = true
  · rw [withScopeText?_of_digits address nonempty digits] at given
    obtain ⟨id, fits, rfl⟩ := Option.map_eq_some_iff.mp given
    obtain ⟨small, rfl⟩ := word32?_eq_some_iff.mp fits
    refine .numbered ?_ nonempty digits small (scopeId_withScopeId_ofNat address small) ?_
    · rw [address_withScopeId]
      exact read
    · rw [scopeName_withScopeId]
      rfl
  · have other : ∃ character ∈ scope.toList, character.isDigit = false := by
      simpa using digits
    rw [withScopeText?_toList address nonempty unmarked other] at given
    cases given
    refine .named ?_ unmarked other ?_ ?_
    · rw [address_withScopeName]
      exact read
    · rw [scopeId_withScopeName]
      rfl
    · rw [scopeName_withScopeName, if_neg nonempty]

theorem denotes_of_parse {text : String} {ipv6 : ScopedIpv6} (read : parse text = .ok ipv6) :
    Denotes text ipv6 := by
  rw [parse_eq_ok_iff] at read
  unfold ofCharacters? at read
  split at read
  · obtain ⟨address, plain, rfl⟩ := Option.map_eq_some_iff.mp read
    exact .alone (Ipv6.parse_eq_ok_iff.mpr plain) rfl rfl
  · next before scope cut =>
    obtain ⟨address, plain, given⟩ := Option.bind_eq_some_iff.mp read
    have parted : text = String.ofList before ++ "%" ++ String.ofList scope := by
      rw [← String.toList_inj, toList_marked, String.toList_ofList, String.toList_ofList]
      exact (cut?_eq_some_iff.mp cut).1
    rw [parted]
    have readBefore : Ipv6.parse (String.ofList before) = .ok address := by
      rw [Ipv6.parse_eq_ok_iff, String.toList_ofList]
      exact plain
    apply denotes_of_withScopeText? readBefore
    rw [String.toList_ofList]
    exact given

theorem parse_eq_error_iff {text : String} {error : AddressError} :
    parse text = .error error ↔
      error = .invalidFormat .v6 text ∧ ∀ ipv6, parse text ≠ .ok ipv6 := by
  unfold parse
  split
  · simp
  · simp [eq_comm]

/-- What is wrong with a text around its first `%`: no address stands before it, or no scope, a
second `%` or a number that is too large for an id after it. -/
inductive Misscoped (before scope : String) : Prop
  | unaddressed (unread : ∀ address, Ipv6.parse before ≠ .ok address)
  | unscoped (empty : scope = "")
  | marked (marked : '%' ∈ scope.toList)
  | large (digits : ∀ character ∈ scope.toList, character.isDigit = true)
      (large : 2 ^ 32 ≤ writtenId scope)

theorem withScopeText?_of_misscoped {before scope : String} (misscoped : Misscoped before scope)
    {address : Ipv6} (read : Ipv6.parse before = .ok address) :
    withScopeText? address scope.toList = none := by
  cases misscoped with
  | unaddressed unread => exact absurd read (unread address)
  | unscoped empty => rw [withScopeText?, if_pos (.inl (by rw [empty]; rfl))]
  | marked marked => rw [withScopeText?, if_pos (.inr marked)]
  | large digits large =>
      have nonempty : scope ≠ "" := by
        rintro rfl
        exact absurd large (by decide)
      have absent : word32? (writtenId scope) = none := by
        rw [Option.eq_none_iff_forall_ne_some]
        intro id fits
        exact absurd (word32?_eq_some_iff.mp fits).1 (Nat.not_lt.mpr large)
      rw [withScopeText?_of_digits address nonempty digits, absent, Option.map_none]

theorem parse_of_misscoped {before scope : String} (unmarked : '%' ∉ before.toList)
    (misscoped : Misscoped before scope) (ipv6 : ScopedIpv6) :
    parse (before ++ "%" ++ scope) ≠ .ok ipv6 := by
  intro read
  rw [parse_eq_ok_iff, ofCharacters?_marked unmarked, Option.bind_eq_some_iff] at read
  obtain ⟨address, readBefore, given⟩ := read
  rw [withScopeText?_of_misscoped misscoped (Ipv6.parse_eq_ok_iff.mpr readBefore)] at given
  cases given

/-- Exactly the texts that stand for an address with a scope are read, and as that address. Any
other text is refused as a whole, and so is one with something wrong around its first `%`; the texts
of addresses without a scope have none. -/
theorem parse_denotes (text : String) :
    (∀ ipv6, parse text = .ok ipv6 ↔ Denotes text ipv6) ∧
      (∀ error, parse text = .error error ↔
        error = .invalidFormat .v6 text ∧ ∀ ipv6, ¬ Denotes text ipv6) ∧
      (∀ before scope, text = before ++ "%" ++ scope → '%' ∉ before.toList →
        Misscoped before scope → parse text = .error (.invalidFormat .v6 text)) ∧
      ∀ address, Ipv6.parse text = .ok address → '%' ∉ text.toList := by
  have reads (ipv6 : ScopedIpv6) : parse text = .ok ipv6 ↔ Denotes text ipv6 :=
    ⟨denotes_of_parse, parse_of_denotes⟩
  refine ⟨reads, ?_, ?_, fun address => Ipv6.unmarked_of_parse⟩
  · intro error
    rw [parse_eq_error_iff]
    simp only [ne_eq, reads]
  · rintro before scope rfl unmarked misscoped
    exact parse_eq_error_iff.mpr ⟨rfl, parse_of_misscoped unmarked misscoped⟩

/-- Zeros in front of an id do not count, and zero itself is no id. One more than the largest id is
refused, although with a letter behind it would be a name. -/
theorem padded_scope_denoted :
    let linkLocal : Ipv6 := ⟨[0xfe80, 0, 0, 0, 0, 0, 0, 1], rfl⟩
    parse "fe80::1%000004294967295" = .ok ((unscoped linkLocal).withScopeId 4294967295) ∧
      parse "fe80::1%00" = .ok (unscoped linkLocal) ∧
      parse "fe80::1%4294967296" = .error (.invalidFormat .v6 "fe80::1%4294967296") ∧
      parse "fe80::1%4294967296x" =
        .ok ((unscoped linkLocal).withScopeName "4294967296x") := by
  intro linkLocal
  have read : Ipv6.parse "fe80::1" = .ok linkLocal := Ipv6.parse_eq_ok_iff.mpr (by decide)
  have largest : Denotes ("fe80::1" ++ "%" ++ "000004294967295")
      ((unscoped linkLocal).withScopeId 4294967295) :=
    .numbered read (by decide) (List.all_eq_true.mp (by decide)) (by decide) (by decide) rfl
  have zero : Denotes ("fe80::1" ++ "%" ++ "00") (unscoped linkLocal) :=
    .numbered read (by decide) (List.all_eq_true.mp (by decide)) (by decide) (by decide) rfl
  have name : Denotes ("fe80::1" ++ "%" ++ "4294967296x")
      ((unscoped linkLocal).withScopeName "4294967296x") :=
    .named read (by decide) ⟨'x', by decide, rfl⟩ rfl rfl
  refine ⟨((parse_denotes _).1 _).mpr largest, ((parse_denotes _).1 _).mpr zero, ?_,
    ((parse_denotes _).1 _).mpr name⟩
  apply (parse_denotes _).2.2.1 "fe80::1" "4294967296" (by decide) (by decide)
  exact .large (List.all_eq_true.mp (by decide)) (by decide)

end ScopedIpv6

end NetInterface
