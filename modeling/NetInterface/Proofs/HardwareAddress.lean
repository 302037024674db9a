import Mathlib.Data.List.Forall2
import NetInterface.HardwareAddress
import NetInterface.Proofs.Text.HexFields

/-!
Hardware addresses and their texts.

The places of an address hold its octets and then zeros, so that its octets tell it. Reading fills
the places group by group and stops before the last place is passed (`Reading.Holds.run`). The
texts that are read are those that `Writes` describes, whole, and an address is read from its own.
-/

namespace NetInterface.HardwareAddress

open Text

/-! ### Places -/

/-- The octets stand in the first places and zeros in the others. -/
theorem toList_placed {octets : List UInt8} (fits : octets.length ≤ 8) :
    (placed octets).toList = octets ++ List.replicate (8 - octets.length) 0 := by
  apply List.ext_getElem
  · rw [Vector.length_toList, List.length_append, List.length_replicate]
    omega
  · intro place inside inside'
    simp only [Vector.getElem_toList, placed, Vector.getElem_ofFn]
    by_cases used : place < octets.length
    · simp [used]
    · simp [used, List.getElem_append]

@[simp]
theorem length_octets (address : HardwareAddress) : address.octets.length = address.length := by
  have fits := address.length_le_eight
  rw [octets, List.length_take, Vector.length_toList]
  omega

theorem toList_places (address : HardwareAddress) :
    address.places.toList = address.octets ++ List.replicate (8 - address.length) 0 := by
  have past : address.places.toList.drop address.length =
      List.replicate (8 - address.length) 0 := by
    apply List.ext_getElem
    · simp
    · intro place inside inside'
      rw [List.length_drop, Vector.length_toList] at inside
      simp only [List.getElem_drop, Vector.getElem_toList, List.getElem_replicate]
      exact address.places_past _ (by omega) (Nat.le_add_right _ _)
  rw [octets, ← past, List.take_append_drop]

/-- An address is told by its octets. -/
theorem octets_injective : Function.Injective octets := by
  intro address other same
  have length : address.length = other.length := by
    rw [← length_octets, same, length_octets]
  have places : address.places = other.places := by
    rw [← Vector.toList_inj, toList_places, toList_places, same, length]
  cases address
  cases other
  cases length
  cases places
  rfl

theorem octets_of_ofOctets {octets : List UInt8} {address : HardwareAddress}
    (made : ofOctets octets = .ok address) : address.octets = octets := by
  unfold ofOctets at made
  split at made
  next fits =>
      obtain rfl := Except.ok.inj made
      rw [HardwareAddress.octets, toList_placed fits.2, List.take_left]
  next => cases made

theorem ofOctets_octets (address : HardwareAddress) : ofOctets address.octets = .ok address := by
  have fits : 6 ≤ address.octets.length ∧ address.octets.length ≤ 8 := by
    rw [length_octets]
    exact ⟨address.six_le_length, address.length_le_eight⟩
  cases made : ofOctets address.octets with
  | ok other => rw [octets_injective (octets_of_ofOctets made)]
  | error error =>
      rw [ofOctets, dif_pos fits] at made
      cases made

theorem exists_ofOctets {octets : List UInt8} (six : 6 ≤ octets.length)
    (eight : octets.length ≤ 8) :
    ∃ address, ofOctets octets = .ok address ∧ address.octets = octets := by
  refine ⟨_, dif_pos ⟨six, eight⟩, ?_⟩
  exact octets_of_ofOctets (dif_pos ⟨six, eight⟩)

/-! ### Reading -/

/-- The octet in two hexadecimal digits. -/
def WritesOctet (group : List Char) (octet : UInt8) : Prop :=
  group.length = 2 ∧ HexNumeral group octet.toNat

theorem hexField?_eq_some_iff_writesOctet {group : List Char} {octet : BitVec 8} :
    hexField? 2 8 group = some octet ↔ WritesOctet group (.ofBitVec octet) :=
  hexField?_eq_some_iff

theorem rightUnique_writesOctet : Relator.RightUnique WritesOctet := by
  intro group octet other written writtenOther
  exact UInt8.toNat_inj.mp (written.2.unique writtenOther.2)

theorem writesOctet_hexDigits (letters : LetterCase) (octet : UInt8) :
    WritesOctet (hexDigits letters 2 octet.toNat) octet :=
  ⟨length_hexDigits letters 2 _, hexNumeral_hexDigits letters octet.toNat_lt⟩

/-- The octets read so far stand in the first places. -/
structure Reading.Holds (reading : Reading) (octets : List UInt8) : Prop where
  count : reading.count = octets.length
  fits : octets.length ≤ 8
  kept : reading.places.toList.take reading.count = octets

namespace Reading.Holds

variable {reading : Reading} {octets : List UInt8}

theorem start : Reading.start.Holds [] :=
  ⟨rfl, by decide, rfl⟩

theorem put (holds : reading.Holds octets) (free : octets.length < 8) (octet : UInt8) :
    ∃ next, reading.put octet = .ok next ∧ next.Holds (octets ++ [octet]) := by
  have room : reading.count < 8 := holds.count ▸ free
  refine ⟨_, dif_pos room, ?_, ?_, ?_⟩
  · simp [holds.count]
  · rw [List.length_append]
    exact free
  · have inside : reading.count < reading.places.toList.length := by simpa using room
    simp only [Vector.toList_set]
    rw [List.take_add_one, List.take_set_of_le (Nat.le_refl _), holds.kept,
      List.getElem?_set_self inside]
    rfl

/-- A group is an octet for a free place, or the reading stops. -/
theorem step (holds : reading.Holds octets) (group : List Char) :
    (∃ octet next, WritesOctet group octet ∧ reading.step group = .ok next ∧
      next.Holds (octets ++ [octet])) ∨
    (reading.step group = .error .malformed ∧
      ((∃ octet, WritesOctet group octet) → octets.length = 8)) := by
  unfold Reading.step
  by_cases full : reading.count = 8
  · exact .inr ⟨if_pos full, fun _ => holds.count ▸ full⟩
  · have free : octets.length < 8 := by
      have := holds.fits
      have := holds.count
      omega
    rw [if_neg full]
    cases read : hexField? 2 8 group with
    | none =>
        refine .inr ⟨rfl, ?_⟩
        rintro ⟨octet, written⟩
        have known : hexField? 2 8 group = some octet.toBitVec :=
          hexField?_eq_some_iff_writesOctet.mpr written
        rw [read] at known
        cases known
    | some octet =>
        obtain ⟨next, stored, holdsNext⟩ := holds.put free (.ofBitVec octet)
        exact .inl ⟨_, next, hexField?_eq_some_iff_writesOctet.mp read, stored, holdsNext⟩

/-- Groups are octets for the places that are free, or the reading stops at one of them. -/
theorem run (holds : reading.Holds octets) (groups : List (List Char)) :
    (∃ more result, List.Forall₂ WritesOctet groups more ∧
      groups.foldlM Reading.step reading = .ok result ∧ result.Holds (octets ++ more)) ∨
    (groups.foldlM Reading.step reading = .error .malformed ∧
      ∀ more, List.Forall₂ WritesOctet groups more → 8 < (octets ++ more).length) := by
  induction groups generalizing reading octets with
  | nil => exact .inl ⟨[], reading, .nil, rfl, by simpa using holds⟩
  | cons group groups inductionHypothesis =>
      rw [List.foldlM_cons]
      rcases holds.step group with ⟨octet, next, written, stepped, holdsNext⟩ | ⟨stopped, full⟩
      · rw [stepped]
        rcases inductionHypothesis holdsNext with
          ⟨more, result, others, ran, holdsResult⟩ | ⟨stopped, long⟩
        · refine .inl ⟨octet :: more, result, .cons written others, ran, ?_⟩
          simpa using holdsResult
        · refine .inr ⟨stopped, ?_⟩
          rintro _ (_ | ⟨writtenOther, others⟩)
          have := long _ others
          simpa [rightUnique_writesOctet written writtenOther] using this
      · rw [stopped]
        refine .inr ⟨rfl, ?_⟩
        rintro _ (_ | ⟨written, others⟩)
        have := full ⟨_, written⟩
        simp
        omega

end Reading.Holds

theorem separator_eq (text : List Char) : separator text = ':' ∨ separator text = '-' := by
  unfold separator
  split
  · exact .inl rfl
  · exact .inr rfl

/-- Reading never puts an octet behind the last place. -/
theorem read_ne_overrun (text : List Char) : read text ≠ .error .overrun := by
  unfold read
  rcases Reading.Holds.start.run (splitOn (separator text) text) with
    ⟨_, result, -, ran, -⟩ | ⟨stopped, -⟩
  · rw [ran]
    exact nofun
  · rw [stopped]
    exact nofun

/-- A text is read as the octets of its groups if there are places for them and enough of them. -/
theorem parse_cases (text : String) :
    (∃ address, parse text = .ok address ∧
      List.Forall₂ WritesOctet (splitOn (separator text.toList) text.toList) address.octets) ∨
    (parse text = .error (.invalidFormat text) ∧
      ∀ octets, List.Forall₂ WritesOctet (splitOn (separator text.toList) text.toList) octets →
        ¬ (6 ≤ octets.length ∧ octets.length ≤ 8)) := by
  unfold parse read
  rcases Reading.Holds.start.run (splitOn (separator text.toList) text.toList) with
    ⟨octets, result, written, ran, holds⟩ | ⟨stopped, long⟩
  · rw [ran, List.nil_append] at *
    have fits := holds.fits
    by_cases few : result.count < 6
    · refine .inr ⟨if_pos few, ?_⟩
      rintro others writtenOthers ⟨several, -⟩
      rw [← writtenOthers.length_eq, written.length_eq, ← holds.count] at several
      exact Nat.not_lt.mpr several few
    · obtain ⟨address, made, same⟩ := exists_ofOctets (by rw [← holds.count]; omega) fits
      refine .inl ⟨address, ?_, same ▸ written⟩
      simp only [if_neg few, holds.kept, made]
      rfl
  · rw [stopped]
    refine .inr ⟨rfl, ?_⟩
    rintro octets written ⟨-, fits⟩
    exact Nat.not_lt.mpr fits (long octets written)

/-! ### Texts -/

/-- The text has a group of two digits for each octet, with colons between all groups or dashes
between all of them. -/
def Writes (text : List Char) (octets : List UInt8) : Prop :=
  ∃ separator groups, (separator = ':' ∨ separator = '-') ∧ text = joinWith separator groups ∧
    List.Forall₂ WritesOctet groups octets

theorem not_mem_of_writesOctet {groups : List (List Char)} {octets : List UInt8}
    (written : List.Forall₂ WritesOctet groups octets) {character : Char}
    (other : isHexDigit character = false) : ∀ group ∈ groups, character ∉ group := by
  induction written with
  | nil => exact nofun
  | cons writtenFirst _ inductionHypothesis =>
      intro group member inside
      rcases List.mem_cons.mp member with rfl | further
      · rw [writtenFirst.2.isHexDigit inside] at other
        cases other
      · exact inductionHypothesis group further inside

/-- The separator of several groups is found from the whole text. -/
theorem separator_joinWith {groups : List (List Char)} {octets : List UInt8}
    (written : List.Forall₂ WritesOctet groups octets) (several : 2 ≤ groups.length)
    {character : Char} (separates : character = ':' ∨ character = '-') :
    separator (joinWith character groups) = character := by
  unfold separator
  rcases separates with rfl | rfl
  · match groups, several with
    | first :: second :: others, _ => exact if_pos (by simp [joinWith])
  · apply if_neg
    intro colon
    rcases mem_joinWith colon with dash | ⟨group, member, inside⟩
    · cases dash
    · exact not_mem_of_writesOctet written (by decide) group member inside

theorem splitOn_of_writes {text : List Char} {octets : List UInt8} (writes : Writes text octets)
    (several : 2 ≤ octets.length) :
    List.Forall₂ WritesOctet (splitOn (separator text) text) octets := by
  obtain ⟨character, groups, separates, rfl, written⟩ := writes
  have count : groups.length = octets.length := written.length_eq
  have nonempty : groups ≠ [] := by
    rintro rfl
    simp at count
    omega
  have other : isHexDigit character = false := by
    rcases separates with rfl | rfl <;> decide
  rw [separator_joinWith written (count ▸ several) separates,
    splitOn_joinWith nonempty (not_mem_of_writesOctet written other)]
  exact written

theorem writes_of_splitOn {text : List Char} {octets : List UInt8}
    (written : List.Forall₂ WritesOctet (splitOn (separator text) text) octets) :
    Writes text octets :=
  ⟨separator text, _, separator_eq text, (joinWith_splitOn _ text).symm, written⟩

theorem parse_eq_ok_iff {text : String} {address : HardwareAddress} :
    parse text = .ok address ↔ Writes text.toList address.octets := by
  constructor
  · intro parsed
    rcases parse_cases text with ⟨other, parsedOther, written⟩ | ⟨failed, -⟩
    · obtain rfl := Except.ok.inj (parsed.symm.trans parsedOther)
      exact writes_of_splitOn written
    · rw [failed] at parsed
      cases parsed
  · intro writes
    have six := address.six_le_length
    have eight := address.length_le_eight
    rw [← length_octets] at six eight
    have written := splitOn_of_writes writes (by omega)
    rcases parse_cases text with ⟨other, parsed, writtenOther⟩ | ⟨-, refused⟩
    · have same : other.octets = address.octets :=
        List.right_unique_forall₂' rightUnique_writesOctet writtenOther written
      rw [parsed, octets_injective same]
    · exact absurd ⟨six, eight⟩ (refused _ written)

theorem characters_eq (address : HardwareAddress) : address.characters =
    joinWith ':' (address.octets.map fun octet => hexDigits .lower 2 octet.toNat) := by
  unfold characters
  congr 1
  apply List.map_congr_left
  intro octet _
  exact paddedHex_eq_hexDigits .lower (by decide) octet.toNat_lt

theorem writes_characters (address : HardwareAddress) :
    Writes address.characters address.octets := by
  refine ⟨':', _, .inl rfl, address.characters_eq, ?_⟩
  rw [List.forall₂_map_left_iff]
  exact List.forall₂_same.mpr fun octet _ => writesOctet_hexDigits .lower octet

/-- Every address is read from its text. -/
theorem parse_text (address : HardwareAddress) : parse address.text = .ok address := by
  rw [parse_eq_ok_iff, text, String.toList_ofList]
  exact address.writes_characters

theorem text_injective : Function.Injective text := by
  intro address other written
  rw [← Except.ok.injEq, ← parse_text address, written, parse_text]

/-- The character as it stands in the text of an address. -/
def inText (character : Char) : Char :=
  if character = '-' then ':' else character.toLower

theorem WritesOctet.map_inText {group : List Char} {octet : UInt8}
    (written : WritesOctet group octet) :
    group.map inText = hexDigits .lower 2 octet.toNat := by
  rw [← written.1, written.2.hexDigits_eq]
  apply List.map_congr_left
  intro character member
  have digit := written.2.isHexDigit member
  have dashless : character ≠ '-' := by
    rintro rfl
    cases digit
  exact if_neg dashless

theorem characters_of_writes {text : List Char} {address : HardwareAddress}
    (writes : Writes text address.octets) : address.characters = text.map inText := by
  obtain ⟨character, groups, separates, rfl, written⟩ := writes
  have separator : inText character = ':' := by
    rcases separates with rfl | rfl <;> rfl
  have digits : groups.map (List.map inText) =
      address.octets.map fun octet => hexDigits .lower 2 octet.toNat := by
    rw [← List.forall₂_eq_eq_eq, List.forall₂_map_left_iff, List.forall₂_map_right_iff]
    exact written.imp fun _ _ => WritesOctet.map_inText
  rw [map_joinWith, separator, digits, characters_eq]

/-- A text is read exactly if it has six to eight groups of two hexadecimal digits, with colons
between all of them or dashes between all of them, and then as the octets that the groups write.
Every other text is refused as it is, and no text makes the reader put an octet behind the last
place. An address is read from its text, and a text that is read is written again with colons and in
lower case. -/
theorem addresses_read_and_written :
    (∀ text : String,
      (∀ octets, (∃ address, parse text = .ok address ∧ address.octets = octets) ↔
        Writes text.toList octets ∧ 6 ≤ octets.length ∧ octets.length ≤ 8) ∧
      ((∀ octets, Writes text.toList octets → ¬ (6 ≤ octets.length ∧ octets.length ≤ 8)) →
        parse text = .error (.invalidFormat text)) ∧
      read text.toList ≠ .error .overrun ∧
      ∀ address, parse text = .ok address → address.text.toList = text.toList.map inText) ∧
    ∀ octets : List UInt8, 6 ≤ octets.length → octets.length ≤ 8 →
      ∃ address, ofOctets octets = .ok address ∧ address.octets = octets ∧
        parse address.text = .ok address := by
  refine ⟨?_, ?_⟩
  · intro text
    refine ⟨?accepted, ?refused, read_ne_overrun text.toList, ?rewritten⟩
    case accepted =>
      intro octets
      constructor
      · rintro ⟨address, parsed, rfl⟩
        rw [length_octets]
        exact ⟨parse_eq_ok_iff.mp parsed, address.six_le_length, address.length_le_eight⟩
      · rintro ⟨writes, six, eight⟩
        obtain ⟨address, -, rfl⟩ := exists_ofOctets six eight
        exact ⟨address, parse_eq_ok_iff.mpr writes, rfl⟩
    case refused =>
      intro unwritten
      rcases parse_cases text with ⟨address, -, written⟩ | ⟨refused, -⟩
      · have bounds := unwritten address.octets (writes_of_splitOn written)
        rw [length_octets] at bounds
        exact absurd ⟨address.six_le_length, address.length_le_eight⟩ bounds
      · exact refused
    case rewritten =>
      intro address parsed
      rw [HardwareAddress.text, String.toList_ofList]
      exact characters_of_writes (parse_eq_ok_iff.mp parsed)
  · intro octets six eight
    obtain ⟨address, made, same⟩ := exists_ofOctets six eight
    exact ⟨address, made, same, address.parse_text⟩

theorem dashed_text_read_and_written :
    (∃ address, parse "A4-83-E7-2E-A1-67" = .ok address ∧ address.text = "a4:83:e7:2e:a1:67") ∧
    parse "é:83:e7:2e:a1:67" = .error (.invalidFormat "é:83:e7:2e:a1:67") ∧
    ∃ address, ofOctets [0xa4, 0x83, 0xe7, 0x2e, 0xa1, 0x67, 0] = .ok address ∧
      parse address.text = .ok address := by
  obtain ⟨texts, octets⟩ := addresses_read_and_written
  refine ⟨?dashed, ?accented, ?longer⟩
  case dashed =>
    obtain ⟨-, -, -, rewritten⟩ := texts "A4-83-E7-2E-A1-67"
    obtain ⟨address, parsed⟩ : ∃ address, parse "A4-83-E7-2E-A1-67" = .ok address := ⟨_, rfl⟩
    refine ⟨address, parsed, ?_⟩
    rw [← String.toList_inj, rewritten address parsed]
    decide
  case accented =>
    obtain ⟨-, refused, -⟩ := texts "é:83:e7:2e:a1:67"
    apply refused
    intro octets writes bounds
    -- The first group takes up two octets but is a single character.
    have groups : splitOn (separator "é:83:e7:2e:a1:67".toList) "é:83:e7:2e:a1:67".toList =
        [['é'], ['8', '3'], ['e', '7'], ['2', 'e'], ['a', '1'], ['6', '7']] := by decide
    have written := splitOn_of_writes writes (by omega)
    rw [groups] at written
    cases written with
    | cons first _ => cases first.1
  case longer =>
    obtain ⟨address, made, -, parsed⟩ :=
      octets [0xa4, 0x83, 0xe7, 0x2e, 0xa1, 0x67, 0] (by decide) (by decide)
    exact ⟨address, made, parsed⟩

end NetInterface.HardwareAddress
