import Mathlib.Data.List.GetD
import Mathlib.Data.Nat.Digits.Defs
import NetInterface.Address.Category
import NetInterface.Proofs.Address.Parts

/-!
Categories by blocks of addresses.

A block is all addresses that begin with the same bits. Every address has the category of the first
block that holds it in a table of the special-purpose blocks (`classify_by_blocks`), although the
tests look at octets and words, and not at leading bits. The bits of an address are those of the
number that its octets write (`leadingBits`); digit by digit they are the digits in front and a part
of the next one, whether the digits are octets or words.
-/

namespace NetInterface

/-- The number that octets write, the most significant first. -/
def numberOf (octets : List UInt8) : Nat :=
  Nat.ofDigits 256 (octets.map UInt8.toNat).reverse

/-- The first bits of the octets, as a number. -/
def leadingBits (count : Nat) (octets : List UInt8) : Nat :=
  numberOf octets / 2 ^ (8 * octets.length - count)

/-- Some of the bits of the octets as a number. The first bit is the most significant one. -/
def bitsFrom (first count : Nat) (octets : List UInt8) : Nat :=
  leadingBits (first + count) octets % 2 ^ count

/-- A block of addresses: the octets of one of them, and how many leading bits all share. -/
structure AddressBlock where
  start : List UInt8
  length : Nat

/-- The octets have the leading bits of the block. -/
def AddressBlock.Holds (block : AddressBlock) (octets : List UInt8) : Prop :=
  leadingBits block.length octets = leadingBits block.length block.start

instance (block : AddressBlock) (octets : List UInt8) : Decidable (block.Holds octets) :=
  inferInstanceAs (Decidable (leadingBits _ _ = _))

/-- Blocks by category, in the order in which they are looked at. -/
abbrev BlockTable := List (Category × List AddressBlock)

/-- The category of the first block that holds the octets. -/
def BlockTable.category (table : BlockTable) (octets : List UInt8) : Category :=
  let blocks := table.flatMap fun (category, blocks) => blocks.map (category, ·)
  match blocks.find? fun (_, block) => block.Holds octets with
  | some (category, _) => category
  | none => .global

/-- The scope and the flags are stated of a multicast address, and neither of any other address. -/
structure Classification.MulticastParts (classification : Classification) (scope : MulticastScope)
    (flags : Option Nat) : Prop where
  scope : classification.multicastScope =
    if classification.category = .multicast then some scope else none
  flags : classification.multicastFlags =
    if classification.category = .multicast then flags else none

namespace Ipv4

def block (first second third fourth : UInt8) (length : Nat) : AddressBlock :=
  ⟨octets ⟨first, second, third, fourth⟩, length⟩

def privateBlocks : List AddressBlock :=
  [block 10 0 0 0 8, block 100 64 0 0 10, block 172 16 0 0 12, block 192 0 0 0 24,
   block 192 168 0 0 16, block 198 18 0 0 15]

def reservedBlocks : List AddressBlock :=
  [block 0 0 0 0 8, block 192 0 2 0 24, block 192 88 99 0 24, block 198 51 100 0 24,
   block 203 0 113 0 24, block 240 0 0 0 4]

def blocks : BlockTable :=
  [(.unspecified, [block 0 0 0 0 32]),
   (.loopback, [block 127 0 0 0 8]),
   (.linkLocal, [block 169 254 0 0 16]),
   (.privateUse, privateBlocks),
   (.multicast, [block 224 0 0 0 4]),
   (.reserved, reservedBlocks)]

end Ipv4

namespace Ipv6

/-- The address that begins with the given words and goes on with zeros. -/
def ofLeading (words : List UInt16) : Ipv6 :=
  ⟨(words ++ List.replicate 8 0).take 8, by simp⟩

def block (words : List UInt16) (length : Nat) : AddressBlock :=
  ⟨(ofLeading words).octets, length⟩

def reservedBlocks : List AddressBlock :=
  [block [0x64, 0xff9b] 96, block [0x64, 0xff9b, 1] 48, block [0x100] 64, block [0x2001] 32,
   block [0x2001, 0x20] 28, block [0x2001, 0xdb8] 32]

def blocks : BlockTable :=
  [(.unspecified, [block [] 128]),
   (.loopback, [block [0, 0, 0, 0, 0, 0, 0, 1] 128]),
   (.linkLocal, [block [0xfe80] 64]),
   (.uniqueLocal, [block [0xfc00] 7]),
   (.siteLocal, [block [0xfec0] 10]),
   (.multicast, [block [0xff00] 8]),
   (.v4Mapped, [block [0, 0, 0, 0, 0, 0xffff] 96]),
   (.v4Compatible, [block [] 96]),
   (.v4Translated, [block [0, 0, 0, 0, 0xffff] 96]),
   (.sixToFour, [block [0x2002] 16]),
   (.reserved, reservedBlocks)]

end Ipv6

/-! ### Leading bits by digits -/

section

variable {width count : Nat} {α : Type} {value : α → Nat}

/-- A number without its last bits consists of the digits in front of one of its digits and the
leading bits of that digit. -/
theorem ofDigits_div (positive : 0 < width) (short : count ≤ width) (front : List Nat) (digit : Nat)
    {back : List Nat} (small : ∀ lower ∈ back, lower < 2 ^ width) :
    Nat.ofDigits (2 ^ width) (front ++ digit :: back).reverse /
        2 ^ (width * (back.length + 1) - count) =
      Nat.ofDigits (2 ^ width) front.reverse * 2 ^ count + digit / 2 ^ (width - count) := by
  have below : Nat.ofDigits (2 ^ width) back.reverse < (2 ^ width) ^ back.length := by
    have count : back.reverse.length = back.length := List.length_reverse
    rw [← count]
    apply Nat.ofDigits_lt_base_pow_length (Nat.one_lt_two_pow (Nat.ne_of_gt positive))
    intro lower member
    exact small lower (List.mem_reverse.mp member)
  have whole : 2 ^ width = 2 ^ (width - count) * 2 ^ count := by
    rw [← Nat.pow_add, Nat.sub_add_cancel short]
  have digits : Nat.ofDigits (2 ^ width) (front ++ digit :: back).reverse =
      Nat.ofDigits (2 ^ width) back.reverse +
        (2 ^ width) ^ back.length *
          (digit + 2 ^ (width - count) * (Nat.ofDigits (2 ^ width) front.reverse * 2 ^ count)) := by
    rw [List.reverse_append, List.reverse_cons, List.append_assoc, Nat.ofDigits_append,
      List.length_reverse, List.singleton_append, Nat.ofDigits_cons,
      Nat.mul_comm (Nat.ofDigits _ front.reverse) (2 ^ count),
      ← Nat.mul_assoc (2 ^ (width - count)), ← whole]
  have places : 2 ^ (width * (back.length + 1) - count) =
      (2 ^ width) ^ back.length * 2 ^ (width - count) := by
    rw [← Nat.pow_mul, ← Nat.pow_add, Nat.mul_add, Nat.mul_one, Nat.add_sub_assoc short]
  rw [digits, places, ← Nat.div_div_eq_div_mul,
    Nat.add_mul_div_left _ _ (Nat.pow_pos (Nat.two_pow_pos width)), Nat.div_eq_of_lt below,
    Nat.zero_add, Nat.add_mul_div_left _ _ (Nat.two_pow_pos _), Nat.add_comm]

/-- As `ofDigits_div`, with the digit given by its place. -/
theorem ofDigits_div_at (positive : 0 < width) (short : count ≤ width)
    (bounded : ∀ digit, value digit < 2 ^ width) {digits : List α} {place : Nat}
    (inside : place < digits.length) (other : α) :
    Nat.ofDigits (2 ^ width) (digits.map value).reverse /
        2 ^ (width * (digits.length - place) - count) =
      Nat.ofDigits (2 ^ width) ((digits.take place).map value).reverse * 2 ^ count +
        value (digits.getD place other) / 2 ^ (width - count) := by
  have cut : digits.map value = (digits.take place).map value ++
      value digits[place] :: (digits.drop (place + 1)).map value := by
    rw [← List.map_cons, ← List.map_append, ← List.drop_eq_getElem_cons, List.take_append_drop]
  have behind : ((digits.drop (place + 1)).map value).length + 1 = digits.length - place := by
    rw [List.length_map, List.length_drop]
    omega
  have small : ∀ lower ∈ (digits.drop (place + 1)).map value, lower < 2 ^ width := by
    intro lower member
    obtain ⟨digit, -, rfl⟩ := List.mem_map.mp member
    exact bounded digit
  rw [cut, ← behind, ofDigits_div positive short _ _ small,
    List.getD_eq_getElem digits other inside]

/-- Numbers of equally many digits agree in their leading bits if they agree in the digits in front
of one place and in the leading bits of the digit there. -/
theorem ofDigits_div_inj (positive : 0 < width) (short : count ≤ width)
    (bounded : ∀ digit, value digit < 2 ^ width) (injective : ∀ x y, value x = value y → x = y)
    {digits others : List α} (alike : digits.length = others.length) {place : Nat}
    (inside : place < digits.length) (other : α) :
    Nat.ofDigits (2 ^ width) (digits.map value).reverse /
          2 ^ (width * (digits.length - place) - count) =
        Nat.ofDigits (2 ^ width) (others.map value).reverse /
          2 ^ (width * (others.length - place) - count) ↔
      digits.take place = others.take place ∧
        value (digits.getD place other) / 2 ^ (width - count) =
          value (others.getD place other) / 2 ^ (width - count) := by
  have part (digit : α) : value digit / 2 ^ (width - count) < 2 ^ count := by
    apply Nat.div_lt_of_lt_mul
    rw [← Nat.pow_add, Nat.sub_add_cancel short]
    exact bounded digit
  have small (list : List α) : ∀ digit ∈ ((list.take place).map value).reverse,
      digit < 2 ^ width := by
    intro digit member
    obtain ⟨item, -, rfl⟩ := List.mem_map.mp (List.mem_reverse.mp member)
    exact bounded item
  rw [ofDigits_div_at positive short bounded inside other,
    ofDigits_div_at positive short bounded (alike ▸ inside) other]
  constructor
  · intro same
    have fronts := congrArg (· / 2 ^ count) same
    have digits := congrArg (· % 2 ^ count) same
    simp only [Nat.mul_comm _ (2 ^ count), Nat.mul_add_div (Nat.two_pow_pos count),
      Nat.mul_add_mod_self_left, Nat.div_eq_of_lt (part _), Nat.mod_eq_of_lt (part _),
      Nat.add_zero] at fronts digits
    have several : 1 < 2 ^ width := Nat.one_lt_two_pow (Nat.ne_of_gt positive)
    have written := Nat.ofDigits_inj_of_len_eq several (by simp [alike]) (small _) (small _) fronts
    exact ⟨(List.map_inj_right injective).mp (List.reverse_inj.mp written), digits⟩
  · rintro ⟨front, digit⟩
    rw [front, digit]

end

/-! ### Tests on octets and words -/

namespace Ipv4

/-- A block holds the addresses that begin with the same octets and have the same leading bits in
the next one. -/
theorem holds_block_iff (address : Ipv4) (first second third fourth : UInt8) {length : Nat}
    (some : 0 < length) (fits : length ≤ 32) :
    (block first second third fourth length).Holds address.octets ↔
      address.octets.take ((length - 1) / 8) =
          [first, second, third, fourth].take ((length - 1) / 8) ∧
        (address.octets.getD ((length - 1) / 8) 0).toNat / 2 ^ (7 - (length - 1) % 8) =
          ([first, second, third, fourth].getD ((length - 1) / 8) 0).toNat /
            2 ^ (7 - (length - 1) % 8) := by
  have inside : (length - 1) / 8 < address.octets.length := by
    rw [length_octets]
    omega
  have short : (length - 1) % 8 + 1 ≤ 8 := by omega
  have agree := ofDigits_div_inj (by decide) short UInt8.toNat_lt (fun _ _ => UInt8.toNat_inj.mp)
    (show address.octets.length = [first, second, third, fourth].length from rfl) inside 0
  have rest : 8 * (4 - (length - 1) / 8) - ((length - 1) % 8 + 1) = 8 * 4 - length := by omega
  have behind : 8 - ((length - 1) % 8 + 1) = 7 - (length - 1) % 8 := by omega
  rw [length_octets, List.length_cons, List.length_cons, List.length_cons, List.length_singleton,
    rest, behind] at agree
  exact agree

end Ipv4

namespace Ipv6

/-- Octets write the same number as the words that they are joined to. -/
theorem numberOf_flatMap (words : List UInt16) :
    numberOf (words.flatMap octetsOfWord) =
      Nat.ofDigits (2 ^ 16) (words.map UInt16.toNat).reverse := by
  induction words with
  | nil => rfl
  | cons word words inductionHypothesis =>
      have high : (UInt8.ofNat (word.toNat / 256)).toNat = word.toNat / 256 := by
        have bound := word.toNat_lt
        rw [UInt8.toNat_ofNat']
        omega
      have low : (UInt8.ofNat (word.toNat % 256)).toNat = word.toNat % 256 := by
        rw [UInt8.toNat_ofNat']
        omega
      have square : 256 ^ 2 = 2 ^ 16 := rfl
      have places : 256 ^ (words.flatMap octetsOfWord).length = (2 ^ 16) ^ words.length := by
        rw [length_flatMap_octetsOfWord, Nat.pow_mul, square]
      unfold numberOf at inductionHypothesis ⊢
      rw [List.flatMap_cons, List.map_append, List.reverse_append, Nat.ofDigits_append,
        inductionHypothesis, List.length_reverse, List.length_map, places, List.map_cons,
        Nat.ofDigits_reverse_cons, List.length_map]
      simp only [octetsOfWord, List.map_cons, List.map_nil, List.reverse_cons, List.reverse_nil,
        List.nil_append, List.singleton_append, Nat.ofDigits_cons, Nat.ofDigits_nil, high, low,
        Nat.mul_zero, Nat.add_zero, Nat.mod_add_div]

/-- As for octets, but words are compared. -/
theorem holds_block_iff (address : Ipv6) (words : List UInt16) {length : Nat}
    (some : 0 < length) (fits : length ≤ 128) :
    (block words length).Holds address.octets ↔
      address.words.take ((length - 1) / 16) = (ofLeading words).words.take ((length - 1) / 16) ∧
        (address.words.getD ((length - 1) / 16) 0).toNat / 2 ^ (15 - (length - 1) % 16) =
          ((ofLeading words).words.getD ((length - 1) / 16) 0).toNat /
            2 ^ (15 - (length - 1) % 16) := by
  have inside : (length - 1) / 16 < address.words.length := by
    rw [address.length_words]
    omega
  have short : (length - 1) % 16 + 1 ≤ 16 := by omega
  have alike : address.words.length = (ofLeading words).words.length := by
    rw [address.length_words, (ofLeading words).length_words]
  have agree := ofDigits_div_inj (by decide) short UInt16.toNat_lt (fun _ _ => UInt16.toNat_inj.mp)
    alike inside 0
  have rest : 16 * (8 - (length - 1) / 16) - ((length - 1) % 16 + 1) = 8 * 16 - length := by omega
  have behind : 16 - ((length - 1) % 16 + 1) = 15 - (length - 1) % 16 := by omega
  rw [← alike, address.length_words, rest, behind, ← numberOf_flatMap, ← numberOf_flatMap] at agree
  unfold AddressBlock.Holds leadingBits block
  rw [length_octets, length_octets]
  exact agree

end Ipv6

/-! ### The tables -/

namespace BlockTable

theorem category_nil (octets : List UInt8) : category [] octets = .global := rfl

theorem category_cons (first : Category) (blocks : List AddressBlock) (table : BlockTable)
    (octets : List UInt8) :
    category ((first, blocks) :: table) octets =
      if ∃ held ∈ blocks, held.Holds octets then first else category table octets := by
  unfold category
  simp only [List.flatMap_cons, List.find?_append, List.find?_map]
  cases found : blocks.find?
      ((fun entry => decide (AddressBlock.Holds entry.2 octets)) ∘ (first, ·)) with
  | some block =>
      have held := List.find?_some found
      rw [if_pos ⟨block, List.mem_of_find?_eq_some found, of_decide_eq_true held⟩]
      rfl
  | none =>
      rw [List.find?_eq_none] at found
      rw [if_neg]
      · rfl
      · rintro ⟨block, member, held⟩
        exact found block member (decide_eq_true held)

end BlockTable

namespace Ipv4

theorem holds_privateBlocks_iff (address : Ipv4) :
    (∃ held ∈ privateBlocks, held.Holds address.octets) ↔ address.isPrivate = true := by
  have ten : address.second.toNat / 64 = 1 ↔
      64 ≤ address.second.toNat ∧ address.second.toNat ≤ 127 := by
    omega
  have twelve : address.second.toNat / 16 = 1 ↔
      16 ≤ address.second.toNat ∧ address.second.toNat ≤ 31 := by
    omega
  have fifteen : address.second.toNat / 2 = 9 ↔
      18 ≤ address.second.toNat ∧ address.second.toNat ≤ 19 := by
    omega
  simp only [privateBlocks, List.mem_cons, exists_eq_or_imp, holds_block_iff, List.not_mem_nil,
    false_and, exists_false, Nat.reduceLT, Nat.reduceLeDiff, Nat.reduceSub, Nat.reduceDiv,
    Nat.reduceMod]
  simp [octets, isPrivate, UInt8.le_iff_toNat_le, ← UInt8.toNat_inj, ten, twelve, fifteen,
    or_assoc, and_assoc]

/-- The documentation block among the multicast addresses is tested for but not in the table. -/
theorem holds_reservedBlocks_iff {address : Ipv4} (unicast : address.first.toNat / 16 ≠ 14) :
    (∃ held ∈ reservedBlocks, held.Holds address.octets) ↔ address.isReserved = true := by
  have undocumented : address.first.toNat ≠ 233 := by omega
  have future : address.first.toNat / 16 = 15 ↔ 240 ≤ address.first.toNat := by
    have bound := address.first.toNat_lt
    omega
  simp only [reservedBlocks, List.mem_cons, exists_eq_or_imp, holds_block_iff, List.not_mem_nil,
    false_and, exists_false, Nat.reduceLT, Nat.reduceLeDiff, Nat.reduceSub, Nat.reduceDiv,
    Nat.reduceMod]
  simp [octets, isReserved, UInt8.le_iff_toNat_le, ← UInt8.toNat_inj, undocumented, future,
    or_assoc, and_assoc]

/-- The tests in order are those for the rows of the table in order. -/
theorem category_classify (address : Ipv4) :
    address.classify.category = blocks.category address.octets := by
  have unspecified : (block 0 0 0 0 32).Holds address.octets ↔ address.octets = [0, 0, 0, 0] := by
    rw [holds_block_iff address 0 0 0 0 (by decide) (by decide)]
    simp [octets, ← UInt8.toNat_inj, and_assoc]
  have loopback : (block 127 0 0 0 8).Holds address.octets ↔ address.first = 127 := by
    rw [holds_block_iff address 127 0 0 0 (by decide) (by decide)]
    simp [octets, ← UInt8.toNat_inj]
  have linkLocal : (block 169 254 0 0 16).Holds address.octets ↔
      (address.first = 169 && address.second = 254) = true := by
    rw [holds_block_iff address 169 254 0 0 (by decide) (by decide)]
    simp [octets, ← UInt8.toNat_inj]
  have upper : address.first.toNat / 16 = 14 ↔
      (224 ≤ address.first && address.first ≤ 239) = true := by
    simp only [Bool.and_eq_true, decide_eq_true_eq, UInt8.le_iff_toNat_le, UInt8.reduceToNat]
    omega
  have multicast : (block 224 0 0 0 4).Holds address.octets ↔
      (224 ≤ address.first && address.first ≤ 239) = true := by
    rw [holds_block_iff address 224 0 0 0 (by decide) (by decide), ← upper]
    simp [octets]
  simp only [blocks, BlockTable.category_cons, BlockTable.category_nil, List.mem_singleton,
    exists_eq_left, unspecified, loopback, linkLocal, holds_privateBlocks_iff, multicast]
  unfold classify
  simp only [apply_ite Classification.category]
  by_cases isMulticast : (224 ≤ address.first && address.first ≤ 239) = true
  · simp only [isMulticast, if_true]
  · simp only [holds_reservedBlocks_iff (mt upper.mp isMulticast)]

theorem multicastParts_classify (address : Ipv4) :
    address.classify.MulticastParts address.multicastScope none := by
  unfold classify
  repeat' split
  all_goals exact ⟨rfl, rfl⟩

end Ipv4

namespace Ipv6

theorem startsWith_iff {address : Ipv6} {front : List UInt16} :
    address.startsWith front = true ↔ address.words.take front.length = front := by
  rw [startsWith, List.isPrefixOf_iff_prefix, List.prefix_iff_eq_take, eq_comm]

/-- A block of whole words holds the addresses that begin with them. -/
theorem holds_block_iff_startsWith (address : Ipv6) {words front : List UInt16} {length : Nat}
    (nonempty : 0 < front.length) (whole : length = 16 * front.length)
    (fills : (ofLeading words).words.take front.length = front) :
    (block words length).Holds address.octets ↔ address.startsWith front = true := by
  obtain ⟨before, count⟩ : ∃ before, front.length = before + 1 := ⟨front.length - 1, by omega⟩
  have fits : before + 1 ≤ 8 := by
    have shorter := congrArg List.length fills
    rw [List.length_take, (ofLeading words).length_words] at shorter
    omega
  have inside : before < address.words.length := by
    rw [address.length_words]
    omega
  have startInside : before < (ofLeading words).words.length := by
    rw [(ofLeading words).length_words]
    omega
  have place : (length - 1) / 16 = before := by omega
  have last : (length - 1) % 16 = 15 := by omega
  rw [count] at fills
  rw [holds_block_iff address words (by omega) (by omega), place, last, startsWith_iff, count,
    ← fills, ← List.take_append_getElem inside, ← List.take_append_getElem startInside,
    List.append_singleton_inj, List.getD_eq_getElem _ _ inside,
    List.getD_eq_getElem _ _ startInside, Nat.sub_self, Nat.pow_zero, Nat.div_one, Nat.div_one,
    UInt16.toNat_inj]

/-- A word is tested with a mask that spares its last bits exactly if these do not count. -/
theorem and_mask_eq_iff (word : UInt16) {spared : Nat} {mask value : UInt16}
    (masks : mask.toNat = (2 ^ (16 - spared) - 1) * 2 ^ spared)
    (clear : value.toNat / 2 ^ spared * 2 ^ spared = value.toNat) :
    word &&& mask = value ↔ word.toNat / 2 ^ spared = value.toNat / 2 ^ spared := by
  have kept : (word &&& mask).toNat = word.toNat / 2 ^ spared * 2 ^ spared := by
    rw [UInt16.toNat_and, masks]
    apply Nat.eq_of_testBit_eq
    intro place
    rw [Nat.testBit_and, Nat.testBit_mul_two_pow, Nat.testBit_mul_two_pow,
      Nat.testBit_two_pow_sub_one, Nat.testBit_div_two_pow]
    by_cases high : spared ≤ place
    · by_cases inside : place < 16
      · have within : place - spared < 16 - spared := by omega
        simp [high, within]
      · have beyond : word.toNat < 2 ^ place :=
          Nat.lt_of_lt_of_le word.toNat_lt (Nat.pow_le_pow_right (by decide) (by omega))
        simp [high, Nat.testBit_lt_two_pow beyond]
    · simp [high]
  rw [← UInt16.toNat_inj, kept, ← clear, Nat.mul_div_cancel _ (Nat.two_pow_pos spared)]
  exact Nat.mul_left_inj (Nat.ne_of_gt (Nat.two_pow_pos spared))

theorem leadingBits_octets (address : Ipv6) {count : Nat} (short : count ≤ 16) :
    leadingBits count address.octets = address.firstWord.toNat / 2 ^ (16 - count) := by
  have inside : 0 < address.words.length := by
    rw [address.length_words]
    decide
  have first : address.words.getD 0 0 = address.firstWord := by
    rw [firstWord, List.headD_eq_head?_getD, List.getD_eq_getElem?_getD, List.head?_eq_getElem?]
  have parted := ofDigits_div_at (by decide) short UInt16.toNat_lt inside 0
  rw [first, address.length_words, ← numberOf_flatMap, List.take_zero, List.map_nil,
    List.reverse_nil, Nat.ofDigits_nil, Nat.zero_mul, Nat.zero_add] at parted
  rw [leadingBits, length_octets]
  exact parted

/-- A block of less than a word holds the addresses whose first word passes the test of a mask. -/
theorem holds_block_iff_mask (address : Ipv6) {length : Nat} {mask value : UInt16}
    (fits : length ≤ 16) (masks : mask.toNat = (2 ^ length - 1) * 2 ^ (16 - length))
    (clear : value.toNat / 2 ^ (16 - length) * 2 ^ (16 - length) = value.toNat) :
    (block [value] length).Holds address.octets ↔ (address.firstWord &&& mask) = value := by
  have spared : 16 - (16 - length) = length := by omega
  have start : (ofLeading [value]).firstWord = value := rfl
  rw [and_mask_eq_iff address.firstWord (by rw [spared]; exact masks) clear, block,
    AddressBlock.Holds, leadingBits_octets address fits, leadingBits_octets _ fits, start]

theorem holds_reservedBlocks_iff (address : Ipv6) :
    (∃ held ∈ reservedBlocks, held.Holds address.octets) ↔ address.isReserved = true := by
  have ranged : (block [0x2001, 0x20] 28).Holds address.octets ↔
      (address.firstWord = 0x2001 && 0x20 ≤ address.words.getD 1 0 &&
        address.words.getD 1 0 ≤ 0x2f) = true := by
    rw [holds_block_iff address [0x2001, 0x20] (by decide) (by decide)]
    obtain ⟨words, complete⟩ := address
    match words, complete with
    | first :: second :: others, _ =>
        have range : second.toNat / 16 = 2 ↔ 32 ≤ second.toNat ∧ second.toNat ≤ 47 := by omega
        simp [ofLeading, firstWord, UInt16.le_iff_toNat_le, and_assoc, range]
  simp only [reservedBlocks, List.mem_cons, List.not_mem_nil, or_false, exists_eq_or_imp,
    exists_eq_left, isReserved, Bool.or_eq_true, or_assoc]
  refine or_congr (holds_block_iff_startsWith address (by decide) rfl rfl) ?_
  refine or_congr (holds_block_iff_startsWith address (by decide) rfl rfl) ?_
  refine or_congr (holds_block_iff_startsWith address (by decide) rfl rfl) ?_
  refine or_congr (holds_block_iff_startsWith address (by decide) rfl rfl) ?_
  exact or_congr ranged (holds_block_iff_startsWith address (by decide) rfl rfl)

theorem startsWith_words_iff {address : Ipv6} {words : List UInt16} (complete : words.length = 8) :
    address.startsWith words = true ↔ address.words = words := by
  rw [startsWith_iff, List.take_of_length_le]
  rw [address.length_words, complete]

/-- The tests in order are those for the rows of the table in order. -/
theorem category_classify (address : Ipv6) :
    address.classify.category = blocks.category address.octets := by
  have unspecified : (block [] 128).Holds address.octets ↔
      address.words = [0, 0, 0, 0, 0, 0, 0, 0] := by
    rw [← startsWith_words_iff rfl]
    exact holds_block_iff_startsWith address (by decide) rfl rfl
  have loopback : (block [0, 0, 0, 0, 0, 0, 0, 1] 128).Holds address.octets ↔
      address.words = [0, 0, 0, 0, 0, 0, 0, 1] := by
    rw [← startsWith_words_iff rfl]
    exact holds_block_iff_startsWith address (by decide) rfl rfl
  have linkLocal : (block [0xfe80] 64).Holds address.octets ↔
      address.startsWith [0xfe80, 0, 0, 0] = true :=
    holds_block_iff_startsWith address (by decide) rfl rfl
  have uniqueLocal : (block [0xfc00] 7).Holds address.octets ↔
      address.firstWord &&& 0xfe00 = 0xfc00 :=
    holds_block_iff_mask address (by decide) rfl rfl
  have siteLocal : (block [0xfec0] 10).Holds address.octets ↔
      address.firstWord &&& 0xffc0 = 0xfec0 :=
    holds_block_iff_mask address (by decide) rfl rfl
  have multicast : (block [0xff00] 8).Holds address.octets ↔
      address.firstWord &&& 0xff00 = 0xff00 :=
    holds_block_iff_mask address (by decide) rfl rfl
  have v4Mapped : (block [0, 0, 0, 0, 0, 0xffff] 96).Holds address.octets ↔
      address.startsWith [0, 0, 0, 0, 0, 0xffff] = true :=
    holds_block_iff_startsWith address (by decide) rfl rfl
  have v4Compatible : (block [] 96).Holds address.octets ↔
      address.startsWith [0, 0, 0, 0, 0, 0] = true :=
    holds_block_iff_startsWith address (by decide) rfl rfl
  have v4Translated : (block [0, 0, 0, 0, 0xffff] 96).Holds address.octets ↔
      address.startsWith [0, 0, 0, 0, 0xffff, 0] = true :=
    holds_block_iff_startsWith address (by decide) rfl rfl
  have sixToFour : (block [0x2002] 16).Holds address.octets ↔
      address.startsWith [0x2002] = true :=
    holds_block_iff_startsWith address (by decide) rfl rfl
  simp only [blocks, BlockTable.category_cons, BlockTable.category_nil, List.mem_singleton,
    exists_eq_left, unspecified, loopback, linkLocal, uniqueLocal, siteLocal, multicast, v4Mapped,
    v4Compatible, v4Translated, sixToFour, holds_reservedBlocks_iff]
  unfold classify
  simp only [apply_ite Classification.category]

theorem multicastParts_classify (address : Ipv6) :
    address.classify.MulticastParts (.ofBits (bitsFrom 12 4 address.octets))
      (some (bitsFrom 8 4 address.octets)) := by
  have scope : bitsFrom 12 4 address.octets = address.firstWord.toNat % 16 := by
    rw [bitsFrom, leadingBits_octets address (by decide), Nat.pow_zero, Nat.div_one]
    rfl
  have flags : bitsFrom 8 4 address.octets = address.firstWord.toNat / 16 % 16 := by
    rw [bitsFrom, leadingBits_octets address (by decide)]
    rfl
  rw [scope, flags]
  unfold classify
  repeat' split
  all_goals exact ⟨rfl, rfl⟩

end Ipv6

/-- An address has the category of the first block of its family that holds it. A multicast address
has a scope, and if it is an IPv6 address it has flags too, which are four of its bits, and the next
four decide its scope; no other address has either. -/
theorem classify_by_blocks :
    (∀ address : Ipv4,
        address.classify.category = Ipv4.blocks.category address.octets ∧
          address.classify.MulticastParts address.multicastScope none) ∧
      ∀ address : Ipv6,
        address.classify.category = Ipv6.blocks.category address.octets ∧
          address.classify.MulticastParts (.ofBits (bitsFrom 12 4 address.octets))
            (some (bitsFrom 8 4 address.octets)) :=
  ⟨fun address => ⟨address.category_classify, address.multicastParts_classify⟩,
    fun address => ⟨address.category_classify, address.multicastParts_classify⟩⟩

/-- A block that is reserved for documentation among the multicast addresses is not listed. -/
example : Ipv4.blocks.category [233, 252, 0, 1] = .multicast := by decide

end NetInterface
