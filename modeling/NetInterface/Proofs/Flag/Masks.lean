import Mathlib.Data.List.Nodup
import Mathlib.Data.Nat.Bitwise
import NetInterface.Filter
import NetInterface.Flag.Address

/-!
Flags and masks translate into each other.

A table is `Regular` if it lists every flag once, in the order of declaration, and if the bits of
the flags are different single bits; both tables are. A word shares a bit with the mask of some
flags just if one of these flags is set in it (`Regular.shares_iff`). All that is said of a mask
follows: which flags and tokens it shows, which bits these flags have, and that all other bits do
not count.
-/

namespace NetInterface

/-- One bit of the word is set. -/
def IsBit (word : UInt32) : Prop :=
  word.toNat.isPowerOfTwo

instance (word : UInt32) : Decidable (IsBit word) :=
  inferInstanceAs (Decidable word.toNat.isPowerOfTwo)

namespace IsBit

variable {bit other : UInt32}

/-- A word has all of a single bit or nothing of it. -/
theorem and_cases (isBit : IsBit bit) (word : UInt32) : word &&& bit = 0 ∨ word &&& bit = bit := by
  obtain ⟨position, power⟩ := isBit
  rw [← UInt32.toNat_inj, ← UInt32.toNat_inj, UInt32.toNat_and, power, Nat.and_two_pow]
  cases word.toNat.testBit position with
  | false => exact .inl (by simp)
  | true => exact .inr (by simp)

theorem ne_zero (isBit : IsBit bit) : bit ≠ 0 := by
  obtain ⟨position, power⟩ := isBit
  rintro rfl
  exact absurd power.symm (Nat.two_pow_pos position).ne'

theorem and_eq_self_iff (isBit : IsBit bit) (word : UInt32) :
    word &&& bit = bit ↔ word &&& bit ≠ 0 := by
  rcases isBit.and_cases word with unset | set
  · rw [unset]
    exact ⟨fun same => absurd same.symm isBit.ne_zero, fun set => absurd rfl set⟩
  · rw [set]
    exact ⟨fun _ => isBit.ne_zero, fun _ => rfl⟩

end IsBit

theorem and_or_distrib (word first second : UInt32) :
    word &&& (first ||| second) = (word &&& first) ||| (word &&& second) := by
  rw [← UInt32.toNat_inj]
  simp only [UInt32.toNat_and, UInt32.toNat_or, Nat.and_or_distrib_left]

namespace FlagRow

variable {F : Type}

/-- The bit of the flag, if it has one, is a single bit. -/
def IsSingle (row : FlagRow F) : Prop :=
  ∀ bit ∈ row.bit, IsBit bit

-- Goes through the bit itself and not through all words, of which there are too many.
instance (row : FlagRow F) : Decidable row.IsSingle :=
  decidable_of_iff (row.bit.all fun bit => decide (IsBit bit)) <| by
    simp [IsSingle, Option.all_eq_true]

variable {row : FlagRow F}

theorem isSet_eq_true_iff (single : row.IsSingle) (mask : UInt32) :
    row.isSet mask = true ↔ mask &&& row.mask ≠ 0 := by
  unfold isSet FlagRow.mask
  cases known : row.bit with
  | none => simp
  | some bit =>
      have isBit : IsBit bit := single bit known
      rw [Bool.and_eq_true, bne_iff_ne, beq_iff_eq, isBit.and_eq_self_iff, Option.getD_some]
      exact and_iff_right isBit.ne_zero

/-- A mask has all of the bit of a flag that is set in it, and nothing of any other. -/
theorem and_mask (single : row.IsSingle) (mask : UInt32) :
    mask &&& row.mask = if row.isSet mask then row.mask else 0 := by
  have set := isSet_eq_true_iff single mask
  split
  · next isSet =>
    unfold FlagRow.mask at set ⊢
    cases known : row.bit with
    | none => simp
    | some bit =>
        rw [known] at set
        exact ((single bit known).and_eq_self_iff mask).mpr (set.mp isSet)
  · next isUnset => exact not_not.mp fun shared => isUnset (set.mpr shared)

theorem mask_ne_zero_iff (single : row.IsSingle) :
    row.mask ≠ 0 ↔ row.bit.isSome = true := by
  unfold FlagRow.mask
  cases known : row.bit with
  | none => simp
  | some bit => simpa using (single bit known).ne_zero

end FlagRow

namespace FlagTable

variable {F : Type} [DecidableEq F] {table : FlagTable F} {index : F → Nat} {row : FlagRow F}

/-- The table lists all flags by their index, with different tokens and single bits of their own. -/
structure Regular (table : FlagTable F) (index : F → Nat) : Prop where
  complete : ∀ flag, flag ∈ table.rows.map (·.flag)
  ordered : table.rows.Pairwise fun row later => index row.flag < index later.flag
  told : (table.rows.map (·.token)).Nodup
  single : ∀ row ∈ table.rows, row.IsSingle
  apart : ∀ row ∈ table.rows, ∀ other ∈ table.rows, row.flag ≠ other.flag →
    row.mask &&& other.mask = 0

/-- The bits of all flags of the table. -/
def supported (table : FlagTable F) : UInt32 :=
  table.maskOfAll (table.rows.map (·.flag))

namespace Regular

omit [DecidableEq F] in
/-- A flag has one row. -/
theorem eq_of_flag (regular : table.Regular index) {other : FlagRow F} (member : row ∈ table.rows)
    (otherMember : other ∈ table.rows) (same : row.flag = other.flag) : row = other := by
  have nodup : (table.rows.map (·.flag)).Nodup := by
    rw [List.nodup_iff_pairwise_ne, List.pairwise_map]
    exact regular.ordered.imp fun before same => absurd (congrArg index same) before.ne
  exact List.inj_on_of_nodup_map nodup member otherMember same

omit [DecidableEq F] in
theorem exists_row (regular : table.Regular index) (flag : F) :
    ∃ row ∈ table.rows, row.flag = flag :=
  List.mem_map.mp (regular.complete flag)

theorem row?_of_mem (regular : table.Regular index) (member : row ∈ table.rows) :
    table.row? row.flag = some row := by
  unfold row?
  cases found : table.rows.find? (·.flag = row.flag) with
  | none => simpa using List.find?_eq_none.mp found row member
  | some other =>
      have same : other.flag = row.flag := by simpa using List.find?_some found
      rw [regular.eq_of_flag (List.mem_of_find?_eq_some found) member same]

theorem bit?_of_mem (regular : table.Regular index) (member : row ∈ table.rows) :
    table.bit? row.flag = row.bit := by
  rw [bit?, regular.row?_of_mem member, Option.bind_some]

theorem maskOf_of_mem (regular : table.Regular index) (member : row ∈ table.rows) :
    table.maskOf row.flag = row.mask := by
  rw [maskOf, regular.bit?_of_mem member, FlagRow.mask]

theorem isEnabled_of_mem (regular : table.Regular index) (member : row ∈ table.rows)
    (mask : UInt32) : table.isEnabled mask row.flag = row.isSet mask := by
  rw [isEnabled, regular.bit?_of_mem member, FlagRow.isSet]

theorem mem_enabled_iff (regular : table.Regular index) (mask : UInt32) (flag : F) :
    flag ∈ table.enabled mask ↔ table.isEnabled mask flag = true := by
  obtain ⟨row, member, rfl⟩ := regular.exists_row flag
  rw [regular.isEnabled_of_mem member, enabled, List.mem_map]
  constructor
  · rintro ⟨other, shown, same⟩
    obtain ⟨otherMember, set⟩ := List.mem_filter.mp shown
    rwa [← regular.eq_of_flag otherMember member same]
  · intro set
    exact ⟨row, List.mem_filter.mpr ⟨member, set⟩, rfl⟩

theorem isEnabled_iff (regular : table.Regular index) (mask : UInt32) (flag : F) :
    table.isEnabled mask flag = true ↔ mask &&& table.maskOf flag ≠ 0 := by
  obtain ⟨row, member, rfl⟩ := regular.exists_row flag
  rw [regular.isEnabled_of_mem member, regular.maskOf_of_mem member,
    FlagRow.isSet_eq_true_iff (regular.single row member)]

/-- A word shares a bit with the mask of some flags just if one of them is set in the word. -/
theorem shares_iff (regular : table.Regular index) (mask : UInt32) (flags : List F) :
    mask &&& table.maskOfAll flags ≠ 0 ↔ ∃ flag ∈ flags, table.isEnabled mask flag = true := by
  induction flags with
  | nil => simp [maskOfAll]
  | cons flag flags inductionHypothesis =>
      have split : table.maskOfAll (flag :: flags) = table.maskOf flag ||| table.maskOfAll flags :=
        rfl
      rw [split, and_or_distrib, ne_eq, UInt32.or_eq_zero_iff, not_and_or, ← ne_eq, ← ne_eq,
        ← regular.isEnabled_iff, inductionHypothesis]
      simp only [List.mem_cons, exists_eq_or_imp]

/-- In the mask of one flag no other flag is set. -/
theorem isEnabled_maskOf (regular : table.Regular index) (flag other : F) :
    table.isEnabled (table.maskOf other) flag = true ↔
      other = flag ∧ (table.bit? flag).isSome = true := by
  obtain ⟨row, member, rfl⟩ := regular.exists_row flag
  obtain ⟨otherRow, otherMember, rfl⟩ := regular.exists_row other
  rw [regular.isEnabled_iff, regular.maskOf_of_mem member, regular.maskOf_of_mem otherMember,
    regular.bit?_of_mem member]
  by_cases same : otherRow.flag = row.flag
  · rw [regular.eq_of_flag otherMember member same, UInt32.and_self,
      FlagRow.mask_ne_zero_iff (regular.single row member)]
    exact (and_iff_right rfl).symm
  · simp [regular.apart otherRow otherMember row member same, same]

theorem isEnabled_maskOfAll (regular : table.Regular index) (flags : List F) (flag : F) :
    table.isEnabled (table.maskOfAll flags) flag = true ↔
      flag ∈ flags ∧ (table.bit? flag).isSome = true := by
  rw [regular.isEnabled_iff, UInt32.and_comm, regular.shares_iff]
  simp only [regular.isEnabled_maskOf]
  constructor
  · rintro ⟨other, member, rfl, supports⟩
    exact ⟨member, supports⟩
  · rintro ⟨member, supports⟩
    exact ⟨flag, member, rfl, supports⟩

/-- The flags that are set in a mask have the bits of the mask that the table supports. -/
theorem maskOfAll_enabled (regular : table.Regular index) (mask : UInt32) :
    table.maskOfAll (table.enabled mask) = mask &&& table.supported := by
  have restricted (rows : List (FlagRow F)) (listed : ∀ row ∈ rows, row ∈ table.rows) :
      table.maskOfAll ((rows.filter (·.isSet mask)).map (·.flag)) =
        mask &&& table.maskOfAll (rows.map (·.flag)) := by
    induction rows with
    | nil => simp [maskOfAll]
    | cons row rows inductionHypothesis =>
        obtain ⟨member, rest⟩ := List.forall_mem_cons.mp listed
        have split (flags : List F) :
            table.maskOfAll (row.flag :: flags) = row.mask ||| table.maskOfAll flags := by
          rw [← regular.maskOf_of_mem member]
          rfl
        rw [List.map_cons, split, and_or_distrib, ← inductionHypothesis rest,
          FlagRow.and_mask (regular.single row member), List.filter_cons]
        split
        · rw [List.map_cons, split]
        · rw [UInt32.zero_or]
  exact restricted table.rows fun _ => id

/-- The bit of a flag, if it has one, is among the supported ones. -/
theorem supported_and_mask (regular : table.Regular index) (member : row ∈ table.rows) :
    table.supported &&& row.mask = row.mask := by
  have single := regular.single row member
  rw [FlagRow.and_mask single]
  split
  · rfl
  · next unset =>
    rw [← regular.isEnabled_of_mem member, supported, regular.isEnabled_maskOfAll,
      regular.bit?_of_mem member, ← FlagRow.mask_ne_zero_iff single] at unset
    by_contra other
    exact unset ⟨regular.complete row.flag, Ne.symm other⟩

/-- Masks that agree in the supported bits set the same flags. -/
theorem isSet_congr (regular : table.Regular index) {mask other : UInt32}
    (agree : mask &&& table.supported = other &&& table.supported) (member : row ∈ table.rows) :
    row.isSet mask = row.isSet other := by
  have single := regular.single row member
  rw [Bool.eq_iff_iff, FlagRow.isSet_eq_true_iff single, FlagRow.isSet_eq_true_iff single,
    ← regular.supported_and_mask member, ← UInt32.and_assoc, ← UInt32.and_assoc, agree]

omit [DecidableEq F] in
/-- A flag and its token stand in the same place of what a mask shows. -/
theorem getElem?_tokens (regular : table.Regular index) (member : row ∈ table.rows)
    (mask : UInt32) (place : Nat) :
    (table.tokens mask)[place]? = some row.token ↔
      (table.enabled mask)[place]? = some row.flag := by
  rw [tokens, enabled, List.getElem?_map, List.getElem?_map]
  cases shown : (table.rows.filter (·.isSet mask))[place]? with
  | none => simp
  | some other =>
      have otherMember : other ∈ table.rows :=
        (List.mem_filter.mp (List.mem_of_getElem? shown)).1
      rw [Option.map_some, Option.map_some, Option.some_inj, Option.some_inj]
      constructor
      · intro same
        rw [List.inj_on_of_nodup_map regular.told otherMember member same]
      · intro same
        rw [regular.eq_of_flag otherMember member same]

end Regular

/-- What the flags of a table and the bits of a mask say of each other. -/
structure Translates (table : FlagTable F) (index : F → Nat) : Prop where
  /-- The flags of a mask come in the order of declaration and without repetition. -/
  ordered : ∀ mask, (table.enabled mask).Pairwise fun flag later => index flag < index later
  /-- The mask of some flags shows those of them that have a bit. -/
  maskOfAll : ∀ flags flag,
    flag ∈ table.enabled (table.maskOfAll flags) ↔ flag ∈ flags ∧ (table.bit? flag).isSome = true
  tokens : ∀ mask, (table.tokens mask).map some =
    (table.enabled mask).map fun flag => (table.row? flag).map (·.token)
  enabled : ∀ mask flag, table.isEnabled mask flag = true ↔ flag ∈ table.enabled mask
  token : ∀ mask flag, ∃ row, table.row? flag = some row ∧
    (table.isEnabled mask flag = true ↔ row.token ∈ table.tokens mask) ∧
    ∀ place : Nat, (table.tokens mask)[place]? = some row.token ↔
      (table.enabled mask)[place]? = some flag
  restricted : ∀ mask, table.maskOfAll (table.enabled mask) = mask &&& table.supported
  /-- Bits that no flag has change nothing. -/
  unknown : ∀ mask other, mask &&& table.supported = other &&& table.supported →
    table.enabled mask = table.enabled other ∧ table.tokens mask = table.tokens other ∧
      ∀ flag, table.isEnabled mask flag = table.isEnabled other flag
  unsupported : ∀ mask flag, table.bit? flag = none →
    table.isEnabled mask flag = false ∧ flag ∉ table.enabled mask

theorem Regular.translates (regular : table.Regular index) : table.Translates index where
  ordered mask := by
    rw [enabled, List.pairwise_map]
    exact regular.ordered.filter _
  maskOfAll flags flag := by
    rw [regular.mem_enabled_iff, regular.isEnabled_maskOfAll]
  tokens mask := by
    rw [tokens, enabled, List.map_map, List.map_map]
    apply List.map_congr_left
    intro row shown
    rw [Function.comp_apply, Function.comp_apply,
      regular.row?_of_mem (List.mem_filter.mp shown).1, Option.map_some]
  enabled mask flag := (regular.mem_enabled_iff mask flag).symm
  token mask flag := by
    obtain ⟨row, member, rfl⟩ := regular.exists_row flag
    have places := regular.getElem?_tokens member mask
    refine ⟨row, regular.row?_of_mem member, ?_, places⟩
    rw [← regular.mem_enabled_iff, List.mem_iff_getElem?, List.mem_iff_getElem?]
    exact exists_congr fun place => (places place).symm
  restricted := regular.maskOfAll_enabled
  unknown mask other agree := by
    have same : table.rows.filter (·.isSet mask) = table.rows.filter (·.isSet other) :=
      List.filter_congr fun row member => regular.isSet_congr agree member
    refine ⟨by rw [enabled, enabled, same], by rw [tokens, tokens, same], ?_⟩
    intro flag
    obtain ⟨row, member, rfl⟩ := regular.exists_row flag
    rw [regular.isEnabled_of_mem member, regular.isEnabled_of_mem member,
      regular.isSet_congr agree member]
  unsupported mask flag none := by
    have unset : table.isEnabled mask flag = false := by rw [isEnabled, none]
    refine ⟨unset, ?_⟩
    rw [regular.mem_enabled_iff, unset]
    exact Bool.false_ne_true

end FlagTable

theorem InterfaceFlag.regular_table : table.Regular InterfaceFlag.ctorIdx := by
  refine ⟨?_, by decide, by decide, by decide, by decide⟩
  intro flag
  cases flag <;> decide

theorem AddressFlag.regular_table : table.Regular AddressFlag.ctorIdx := by
  refine ⟨?_, by decide, by decide, by decide, by decide⟩
  intro flag
  cases flag <;> decide

/-- For both tables, lists of flags and masks translate into each other, and all views of a mask
agree. A filter for flags accepts the interfaces whose mask shares a bit with the mask of the
flags. -/
theorem flags_and_masks :
    InterfaceFlag.table.Translates InterfaceFlag.ctorIdx ∧
      AddressFlag.table.Translates AddressFlag.ctorIdx ∧
      ∀ (wanted : List InterfaceFlag) (interface : Interface),
        Filter.accepts interface (.flags wanted) = true ↔
          interface.flags &&& InterfaceFlag.table.maskOfAll wanted ≠ 0 := by
  refine ⟨InterfaceFlag.regular_table.translates, AddressFlag.regular_table.translates, ?_⟩
  intro wanted interface
  rw [InterfaceFlag.regular_table.shares_iff, Filter.accepts, List.any_eq_true]
  rfl

/-- The order and repetition of flags, a flag without a bit and a bit without a flag do not show. -/
example : InterfaceFlag.table.tokens
    (0x80000000 ||| InterfaceFlag.table.maskOfAll [.running, .simplex, .up, .running]) =
      ["UP", "RUNNING"] := by
  decide

end NetInterface
