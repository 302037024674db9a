import NetInterface.Proofs.HardwareAddress

/-!
The order of hardware addresses.

Places are compared first, zeros included, and then the number of octets. Padded octets may be the
same although one address is longer, but only if zeros are all that it has more; so the order is
that of the octets (`compare_padded`).
-/

namespace NetInterface.HardwareAddress

theorem compare_eq_lt_iff {left right : List UInt8} :
    compare left right = .lt ↔ left < right := by
  induction left generalizing right with
  | nil => cases right <;> simp
  | cons octet octets inductionHypothesis =>
      cases right with
      | nil => simp
      | cons other others =>
          rw [List.compare_cons_cons, Ordering.then_eq_lt, List.cons_lt_cons_iff,
            inductionHypothesis, Std.compare_eq_lt, Std.compare_eq_iff_eq]

theorem compare_eq_gt_iff {left right : List UInt8} :
    compare left right = .gt ↔ right < left := by
  rw [Std.OrientedCmp.gt_iff_lt, compare_eq_lt_iff]

/-- No octets come before as many zeros. -/
theorem compare_zeros_ne_gt (octets : List UInt8) :
    compare (List.replicate octets.length 0) octets ≠ .gt := by
  induction octets with
  | nil => exact nofun
  | cons octet octets inductionHypothesis =>
      rw [List.length_cons, List.replicate_succ, List.compare_cons_cons, Ne, Ordering.then_eq_gt,
        Std.compare_eq_gt]
      rintro (below | ⟨-, further⟩)
      · exact absurd below (by simp)
      · exact inductionHypothesis further

/-- The octets, with zeros behind them up to a width. -/
def padded (width : Nat) (octets : List UInt8) : List UInt8 :=
  octets ++ List.replicate (width - octets.length) 0

theorem length_padded {width : Nat} {octets : List UInt8} (fits : octets.length ≤ width) :
    (padded width octets).length = width := by
  rw [padded, List.length_append, List.length_replicate, Nat.add_sub_cancel' fits]

theorem padded_cons (width : Nat) (octet : UInt8) (octets : List UInt8) :
    padded (width + 1) (octet :: octets) = octet :: padded width octets := by
  rw [padded, List.length_cons, Nat.add_sub_add_right]
  rfl

theorem compare_padded_nil {width : Nat} {octets : List UInt8} (some : octets ≠ [])
    (fits : octets.length ≤ width) :
    (compare (padded width []) (padded width octets)).then (compare 0 octets.length) = .lt := by
  have shorter : compare 0 octets.length = .lt := by
    rw [Std.compare_eq_lt]
    exact List.length_pos_iff.mpr some
  have zeros := compare_zeros_ne_gt (padded width octets)
  rw [length_padded fits] at zeros
  rw [shorter]
  change (compare (List.replicate width 0) _).then .lt = .lt
  cases order : compare (List.replicate width 0) (padded width octets) with
  | lt | eq => rfl
  | gt => exact absurd order zeros

/-- Zeros behind the octets and then their number order them as they are ordered without zeros: a
proper part at the beginning comes first. -/
theorem compare_padded {width : Nat} {left right : List UInt8} (leftFits : left.length ≤ width)
    (rightFits : right.length ≤ width) :
    (compare (padded width left) (padded width right)).then (compare left.length right.length) =
      compare left right := by
  induction left generalizing right width with
  | nil =>
      cases right with
      | nil => simp
      | cons octet octets =>
          rw [List.compare_nil_cons]
          exact compare_padded_nil (List.cons_ne_nil octet octets) rightFits
  | cons octet octets inductionHypothesis =>
      cases right with
      | nil =>
          have reversed := compare_padded_nil (List.cons_ne_nil octet octets) leftFits
          have swapped : compare (padded width (octet :: octets)) (padded width []) =
              (compare (padded width []) (padded width (octet :: octets))).swap :=
            Std.OrientedCmp.eq_swap
          have longer : compare (octet :: octets).length 0 =
              (compare 0 (octet :: octets).length).swap := Std.OrientedCmp.eq_swap
          rw [List.compare_cons_nil, swapped, List.length_nil, longer, ← Ordering.swap_then,
            reversed]
          rfl
      | cons other others =>
          cases width with
          | zero => cases leftFits
          | succ width =>
              have rest := inductionHypothesis (Nat.le_of_succ_le_succ leftFits)
                (Nat.le_of_succ_le_succ rightFits)
              have count : compare (octet :: octets).length (other :: others).length =
                  compare octets.length others.length := by
                simp [Nat.compare_eq_ite_lt]
              rw [padded_cons, padded_cons, List.compare_cons_cons, List.compare_cons_cons, count,
                Ordering.then_assoc, rest]

/-! ### Addresses -/

theorem compare_eq (left right : HardwareAddress) :
    compare left right = compare left.octets right.octets := by
  have leftFits : left.octets.length ≤ 8 := left.length_octets ▸ left.length_le_eight
  have rightFits : right.octets.length ≤ 8 := right.length_octets ▸ right.length_le_eight
  rw [← compare_padded leftFits rightFits, padded, padded, length_octets, length_octets,
    ← toList_places, ← toList_places]
  rfl

/-- The address has the octets, six to eight of them, in its first places, and zeros in the
others. -/
structure Keeps (address : HardwareAddress) (octets : List UInt8) : Prop where
  octets_eq : address.octets = octets
  length_eq : address.length = octets.length
  six_le : 6 ≤ octets.length
  le_eight : octets.length ≤ 8
  places_eq : address.places.toList = padded 8 octets

theorem keeps_octets (address : HardwareAddress) : address.Keeps address.octets where
  octets_eq := rfl
  length_eq := address.length_octets.symm
  six_le := address.length_octets ▸ address.six_le_length
  le_eight := address.length_octets ▸ address.length_le_eight
  places_eq := by rw [padded, length_octets, toList_places]

theorem octets_ofEui48 (octets : Vector UInt8 6) : (ofEui48 octets).octets = octets.toList := by
  obtain ⟨⟨octets⟩, count⟩ := octets
  match octets, count with
  | [_, _, _, _, _, _], _ => rfl

/-- Addresses are ordered as their octets are, in whatever way the two are made: by the first octet
in which they differ, and a proper part at the beginning before the whole. Whatever makes an address
leaves zeros behind its octets. -/
theorem compare_as_octets :
    (∀ left right : HardwareAddress,
      (compare left right = .lt ↔ left.octets < right.octets) ∧
      (compare left right = .gt ↔ right.octets < left.octets) ∧
      (compare left right = .eq ↔ left.octets = right.octets) ∧
      (left = right ↔ left.octets = right.octets)) ∧
    (∀ octets address, ofOctets octets = .ok address → address.Keeps octets) ∧
    (∀ octets : Vector UInt8 6, (ofEui48 octets).Keeps octets.toList) ∧
    ∀ text address, parse text = .ok address →
      ∃ octets, Writes text.toList octets ∧ address.Keeps octets := by
  refine ⟨?order, ?ofOctets, ?ofEui48, ?parse⟩
  case order =>
    intro left right
    rw [compare_eq]
    exact ⟨compare_eq_lt_iff, compare_eq_gt_iff, Std.compare_eq_iff_eq,
      octets_injective.eq_iff.symm⟩
  case ofOctets =>
    intro octets address made
    exact octets_of_ofOctets made ▸ address.keeps_octets
  case ofEui48 =>
    intro octets
    exact octets_ofEui48 octets ▸ (ofEui48 octets).keeps_octets
  case parse =>
    intro text address parsed
    exact ⟨address.octets, parse_eq_ok_iff.mp parsed, address.keeps_octets⟩

/-- An address whose last octet is zero comes behind the shorter one that fills the same places. -/
theorem longer_address_compared :
    ∃ short long,
      parse "01-02-03-04-05-06" = .ok short ∧ ofOctets [1, 2, 3, 4, 5, 6, 0] = .ok long ∧
      short.places = long.places ∧ compare short long = .lt ∧ short ≠ long := by
  obtain ⟨order, fromOctets, -, fromText⟩ := compare_as_octets
  obtain ⟨short, parsed, six⟩ : ∃ short, parse "01-02-03-04-05-06" = .ok short ∧
      short.octets = [1, 2, 3, 4, 5, 6] := ⟨_, rfl, by decide⟩
  obtain ⟨long, made⟩ : ∃ long, ofOctets [1, 2, 3, 4, 5, 6, 0] = .ok long := ⟨_, rfl⟩
  obtain ⟨octets, -, keeps⟩ := fromText _ _ parsed
  have keepsLong := fromOctets _ _ made
  obtain ⟨below, -, -, equal⟩ := order short long
  refine ⟨short, long, parsed, made, ?_, ?_, ?_⟩
  · rw [← Vector.toList_inj, keeps.places_eq, keepsLong.places_eq, ← keeps.octets_eq, six]
    decide
  · rw [below, six, keepsLong.octets_eq]
    decide
  · rw [Ne, equal, six, keepsLong.octets_eq]
    decide

end NetInterface.HardwareAddress
