import NetInterface.Text.Utf8

/-!
Texts are read back from their octets.

The machine reads a character octet by octet. From between characters, the octets of a character
bring it back there with that character read (`run_utf8EncodeChar`), however many they are. So a
text is read from its octets character by character (`text?_octets`).
-/

namespace NetInterface.Text.Utf8

/-! ### Octets of one character -/

/-- An octet that carries the last six bits of a value. -/
def carrier (value : Nat) : UInt8 :=
  UInt8.ofNat (value % 0x40 + 0x80)

theorem toNat_ofNat_of_lt {value : Nat} (fits : value < 256) : (UInt8.ofNat value).toNat = value :=
  UInt8.toNat_ofNat_of_lt' fits

theorem toNat_carrier (value : Nat) : (carrier value).toNat = value % 0x40 + 0x80 :=
  toNat_ofNat_of_lt (by omega)

/-- A leading octet and the state that it leads to. -/
theorem run_start_cons {lead : Nat} {state : State} (fits : lead < 256)
    (leads : first lead = ([], state)) (octets : List UInt8) :
    run .start (UInt8.ofNat lead :: octets) = run state octets := by
  rw [← List.nil_append (run state octets), run, step, toNat_ofNat_of_lt fits, leads]

section

variable {low high bits value : Nat} (lower : low ≤ value % 0x40 + 0x80)
  (upper : value % 0x40 + 0x80 ≤ high) (octets : List UInt8)
include lower upper

theorem run_last :
    run (.inside 1 low high bits) (carrier value :: octets) =
      some (Char.ofNat (64 * bits + value % 0x40)) :: run .start octets := by
  have six : (value % 0x40 + 0x80) % 64 = value % 0x40 := by omega
  simp only [run, step, toNat_carrier, lower, upper, six]
  rfl

theorem run_more (due : Nat) :
    run (.inside (due + 2) low high bits) (carrier value :: octets) =
      run (.inside (due + 1) 0x80 0xBF (64 * bits + value % 0x40)) octets := by
  have six : (value % 0x40 + 0x80) % 64 = value % 0x40 := by omega
  have further : ¬ due + 2 ≤ 1 := by omega
  simp only [run, step, toNat_carrier, lower, upper, six, further]
  rfl

end

theorem first_of_two : ∀ lead < 32, 2 ≤ lead →
    first (lead + 0xc0) = ([], .inside 1 0x80 0xBF lead) := by
  decide

/-- The least and the greatest leading octet narrow the range of the next one. -/
theorem first_of_three : ∀ lead < 16,
    first (lead + 0xe0) =
      ([], .inside 2 (if lead = 0 then 0xA0 else 0x80) (if lead = 13 then 0x9F else 0xBF)
        lead) := by
  decide

theorem first_of_four : ∀ lead < 5,
    first (lead + 0xf0) =
      ([], .inside 3 (if lead = 0 then 0x90 else 0x80) (if lead = 4 then 0x8F else 0xBF)
        lead) := by
  decide

section

variable {value : Nat} (octets : List UInt8)

theorem run_one (fits : value ≤ 0x7f) :
    run .start (UInt8.ofNat value :: octets) = some (Char.ofNat value) :: run .start octets := by
  have ascii : value < 0x80 := Nat.lt_succ_of_le fits
  rw [run, step, toNat_ofNat_of_lt (by omega), first, if_pos ascii]
  rfl

theorem run_two (more : 0x7f < value) (fits : value ≤ 0x7ff) :
    run .start (UInt8.ofNat (value / 64 % 0x20 + 0xc0) :: carrier value :: octets) =
      some (Char.ofNat value) :: run .start octets := by
  have lead : value / 64 % 0x20 = value / 64 := by omega
  have leads := first_of_two (value / 64) (by omega) (by omega)
  rw [lead, run_start_cons (by omega) leads, run_last (by omega) (by omega), Nat.div_add_mod]

/-- The octets of surrogates are left out by the range after their leading octet. -/
theorem run_three (more : 0x7ff < value) (fits : value ≤ 0xffff)
    (valid : value < 0xd800 ∨ 0xdfff < value) :
    run .start (UInt8.ofNat (value / 4096 % 0x10 + 0xe0) :: carrier (value / 64) ::
        carrier value :: octets) =
      some (Char.ofNat value) :: run .start octets := by
  have lead : value / 4096 % 0x10 = value / 4096 := by omega
  have leads := first_of_three (value / 4096) (by omega)
  have whole : 64 * (64 * (value / 4096) + value / 64 % 0x40) + value % 0x40 = value := by omega
  rw [lead, run_start_cons (by omega) leads, run_more _ _ _ 0, run_last (by omega) (by omega),
    whole]
  · split <;> omega
  · split <;> omega

theorem run_four (more : 0xffff < value) (fits : value < 0x110000) :
    run .start (UInt8.ofNat (value / 262144 % 0x08 + 0xf0) :: carrier (value / 4096) ::
        carrier (value / 64) :: carrier value :: octets) =
      some (Char.ofNat value) :: run .start octets := by
  have lead : value / 262144 % 0x08 = value / 262144 := by omega
  have leads := first_of_four (value / 262144) (by omega)
  have whole : 64 * (64 * (64 * (value / 262144) + value / 4096 % 0x40) + value / 64 % 0x40) +
      value % 0x40 = value := by
    omega
  rw [lead, run_start_cons (by omega) leads, run_more _ _ _ 1, run_more _ _ _ 0,
    run_last (by omega) (by omega), whole]
  · omega
  · omega
  · split <;> omega
  · split <;> omega

end

/-- The octets of a character are read as that character. -/
theorem run_utf8EncodeChar (character : Char) (octets : List UInt8) :
    run .start (String.utf8EncodeChar character ++ octets) =
      some character :: run .start octets := by
  have same : Char.ofNat character.val.toNat = character := Char.ofNat_toNat character
  have valid : character.val.toNat < 0xd800 ∨
      0xdfff < character.val.toNat ∧ character.val.toNat < 0x110000 :=
    character.valid
  simp only [String.utf8EncodeChar]
  split
  · next one =>
    exact (run_one octets one).trans (by rw [same])
  · next more =>
    split
    · next two =>
      exact (run_two octets (by omega) two).trans (by rw [same])
    · split
      · next three =>
        exact (run_three octets (by omega) three (by omega)).trans (by rw [same])
      · exact (run_four octets (by omega) (by omega)).trans (by rw [same])

/-! ### Texts -/

@[simp]
theorem octets_append (first second : String) :
    octets (first ++ second) = octets first ++ octets second := by
  simp [octets]

@[simp]
theorem octets_empty : octets "" = [] := by
  simp [octets]

theorem decode_encode (characters : List Char) :
    decode (encode characters) = characters.map some := by
  unfold decode encode
  induction characters with
  | nil => rfl
  | cons character others inductionHypothesis =>
      rw [List.flatMap_cons, run_utf8EncodeChar, inductionHypothesis, List.map_cons]

theorem octets_eq_encode (text : String) : octets text = encode text.toList := by
  have whole : text.toUTF8 = (encode text.toList).toByteArray := String.utf8Encode_toList.symm
  rw [octets, whole, List.toList_data_toByteArray]

/-- Every text is read back from its octets. -/
@[simp]
theorem text?_octets (text : String) : text? (octets text) = some text := by
  have complete (characters : List Char) : (characters.map some).mapM id = some characters := by
    induction characters with
    | nil => rfl
    | cons character others inductionHypothesis =>
        rw [List.map_cons, List.mapM_cons, inductionHypothesis]
        rfl
  rw [text?, octets_eq_encode, decode_encode, complete, Option.map_some, String.ofList_toList]

end NetInterface.Text.Utf8
