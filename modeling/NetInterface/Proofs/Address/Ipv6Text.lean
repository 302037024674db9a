import NetInterface.Address.Ipv6
import NetInterface.Proofs.Text.Digits

/-!
Written IPv6 addresses read back.

Groups joined with colons are cut into the same groups again, the first `::` of a text is the one
that stands for the zeros left out, and these are as many as the groups around it leave room for.
Thus `ofCharacters?_characters`: every address is read from what is written for it.
-/

namespace NetInterface.Ipv6

open Text

/-! ### Groups -/

theorem group?_leastHex (word : UInt16) : group? (leastHex word.toNat) = some word := by
  have bound : word.toNat < 16 ^ 4 := word.toNat_lt
  have short : (leastHex word.toNat).length ≤ 4 :=
    (Nat.length_toDigits_le_iff (by decide) (by decide)).mpr bound
  have digits : 1 ≤ (leastHex word.toNat).length := Nat.length_toDigits_pos
  unfold group?
  rw [if_pos ⟨digits, short⟩, hexNumber?_leastHex]
  simp

/-- A dotted quad has dots. -/
theorem quad?_eq_none {field : List Char} (absent : '.' ∉ field) : quad? field = none := by
  unfold quad? Ipv4.ofCharacters?
  rw [splitOn_of_not_mem absent]
  cases octet : Ipv4.octet? field <;> simp [octet, Ipv4.ofOctets?]

@[simp]
theorem groups_eq_nil {words : List UInt16} : groups words = [] ↔ words = [] := by
  constructor
  · intro empty
    cases words with
    | nil => rfl
    | cons word others =>
        have written : leastHex word.toNat ≠ [] := Nat.toDigits_ne_nil
        cases others <;> simp [groups, joinWith, written] at empty
  · rintro rfl
    rfl

theorem splitOn_groups {words : List UInt16} (nonempty : words ≠ []) :
    splitOn ':' (groups words) = words.map fun word => leastHex word.toNat := by
  apply splitOn_joinWith
  · simpa using nonempty
  · intro field member
    obtain ⟨word, -, rfl⟩ := List.mem_map.mp member
    exact not_mem_leastHex rfl word.toNat

theorem headWords?_groups (words : List UInt16) : headWords? (groups words) = some words := by
  by_cases empty : words = []
  · simp [headWords?, empty]
  · rw [headWords?, if_neg (by simpa using empty)]
    exact mapM_splitOn_joinWith empty (fun word => not_mem_leastHex rfl word.toNat) group?_leastHex

theorem tailWords?_go_map (words : List UInt16) :
    tailWords?.go (words.map fun word => leastHex word.toNat) = some words := by
  induction words with
  | nil => rfl
  | cons word words inductionHypothesis =>
      cases words with
      | nil =>
          have unquoted : quad? (leastHex word.toNat) = none :=
            quad?_eq_none (not_mem_leastHex rfl word.toNat)
          simp [tailWords?.go, unquoted, group?_leastHex]
      | cons next words =>
          rw [List.map_cons] at inductionHypothesis
          simp [tailWords?.go, group?_leastHex, inductionHypothesis]

theorem tailWords?_groups (words : List UInt16) : tailWords? (groups words) = some words := by
  by_cases empty : words = []
  · simp [tailWords?, empty]
  · rw [tailWords?, if_neg (by simpa using empty), splitOn_groups empty, tailWords?_go_map]

/-! ### The elision -/

/-- The text is the part before the elision, the elision and the part behind it. -/
theorem eq_of_cutAtElision? {text before after : List Char}
    (cut : cutAtElision? text = some (before, after)) : text = before ++ ':' :: ':' :: after := by
  fun_induction cutAtElision? text generalizing before with
  | case1 after =>
      cases cut
      rfl
  | case2 => cases cut
  | case3 character remaining _ inductionHypothesis =>
      obtain ⟨⟨front, back⟩, further, same⟩ := Option.map_eq_some_iff.mp cut
      cases same
      rw [inductionHypothesis further]
      rfl

/-- An elision is looked for behind a field without colons. -/
theorem cutAtElision?_append {field : List Char} (absent : ':' ∉ field) (rest : List Char) :
    cutAtElision? (field ++ rest) =
      (cutAtElision? rest).map fun (before, after) => (field ++ before, after) := by
  induction field with
  | nil => simp
  | cons character others inductionHypothesis =>
      simp only [List.mem_cons, not_or] at absent
      rw [List.cons_append, cutAtElision?, inductionHypothesis absent.2, Option.map_map]
      · rfl
      · intro after isColon
        exact absurd isColon.symm absent.1

/-- A single colon is no elision. -/
theorem cutAtElision?_colon {character : Char} (other : character ≠ ':') (rest : List Char) :
    cutAtElision? (':' :: character :: rest) =
      (cutAtElision? (character :: rest)).map fun (before, after) => (':' :: before, after) := by
  rw [cutAtElision?]
  rintro after - equality
  exact absurd (List.cons.inj equality).1 other

theorem groups_cons (word : UInt16) (words : List UInt16) :
    ∃ character others, character ≠ ':' ∧ groups (word :: words) = character :: others := by
  obtain ⟨character, others, written⟩ :=
    List.exists_cons_of_ne_nil (Nat.toDigits_ne_nil : leastHex word.toNat ≠ [])
  have other : character ≠ ':' := by
    rintro rfl
    exact not_mem_leastHex rfl word.toNat (written ▸ List.mem_cons_self)
  cases words with
  | nil => exact ⟨character, others, other, written⟩
  | cons next words =>
      refine ⟨character, others ++ ':' :: groups (next :: words), other, ?_⟩
      rw [← List.cons_append, ← written]
      rfl

/-- Groups contain no elision. -/
theorem cutAtElision?_groups (words : List UInt16) (rest : List Char) :
    cutAtElision? (groups words ++ rest) =
      (cutAtElision? rest).map fun (before, after) => (groups words ++ before, after) := by
  induction words with
  | nil => simp [groups, joinWith]
  | cons word words inductionHypothesis =>
      have absent : ':' ∉ leastHex word.toNat := not_mem_leastHex rfl word.toNat
      cases words with
      | nil => exact cutAtElision?_append absent rest
      | cons next words =>
          have joined : groups (word :: next :: words) =
              leastHex word.toNat ++ ':' :: groups (next :: words) := rfl
          obtain ⟨character, others, other, written⟩ := groups_cons next words
          rw [joined, List.append_assoc, List.cons_append, cutAtElision?_append absent, written,
            List.cons_append, cutAtElision?_colon other, ← List.cons_append, ← written,
            inductionHypothesis]
          simp [Option.map_map, Function.comp_def]

/-! ### The run of zeros -/

theorem eq_replicate_leadingZeros (words : List UInt16) :
    words = List.replicate (leadingZeros words) 0 ++ words.drop (leadingZeros words) := by
  induction words with
  | nil => rfl
  | cons word words inductionHypothesis =>
      by_cases zero : word = 0
      · have more : leadingZeros (word :: words) = leadingZeros words + 1 := by
          simp [leadingZeros, zero]
        rw [more, List.replicate_succ, List.drop_succ_cons, List.cons_append,
          ← inductionHypothesis, zero]
      · have none : leadingZeros (word :: words) = 0 := by
          simp [leadingZeros, zero]
        simp [none]

/-- A run that starts at the first word is taken unless a longer one follows. -/
theorem longestZeroRun_of_le {word : UInt16} {words : List UInt16}
    (here : (longestZeroRun words).2 ≤ leadingZeros (word :: words)) :
    longestZeroRun (word :: words) = (0, leadingZeros (word :: words)) := by
  simp [longestZeroRun, here]

theorem longestZeroRun_of_not_le {word : UInt16} {words : List UInt16}
    (behind : ¬ (longestZeroRun words).2 ≤ leadingZeros (word :: words)) :
    longestZeroRun (word :: words) =
      ((longestZeroRun words).1 + 1, (longestZeroRun words).2) := by
  simp [longestZeroRun, behind]

/-- The run that is found consists of zeros. -/
theorem eq_around_longestZeroRun (words : List UInt16) :
    words = words.take (longestZeroRun words).1 ++
      List.replicate (longestZeroRun words).2 0 ++
      words.drop ((longestZeroRun words).1 + (longestZeroRun words).2) := by
  induction words with
  | nil => rfl
  | cons word words inductionHypothesis =>
      by_cases here : (longestZeroRun words).2 ≤ leadingZeros (word :: words)
      · simpa [longestZeroRun_of_le here] using eq_replicate_leadingZeros (word :: words)
      · rw [longestZeroRun_of_not_le here]
        simp only [List.take_succ_cons, List.cons_append, Nat.add_right_comm _ 1,
          List.drop_succ_cons]
        rw [← inductionHypothesis]

/-! ### Reading what is written -/

theorem words?_characters (address : Ipv6) : words? address.characters = some address.words := by
  have around := eq_around_longestZeroRun address.words
  have eight := address.length_words
  unfold characters
  generalize longestZeroRun address.words = run at around
  obtain ⟨start, length⟩ := run
  simp only at around ⊢
  split
  · rename_i elided
    generalize address.words.take start = front at *
    generalize address.words.drop (start + length) = back at *
    have lengths : front.length + length + back.length = 8 := by
      rw [← eight, around]
      simp [Nat.add_assoc]
    have cut : cutAtElision? (groups front ++ [':', ':'] ++ groups back) =
        some (groups front, groups back) := by
      rw [List.append_assoc, cutAtElision?_groups]
      simp [cutAtElision?]
    have fits : front.length + back.length ≤ 7 := by omega
    have zeros : 8 - front.length - back.length = length := by omega
    unfold words?
    rw [cut, around]
    simp [headWords?_groups, tailWords?_groups, fits, zeros]
  · have uncut : cutAtElision? (groups address.words) = none := by
      have cut := cutAtElision?_groups address.words []
      simpa [cutAtElision?] using cut
    unfold words?
    rw [uncut]
    exact tailWords?_groups address.words

/-- Every address is read from its text. -/
theorem ofCharacters?_characters (address : Ipv6) :
    ofCharacters? address.characters = some address := by
  simp [ofCharacters?, words?_characters, ofWords?, address.length_words]

theorem characters_injective : Function.Injective characters :=
  injective_of_reads ofCharacters?_characters

end NetInterface.Ipv6
