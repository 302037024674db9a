import Mathlib.Data.List.Forall2
import NetInterface.Proofs.Address.ScopedText

/-!
The canonical text of an IPv6 address.

A run of zero words is a stretch of positions that all hold zero. The scan finds the leftmost of the
longest runs (`isLongestZeroRun_longestZeroRun`): a run starts at the first word, where the leading
zeros bound it, or it is a run of the remaining words. `IsCanonical` states the form of the text by
such runs alone, and `canonical_text` says that an address has one canonical text, which is the one
that is written.
-/

namespace NetInterface.Ipv6

open Text

/-! ### Runs of zero words -/

/-- All words are zero from the start on, as many as the length. -/
def IsZeroRun (words : List UInt16) (start length : Nat) : Prop :=
  ∀ offset < length, words[start + offset]? = some 0

instance (words : List UInt16) (start length : Nat) : Decidable (IsZeroRun words start length) :=
  inferInstanceAs (Decidable (∀ offset < length, words[start + offset]? = some 0))

namespace IsZeroRun

variable {words : List UInt16} {start length : Nat}

theorem shorten {shorter : Nat} (run : IsZeroRun words start length) (fewer : shorter ≤ length) :
    IsZeroRun words start shorter :=
  fun offset within => run offset (Nat.lt_of_lt_of_le within fewer)

/-- A run of at least one word ends within the words. -/
theorem end_le (run : IsZeroRun words start length) (some : 0 < length) :
    start + length ≤ words.length := by
  have last := run (length - 1) (by omega)
  have within := (List.getElem?_eq_some_iff.mp last).1
  omega

theorem cons_succ_iff {word : UInt16} :
    IsZeroRun (word :: words) (start + 1) length ↔ IsZeroRun words start length := by
  unfold IsZeroRun
  simp only [Nat.add_right_comm start 1, List.getElem?_cons_succ]

/-- The leading zeros bound the runs that start at the first word. -/
theorem at_zero_iff : IsZeroRun words 0 length ↔ length ≤ leadingZeros words := by
  induction words generalizing length with
  | nil =>
      simp only [IsZeroRun, leadingZeros, List.getElem?_nil, List.takeWhile_nil, List.length_nil]
      constructor
      · intro run
        by_contra some
        cases run 0 (by omega)
      · intro none offset within
        omega
  | cons word words inductionHypothesis =>
      cases length with
      | zero => simp [IsZeroRun]
      | succ length =>
          have first : IsZeroRun (word :: words) 0 (length + 1) ↔
              word = 0 ∧ IsZeroRun words 0 length := by
            simp only [IsZeroRun, Nat.zero_add, Nat.forall_lt_succ_left, List.getElem?_cons_zero,
              Option.some.injEq, List.getElem?_cons_succ]
          rw [first, inductionHypothesis]
          by_cases zero : word = 0 <;> simp [leadingZeros, zero]

end IsZeroRun

/-- The leftmost of the longest runs of zero words. -/
structure IsLongestZeroRun (words : List UInt16) (start length : Nat) : Prop where
  zeros : IsZeroRun words start length
  longest : ∀ other otherLength, IsZeroRun words other otherLength → otherLength ≤ length
  leftmost : ∀ other, IsZeroRun words other length → start ≤ other

theorem IsLongestZeroRun.unique {words : List UInt16} {start length other otherLength : Nat}
    (run : IsLongestZeroRun words start length)
    (otherRun : IsLongestZeroRun words other otherLength) :
    start = other ∧ length = otherLength := by
  obtain rfl : length = otherLength :=
    Nat.le_antisymm (otherRun.longest start length run.zeros)
      (run.longest other otherLength otherRun.zeros)
  exact ⟨Nat.le_antisymm (run.leftmost other otherRun.zeros)
    (otherRun.leftmost start run.zeros), rfl⟩

theorem isLongestZeroRun_longestZeroRun (words : List UInt16) :
    IsLongestZeroRun words (longestZeroRun words).1 (longestZeroRun words).2 := by
  induction words with
  | nil =>
      refine ⟨IsZeroRun.at_zero_iff.mpr (Nat.zero_le _), ?_, fun other _ => Nat.zero_le other⟩
      intro other length run
      by_contra some
      cases run 0 (by simpa [longestZeroRun, Nat.pos_iff_ne_zero] using some)
  | cons word words inductionHypothesis =>
      obtain ⟨zeros, longest, leftmost⟩ := inductionHypothesis
      by_cases here : (longestZeroRun words).2 ≤ leadingZeros (word :: words)
      · rw [longestZeroRun_of_le here]
        refine ⟨IsZeroRun.at_zero_iff.mpr (Nat.le_refl _), ?_, fun other _ => Nat.zero_le other⟩
        intro other length run
        cases other with
        | zero => exact IsZeroRun.at_zero_iff.mp run
        | succ other => exact Nat.le_trans (longest other length (IsZeroRun.cons_succ_iff.mp run)) here
      · rw [longestZeroRun_of_not_le here]
        refine ⟨IsZeroRun.cons_succ_iff.mpr zeros, ?longest, ?leftmost⟩
        case longest =>
          intro other length run
          cases other with
          | zero => exact Nat.le_trans (IsZeroRun.at_zero_iff.mp run) (Nat.le_of_not_le here)
          | succ other => exact longest other length (IsZeroRun.cons_succ_iff.mp run)
        case leftmost =>
          intro other run
          cases other with
          | zero => exact absurd (IsZeroRun.at_zero_iff.mp run) here
          | succ other =>
              exact Nat.succ_le_succ (leftmost other (IsZeroRun.cons_succ_iff.mp run))

/-! ### The form of the text -/

/-- The words, each in least hexadecimal, with colons between them. -/
def JoinsWords (words : List UInt16) (text : List Char) : Prop :=
  ∃ fields, List.Forall₂ (fun word field => WritesHex word.toNat field) words fields ∧
    text = [':'].intercalate fields

/-- The text of words in which `::` stands for the leftmost longest run of two or more zero words,
if there is any. -/
inductive IsCanonical (words : List UInt16) : List Char → Prop where
  | shortened {start length before after} :
      IsLongestZeroRun words start length → 2 ≤ length →
      JoinsWords (words.take start) before →
      JoinsWords (words.drop (start + length)) after →
      IsCanonical words (before ++ [':', ':'] ++ after)
  | full {text} :
      (∀ start length, IsZeroRun words start length → length < 2) →
      JoinsWords words text → IsCanonical words text

theorem joinsWords_iff {words : List UInt16} {text : List Char} :
    JoinsWords words text ↔ text = groups words := by
  have written (fields : List (List Char)) :
      List.Forall₂ (fun word field => WritesHex word.toNat field) words fields ↔
        words.map (fun word => leastHex word.toNat) = fields := by
    rw [← List.forall₂_eq_eq_eq, List.forall₂_map_left_iff]
    simp only [writesHex_iff, eq_comm]
  simp only [JoinsWords, written, exists_eq_left', groups, joinWith_eq_intercalate]

/-- The text is cut at the leftmost longest run if that has two words or more. -/
theorem characters_of_run {address : Ipv6} {start length : Nat}
    (run : IsLongestZeroRun address.words start length) :
    address.characters =
      if 2 ≤ length then
        groups (address.words.take start) ++ [':', ':'] ++
          groups (address.words.drop (start + length))
      else
        groups address.words := by
  obtain ⟨rfl, rfl⟩ := run.unique (isLongestZeroRun_longestZeroRun address.words)
  rfl

/-- An address has one canonical text. -/
theorem isCanonical_iff {address : Ipv6} {text : List Char} :
    IsCanonical address.words text ↔ text = address.characters := by
  constructor
  · intro canonical
    cases canonical with
    | shortened run several before after =>
        rw [characters_of_run run, if_pos several, joinsWords_iff.mp before,
          joinsWords_iff.mp after]
    | full short joined =>
        have run := isLongestZeroRun_longestZeroRun address.words
        rw [characters_of_run run, if_neg (Nat.not_le.mpr (short _ _ run.zeros)),
          joinsWords_iff.mp joined]
  · rintro rfl
    have run := isLongestZeroRun_longestZeroRun address.words
    rw [characters_of_run run]
    by_cases several : 2 ≤ (longestZeroRun address.words).2
    · rw [if_pos several]
      exact .shortened run several (joinsWords_iff.mpr rfl) (joinsWords_iff.mpr rfl)
    · rw [if_neg several]
      refine .full (fun start length zeros => ?_) (joinsWords_iff.mpr rfl)
      exact Nat.lt_of_le_of_lt (run.longest start length zeros) (Nat.not_le.mp several)

/-! ### Colons -/

theorem cutAtElision?_eq_none_iff {text : List Char} :
    cutAtElision? text = none ↔ ¬ [':', ':'] <:+: text := by
  fun_induction cutAtElision? text with
  | case1 after => simp [List.infix_cons_iff]
  | case2 => simp
  | case3 character remaining other inductionHypothesis =>
      have elsewhere : ¬ [':', ':'] <+: character :: remaining := by
        rintro ⟨after, here⟩
        obtain ⟨rfl, rfl⟩ := List.cons.inj here
        exact other after rfl rfl
      rw [Option.map_eq_none_iff, inductionHypothesis, List.infix_cons_iff]
      simp [elsewhere]

/-- Colons stand one at a time between other characters. -/
structure IsSpaced (text : List Char) : Prop where
  first : text.head? ≠ some ':'
  last : text.getLast? ≠ some ':'
  single : ¬ [':', ':'] <:+: text

theorem isSpaced_groups (words : List UInt16) : IsSpaced (groups words) := by
  refine ⟨?first, ?last, ?single⟩
  case first =>
    cases words with
    | nil => simp [groups, joinWith]
    | cons word words =>
        obtain ⟨character, others, other, written⟩ := groups_cons word words
        simpa [written] using other
  case last =>
    induction words with
    | nil => simp [groups, joinWith]
    | cons word words inductionHypothesis =>
        cases words with
        | nil =>
            intro last
            exact not_mem_leastHex rfl word.toNat (List.mem_of_getLast? last)
        | cons next words =>
            have joined : groups (word :: next :: words) =
                leastHex word.toNat ++ ':' :: groups (next :: words) := rfl
            obtain ⟨character, others, -, written⟩ := groups_cons next words
            rw [written] at inductionHypothesis
            rw [joined, written, List.getLast?_append, List.getLast?_cons_cons]
            simpa using inductionHypothesis
  case single =>
    rw [← cutAtElision?_eq_none_iff]
    simpa [cutAtElision?] using cutAtElision?_groups words []

/-- Between texts with single colons there is one place for two. -/
theorem eq_of_elided {front back before after : List Char} (spacedFront : IsSpaced front)
    (spacedBack : IsSpaced back)
    (same : front ++ [':', ':'] ++ back = before ++ [':', ':'] ++ after) : before = front := by
  rw [List.append_assoc, List.append_assoc, List.append_eq_append_iff] at same
  rcases same with ⟨more, rfl, behind⟩ | ⟨more, rfl, behind⟩
  · cases more with
    | nil => simp
    | cons _ more =>
        obtain ⟨-, second⟩ := List.cons.inj behind
        cases more with
        | nil =>
            obtain ⟨-, rfl⟩ := List.cons.inj second
            exact absurd rfl spacedBack.first
        | cons _ more =>
            obtain ⟨-, rfl⟩ := List.cons.inj second
            exact absurd ⟨more, after, by simp⟩ spacedBack.single
  · cases more with
    | nil => simp
    | cons character more =>
        obtain ⟨rfl, second⟩ : ':' = character ∧ _ := List.cons.inj behind
        cases more with
        | nil => exact absurd (by simp) spacedFront.last
        | cons other more =>
            obtain ⟨rfl, -⟩ : ':' = other ∧ _ := List.cons.inj second
            exact absurd ⟨before, more, by simp⟩ spacedFront.single

/-- A text that is canonical has at most one `::`, and one exactly if two zero words are neighbours. -/
theorem IsCanonical.elision {words : List UInt16} {text : List Char}
    (canonical : IsCanonical words text) :
    (∀ before after other otherAfter, text = before ++ [':', ':'] ++ after →
      text = other ++ [':', ':'] ++ otherAfter → before = other) ∧
    ([':', ':'] <:+: text ↔ ∃ start, IsZeroRun words start 2) := by
  cases canonical with
  | shortened run several before after =>
      obtain rfl := joinsWords_iff.mp before
      obtain rfl := joinsWords_iff.mp after
      refine ⟨?_, iff_of_true ⟨_, _, rfl⟩ ⟨_, run.zeros.shorten several⟩⟩
      intro first behind second behindSecond cut cutSecond
      rw [eq_of_elided (isSpaced_groups _) (isSpaced_groups _) cut,
        eq_of_elided (isSpaced_groups _) (isSpaced_groups _) cutSecond]
  | full short joined =>
      obtain rfl := joinsWords_iff.mp joined
      have single := (isSpaced_groups words).single
      refine ⟨?_, iff_of_false single ?_⟩
      · intro before after _ _ cut _
        exact absurd ⟨before, after, cut.symm⟩ single
      · rintro ⟨start, run⟩
        exact Nat.lt_irrefl 2 (short start 2 run)

/-- What is written for an address is its canonical text and nothing else is. The text has at most
one `::`, never three colons in a row, and a `::` only if two neighbouring words are zero. The run
that it stands for lies within the eight words, and no part of the text is a dotted quad. -/
theorem canonical_text (address : Ipv6) :
    (∀ text, IsCanonical address.words text ↔ text = address.text.toList) ∧
      (∀ before after other otherAfter, address.text.toList = before ++ [':', ':'] ++ after →
        address.text.toList = other ++ [':', ':'] ++ otherAfter → before = other) ∧
      ¬ [':', ':', ':'] <:+: address.text.toList ∧
      ([':', ':'] <:+: address.text.toList ↔ ∃ start, IsZeroRun address.words start 2) ∧
      (longestZeroRun address.words).1 + (longestZeroRun address.words).2 ≤ 8 ∧
      '.' ∉ address.text.toList := by
  have written : address.text.toList = address.characters := String.toList_ofList
  rw [written]
  obtain ⟨once, elided⟩ := (isCanonical_iff.mpr rfl : IsCanonical address.words _).elision
  refine ⟨fun text => isCanonical_iff, once, ?triple, elided, ?within,
    not_mem_characters rfl (by decide) address⟩
  case triple =>
    -- Three colons would be two in two places.
    rintro ⟨before, after, cut⟩
    have same := once before (':' :: after) (before ++ [':']) after (by simp [← cut])
      (by simp [← cut])
    simp at same
  case within =>
    have run := isLongestZeroRun_longestZeroRun address.words
    by_cases some : 0 < (longestZeroRun address.words).2
    · exact address.length_words ▸ run.zeros.end_le some
    · have none : (longestZeroRun address.words).2 = 0 := Nat.eq_zero_of_not_pos some
      have first := run.leftmost 0 (by simp [none, IsZeroRun])
      omega

example : (⟨[1, 0, 0, 4, 5, 0, 0, 8], rfl⟩ : Ipv6).text = "1::4:5:0:0:8" := rfl

example : (⟨[0, 0, 0, 0, 0, 0xFFFF, 0xC000, 0x280], rfl⟩ : Ipv6).text = "::ffff:c000:280" := rfl

end NetInterface.Ipv6
