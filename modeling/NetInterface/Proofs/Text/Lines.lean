import Mathlib.Data.List.Forall2
import NetInterface.Proofs.Text.Digits
import NetInterface.Text.Split

/-!
Texts made of lines.

Lines that contain no line break are found again in the text that ends each of them with one. If the
first line of each section is marked and no other line is, the sections are found again as well.
-/

namespace NetInterface.Text

/-- What comes before a separator that it does not contain ends at the first separator. -/
theorem append_separator_inj {separator : Char} {first second rest remaining : List Char}
    (absent : separator ∉ first) (otherAbsent : separator ∉ second) :
    first ++ separator :: rest = second ++ separator :: remaining ↔
      first = second ∧ rest = remaining := by
  constructor
  · intro same
    have cut := congrArg (cut? separator) same
    rw [cut?_append_separator absent, cut?_append_separator otherAbsent] at cut
    exact Prod.mk.inj (Option.some.inj cut)
  · rintro ⟨rfl, rfl⟩
    rfl

/-- White space, as Unicode has it. -/
def isWhiteSpace (character : Char) : Bool :=
  [(0x9, 0xd), (0x20, 0x20), (0x85, 0x85), (0xa0, 0xa0), (0x1680, 0x1680), (0x2000, 0x200a),
    (0x2028, 0x2029), (0x202f, 0x202f), (0x205f, 0x205f), (0x3000, 0x3000)].any
    fun (first, last) => first ≤ character.toNat && character.toNat ≤ last

/-- A text without white space. -/
def IsSolid (text : String) : Prop :=
  ∀ character ∈ text.toList, isWhiteSpace character = false

instance (text : String) : Decidable (IsSolid text) :=
  decidable_of_iff (text.toList.all (!isWhiteSpace ·) = true) (by simp [IsSolid])

theorem IsSolid.not_mem {text : String} (solid : IsSolid text) {character : Char}
    (white : isWhiteSpace character = true) : character ∉ text.toList := by
  intro member
  cases white.symm.trans (solid character member)

/-- Whether a line begins with white space. -/
def isIndented (line : String) : Bool :=
  line.toList.head?.any isWhiteSpace

theorem isIndented_append {line : String} (nonempty : line ≠ "") (rest : String) :
    isIndented (line ++ rest) = isIndented line := by
  have characters : line.toList ≠ [] := by simpa using nonempty
  simp only [isIndented, String.toList_append]
  rw [List.head?_append_of_ne_nil _ characters]

theorem IsSolid.not_isIndented {line : String} (solid : IsSolid line) :
    isIndented line = false := by
  unfold isIndented
  cases first : line.toList.head? with
  | none => rfl
  | some character => exact solid character (List.mem_of_head? first)

/-! ### Line breaks -/

/-- A text without line breaks. -/
def Unbroken (text : String) : Prop :=
  '\n' ∉ text.toList

instance (text : String) : Decidable (Unbroken text) :=
  inferInstanceAs (Decidable ('\n' ∉ text.toList))

theorem IsSolid.unbroken {text : String} (solid : IsSolid text) : Unbroken text :=
  solid.not_mem (by decide)

@[simp]
theorem unbroken_append {first second : String} :
    Unbroken (first ++ second) ↔ Unbroken first ∧ Unbroken second := by
  simp [Unbroken, not_or]

theorem unbroken_join {texts : List String} (unbroken : ∀ text ∈ texts, Unbroken text) :
    Unbroken (String.join texts) := by
  unfold Unbroken
  rw [String.toList_join]
  intro member
  obtain ⟨text, among, inside⟩ := List.mem_flatMap.mp member
  exact unbroken text among inside

theorem unbroken_intercalate {separator : String} {texts : List String}
    (apart : Unbroken separator) (unbroken : ∀ text ∈ texts, Unbroken text) :
    Unbroken (String.intercalate separator texts) := by
  induction texts with
  | nil => simp [Unbroken]
  | cons text texts inductionHypothesis =>
      rw [List.forall_mem_cons] at unbroken
      cases texts with
      | nil => simpa using unbroken.1
      | cons other texts =>
          rw [String.intercalate_cons_cons, unbroken_append, unbroken_append]
          exact ⟨⟨unbroken.1, apart⟩, inductionHypothesis unbroken.2⟩

theorem unbroken_toString (number : Nat) : Unbroken (toString number) := by
  unfold Unbroken
  rw [Nat.toString_eq_repr, Nat.toList_repr]
  exact not_mem_toDigits (by decide) number

theorem unbroken_leastHex (number : Nat) : Unbroken (String.ofList (leastHex number)) := by
  unfold Unbroken
  rw [String.toList_ofList]
  exact not_mem_leastHex (by decide) number

/-- The text of lines, each of which ends with a line break. -/
def terminated (lines : List String) : String :=
  String.join (lines.map (· ++ "\n"))

theorem terminated_cons (line : String) (lines : List String) :
    terminated (line :: lines) = line ++ "\n" ++ terminated lines := by
  simp [terminated]

theorem toList_terminated_cons (line : String) (lines : List String) :
    (terminated (line :: lines)).toList = line.toList ++ '\n' :: (terminated lines).toList := by
  simp [terminated_cons]

theorem terminated_append (lines others : List String) :
    terminated (lines ++ others) = terminated lines ++ terminated others := by
  simp [terminated]

/-- The lines of a text that ends each of them with a line break. -/
def linesOf (text : String) : List String :=
  ((splitOn '\n' text.toList).dropLast).map String.ofList

/-- Lines are found again. -/
theorem linesOf_terminated {lines : List String} (unbroken : ∀ line ∈ lines, Unbroken line) :
    linesOf (terminated lines) = lines := by
  induction lines with
  | nil => rfl
  | cons line lines inductionHypothesis =>
      have whole : Unbroken line := unbroken line List.mem_cons_self
      have others := inductionHypothesis fun other member =>
        unbroken other (List.mem_cons_of_mem line member)
      unfold linesOf at others ⊢
      rw [toList_terminated_cons, splitOn_append_separator whole,
        List.dropLast_cons_of_ne_nil (splitOn_ne_nil _ _), List.map_cons, String.ofList_toList,
        others]

/-! ### Sections -/

section

variable {α β : Type} {marked : β → Bool} {first : α → β} {others : α → List β}

/-- Of a section only the first item is marked. -/
structure OpensWith (marked : β → Bool) (first : β) (others : List β) : Prop where
  first : marked first = true
  others : ∀ item ∈ others, marked item = false

theorem filter_sections {sections : List α}
    (opens : ∀ part ∈ sections, OpensWith marked (first part) (others part)) :
    (sections.flatMap fun part => first part :: others part).filter marked =
      sections.map first := by
  induction sections with
  | nil => rfl
  | cons part sections inductionHypothesis =>
      have here := opens part List.mem_cons_self
      have unmarked : (others part).filter marked = [] :=
        List.filter_eq_nil_iff.mpr fun item member => by simp [here.others item member]
      rw [List.flatMap_cons, List.filter_append, List.filter_cons_of_pos here.first, unmarked,
        inductionHypothesis fun other member => opens other (List.mem_cons_of_mem part member)]
      rfl

/-- A section ends where the next one opens. -/
theorem takeWhile_section {part : α} {sections : List α}
    (opens : OpensWith marked (first part) (others part))
    (further : ∀ part ∈ sections, OpensWith marked (first part) (others part)) :
    (others part ++ sections.flatMap fun part => first part :: others part).takeWhile
      (!marked ·) = others part := by
  rw [List.takeWhile_append_of_pos fun item member => by simp [opens.others item member]]
  cases sections with
  | nil => simp
  | cons next sections =>
      simp [(further next List.mem_cons_self).first]

/-- Sections are found again. -/
theorem forall₂_of_sections_eq {left right : List α}
    (opens : ∀ part ∈ left, OpensWith marked (first part) (others part))
    (otherOpens : ∀ part ∈ right, OpensWith marked (first part) (others part))
    (same : (left.flatMap fun part => first part :: others part) =
      right.flatMap fun part => first part :: others part) :
    List.Forall₂ (fun part other => first part = first other ∧ others part = others other)
      left right := by
  -- What follows a section begins with a marked item or is nothing, so the section can be cut off.
  induction left generalizing right with
  | nil =>
      cases right with
      | nil => exact .nil
      | cons other right => cases same
  | cons part left inductionHypothesis =>
      cases right with
      | nil => cases same
      | cons other right =>
          rw [List.forall_mem_cons] at opens otherOpens
          rw [List.flatMap_cons, List.flatMap_cons, List.cons_append, List.cons_append] at same
          obtain ⟨openings, rest⟩ := List.cons.inj same
          have alike : others part = others other := by
            rw [← takeWhile_section opens.1 opens.2, rest,
              takeWhile_section otherOpens.1 otherOpens.2]
          rw [alike] at rest
          exact .cons ⟨openings, alike⟩
            (inductionHypothesis opens.2 otherOpens.2 (List.append_cancel_left rest))

end

end NetInterface.Text
