import NetInterface.Json.Value
import NetInterface.Proofs.Text.Digits

/-!
Documents are told apart by their texts.

The first character of a text tells the kind of the document. A number goes on to the first
character that is no digit, a string to its closing quote, and behind each item stands a comma or,
after blanks only, the closing bracket. So a text that starts with a document starts with no other,
and a layout that breaks lines with blanks never writes two documents alike.
-/

namespace NetInterface.Json

open Text

/-- Induction over documents with one hypothesis for all items and one for all values of members. -/
@[elab_as_elim]
theorem induction {motive : Json → Prop} (null : motive .null)
    (number : ∀ value, motive (.number value)) (string : ∀ value, motive (.string value))
    (array : ∀ items, (∀ item ∈ items, motive item) → motive (.array items))
    (object : ∀ members, (∀ member ∈ members, motive member.2) → motive (.object members))
    (document : Json) : motive document :=
  @Json.rec motive (fun items => ∀ item ∈ items, motive item)
    (fun members => ∀ member ∈ members, motive member.2) (fun member => motive member.2)
    null number string array object
    (fun _ => nofun) (fun _ _ first others => List.forall_mem_cons.mpr ⟨first, others⟩)
    (fun _ => nofun) (fun _ _ first others => List.forall_mem_cons.mpr ⟨first, others⟩)
    (fun _ _ value => value) document

/-! ### Strings -/

/-- The character that is written behind a backslash at the front of the text, and what follows. -/
def escape? : List Char → Option (Char × List Char)
  | 'u' :: _ :: _ :: high :: low :: rest =>
      some (.ofNat (16 * (hexValue? high).getD 0 + (hexValue? low).getD 0), rest)
  | 'b' :: rest => some ('\x08', rest)
  | 'f' :: rest => some ('\x0c', rest)
  | 'n' :: rest => some ('\n', rest)
  | 'r' :: rest => some ('\r', rest)
  | 't' :: rest => some ('\t', rest)
  | other :: rest => some (other, rest)
  | [] => none

/-- The first character of a string whose inside starts here, and what follows it. -/
def unescape? : List Char → Option (Char × List Char)
  | [] => none
  | character :: rest =>
      if character = '"' then none
      else if character = '\\' then escape? rest
      else some (character, rest)

theorem unescape?_escaped (character : Char) (rest : List Char) :
    unescape? (escaped character ++ rest) = some (character, rest) := by
  unfold escaped
  split
  -- The last case is that of the characters without a letter of their own.
  case h_8 quote backslash _ _ _ _ _ =>
    split
    · have high : hexValue? (character.toNat / 16).digitChar = some (character.toNat / 16) :=
        hexValue?_digitChar (by omega)
      have low : hexValue? (character.toNat % 16).digitChar = some (character.toNat % 16) :=
        hexValue?_digitChar (by omega)
      simp [unescape?, escape?, high, low, Nat.div_add_mod]
    · rw [List.singleton_append, unescape?, if_neg quote, if_neg backslash]
  all_goals rfl

theorem flatMap_escaped_separates {characters others rest remaining : List Char}
    (written : characters.flatMap escaped ++ '"' :: rest =
      others.flatMap escaped ++ '"' :: remaining) :
    characters = others ∧ rest = remaining := by
  have read := congrArg unescape? written
  induction characters generalizing others with
  | nil =>
      cases others with
      | nil => simpa using written
      | cons other others =>
          rw [List.flatMap_cons, List.append_assoc, unescape?_escaped] at read
          simp [unescape?] at read
  | cons character characters inductionHypothesis =>
      rw [List.flatMap_cons, List.append_assoc, unescape?_escaped] at read
      cases others with
      | nil => simp [unescape?] at read
      | cons other others =>
          rw [List.flatMap_cons, List.append_assoc, unescape?_escaped] at read
          obtain ⟨rfl, further⟩ := Prod.mk.inj (Option.some.inj read)
          obtain ⟨rfl, rest⟩ := inductionHypothesis further (congrArg unescape? further)
          exact ⟨rfl, rest⟩

/-- A string ends at its first quote that is not escaped. -/
theorem quoted_separates {text other : String} {rest remaining : List Char}
    (written : quoted text ++ rest = quoted other ++ remaining) :
    text = other ∧ rest = remaining := by
  simp only [quoted, List.cons_append, List.append_assoc, List.nil_append] at written
  obtain ⟨characters, rest⟩ := flatMap_escaped_separates (List.cons.inj written).2
  exact ⟨String.toList_inj.mp characters, rest⟩

/-! ### Numbers -/

/-- What follows a number: nothing that could belong to it. -/
def Ends (rest : List Char) : Prop :=
  ∀ character ∈ rest.head?, character.isDigit = false

theorem takeWhile_toDigits_append (value : Nat) {rest : List Char} (ends : Ends rest) :
    (Nat.toDigits 10 value ++ rest).takeWhile Char.isDigit = Nat.toDigits 10 value := by
  have digits : ∀ character ∈ Nat.toDigits 10 value, character.isDigit = true := fun character =>
    Nat.isDigit_of_mem_toDigits (by decide) (by decide)
  rw [List.takeWhile_append_of_pos digits]
  cases rest with
  | nil => simp
  | cons character rest => simp [ends character rfl]

theorem number_separates {value other : Nat} {rest remaining : List Char} (ends : Ends rest)
    (otherEnds : Ends remaining)
    (written : Nat.toDigits 10 value ++ rest = Nat.toDigits 10 other ++ remaining) :
    value = other ∧ rest = remaining := by
  have digits : Nat.toDigits 10 value = Nat.toDigits 10 other := by
    rw [← takeWhile_toDigits_append value ends, written, takeWhile_toDigits_append other otherEnds]
  have same : value = other := by
    rw [← Nat.ofDigitChars_ten_toDigits (n := value), digits, Nat.ofDigitChars_ten_toDigits]
  exact ⟨same, List.append_cancel_left (digits ▸ written)⟩

/-! ### Kinds -/

inductive Kind where
  | null
  | number
  | string
  | array
  | object

def kind : Json → Kind
  | .null => .null
  | .number _ => .number
  | .string _ => .string
  | .array _ => .array
  | .object _ => .object

/-- The kind of the documents whose texts start with the character. -/
def Kind.ofFirst? (character : Char) : Option Kind :=
  if character.isDigit then some .number
  else
    match character with
    | 'n' => some .null
    | '"' => some .string
    | '[' => some .array
    | '\x7b' => some .object
    | _ => none

theorem render_first (layout : Layout) (depth : Nat) (document : Json) :
    ∃ first others, document.render layout depth = first :: others ∧
      Kind.ofFirst? first = some document.kind := by
  cases document with
  | null => exact ⟨'n', ['u', 'l', 'l'], rfl, rfl⟩
  | number value =>
      obtain ⟨first, others, written⟩ :=
        List.exists_cons_of_ne_nil (Nat.toDigits_ne_nil : Nat.toDigits 10 value ≠ [])
      have digit : first.isDigit = true :=
        Nat.isDigit_of_mem_toDigits (by decide) (by decide) (written ▸ List.mem_cons_self)
      exact ⟨first, others, by rw [render, written], by simp [Kind.ofFirst?, digit, kind]⟩
  | string value => exact ⟨'"', _, rfl, rfl⟩
  | array items =>
      cases items with
      | nil => exact ⟨'[', [']'], by rw [render], rfl⟩
      | cons item items => exact ⟨'[', _, by rw [render]; rfl, rfl⟩
  | object members =>
      cases members with
      | nil => exact ⟨'\x7b', ['\x7d'], by rw [render], rfl⟩
      | cons member members => exact ⟨'\x7b', _, by rw [render]; rfl, rfl⟩

theorem kind_eq_of_render_append {layout : Layout} {depth : Nat} {document other : Json}
    {rest remaining : List Char}
    (written : document.render layout depth ++ rest = other.render layout depth ++ remaining) :
    document.kind = other.kind := by
  obtain ⟨first, others, rendered, kind⟩ := render_first layout depth document
  obtain ⟨otherFirst, otherOthers, otherRendered, otherKind⟩ := render_first layout depth other
  rw [rendered, otherRendered] at written
  obtain ⟨rfl, -⟩ := List.cons.inj written
  exact Option.some.inj (kind.symm.trans otherKind)

/-! ### Items between brackets -/

/-- A text that starts with what is written of the item starts so with nothing else, as long as no
digits follow. -/
def Separates {α : Type} (write : α → List Char) (item : α) : Prop :=
  ∀ {other rest remaining}, Ends rest → Ends remaining →
    write item ++ rest = write other ++ remaining → item = other ∧ rest = remaining

/-- A bracket that closes. -/
def Closing (character : Char) : Prop :=
  character = ']' ∨ character = '\x7d'

namespace Layout

/-- Lines are broken with blanks only. -/
def Blank (layout : Layout) : Prop :=
  ∀ depth, ∀ character ∈ layout.lineBreak depth, character.isWhitespace

theorem blank_compact : compact.Blank := by
  simp [Blank, compact]

theorem blank_indented : indented.Blank := by
  intro depth character member
  rcases List.mem_cons.mp member with rfl | space
  · rfl
  · rw [List.eq_of_mem_replicate space]
    rfl

theorem Blank.first {layout : Layout} (blank : layout.Blank) {depth : Nat} {character first : Char}
    {rest others : List Char}
    (written : layout.lineBreak depth ++ character :: rest = first :: others) :
    first.isWhitespace ∨ first = character := by
  cases broken : layout.lineBreak depth with
  | nil =>
      rw [broken] at written
      exact .inr (List.cons.inj written).1.symm
  | cons space spaces =>
      rw [broken] at written
      obtain ⟨rfl, -⟩ := List.cons.inj written
      exact .inl (blank depth space (broken ▸ List.mem_cons_self))

variable {α : Type}

/-- What is written behind an item: the further items, the closing bracket and the rest. -/
def behind (layout : Layout) (depth : Nat) (close : Char) (write : α → List Char) (items : List α)
    (rest : List Char) : List Char :=
  (items.flatMap fun item => ',' :: layout.lineBreak (depth + 1) ++ write item) ++
    layout.lineBreak depth ++ close :: rest

/-- Items between brackets, and the rest. -/
def bracketed (layout : Layout) (depth : Nat) (opening close : Char) (write : α → List Char) :
    List α → List Char → List Char
  | [], rest => opening :: close :: rest
  | item :: items, rest =>
      opening :: layout.lineBreak (depth + 1) ++ write item ++
        layout.behind depth close write items rest

section

variable {layout : Layout} {depth : Nat} {close : Char} {write : α → List Char}

theorem behind_cons (item : α) (items : List α) (rest : List Char) :
    layout.behind depth close write (item :: items) rest =
      ',' :: (layout.lineBreak (depth + 1) ++
        (write item ++ layout.behind depth close write items rest)) := by
  simp [behind]

variable (blank : layout.Blank) (closing : Closing close)
include blank closing

theorem ends_behind (items : List α) (rest : List Char) :
    Ends (layout.behind depth close write items rest) := by
  intro character first
  cases items with
  | nil =>
      obtain ⟨others, written⟩ := List.head?_eq_some_iff.mp first
      rcases blank.first written with space | rfl
      · simp only [Char.isWhitespace, decide_eq_true_eq, Bool.or_eq_true] at space
        rcases space with ((rfl | rfl) | rfl) | rfl <;> rfl
      · rcases closing with rfl | rfl <;> rfl
  | cons item items =>
      rw [behind_cons] at first
      obtain rfl := Option.some.inj first
      rfl

theorem behind_separates {items others : List α} {rest remaining : List Char}
    (separates : ∀ item ∈ items, Separates write item)
    (written : layout.behind depth close write items rest =
      layout.behind depth close write others remaining) :
    items = others ∧ rest = remaining := by
  have ended (rest others : List Char) :
      layout.lineBreak depth ++ close :: rest ≠ ',' :: others := by
    intro written
    rcases blank.first written with space | rfl
    · exact absurd space (by decide)
    · rcases closing with isClosing | isClosing <;> exact absurd isClosing (by decide)
  induction items generalizing others with
  | nil =>
      cases others with
      | nil =>
          have further : close :: rest = close :: remaining := List.append_cancel_left written
          exact ⟨rfl, (List.cons.inj further).2⟩
      | cons other others =>
          rw [behind_cons] at written
          exact absurd written (ended rest _)
  | cons item items inductionHypothesis =>
      rw [behind_cons] at written
      cases others with
      | nil => exact absurd written.symm (ended remaining _)
      | cons other others =>
          rw [behind_cons] at written
          have begun := List.append_cancel_left (List.cons.inj written).2
          obtain ⟨rfl, further⟩ := separates item List.mem_cons_self
            (ends_behind blank closing items rest) (ends_behind blank closing others remaining)
            begun
          obtain ⟨rfl, rest⟩ := inductionHypothesis
            (fun item member => separates item (List.mem_cons_of_mem _ member)) further
          exact ⟨rfl, rest⟩

theorem bracketed_separates {opening : Char} {items others : List α} {rest remaining : List Char}
    (starts : ∀ item, ∃ first others, write item = first :: others ∧ ¬ Closing first)
    (separates : ∀ item ∈ items, Separates write item)
    (written : layout.bracketed depth opening close write items rest =
      layout.bracketed depth opening close write others remaining) :
    items = others ∧ rest = remaining := by
  -- An item is told from a closing bracket by its first character.
  have nonempty (item : α) (rest others : List Char) :
      layout.lineBreak (depth + 1) ++ (write item ++ rest) ≠ close :: others := by
    intro written
    obtain ⟨first, following, begun, other⟩ := starts item
    rw [begun] at written
    rcases blank.first written with space | rfl
    · rcases closing with rfl | rfl <;> exact absurd space (by decide)
    · exact other closing
  cases items with
  | nil =>
      cases others with
      | nil => exact ⟨rfl, by simpa [bracketed] using written⟩
      | cons other others =>
          simp only [bracketed, List.cons_append, List.append_assoc] at written
          exact absurd (List.cons.inj written).2.symm (nonempty other _ rest)
  | cons item items =>
      cases others with
      | nil =>
          simp only [bracketed, List.cons_append, List.append_assoc] at written
          exact absurd (List.cons.inj written).2 (nonempty item _ remaining)
      | cons other others =>
          simp only [bracketed, List.cons_append, List.append_assoc] at written
          have further := (List.cons.inj written).2
          exact behind_separates blank closing separates (by rw [behind_cons, behind_cons, further])

end

end Layout

/-! ### Documents -/

theorem renderItems_eq (layout : Layout) (depth : Nat) (items : List Json) :
    renderItems layout depth items =
      items.flatMap fun item => ',' :: layout.lineBreak depth ++ render layout depth item := by
  induction items with
  | nil => rfl
  | cons item items inductionHypothesis => rw [renderItems, inductionHypothesis, List.flatMap_cons]

theorem renderMembers_eq (layout : Layout) (depth : Nat) (members : List (String × Json)) :
    renderMembers layout depth members =
      members.flatMap fun member =>
        ',' :: layout.lineBreak depth ++ renderMember layout depth member := by
  induction members with
  | nil => rfl
  | cons member members inductionHypothesis =>
      rw [renderMembers, inductionHypothesis, List.flatMap_cons]

theorem render_array_append (layout : Layout) (depth : Nat) (items : List Json)
    (rest : List Char) :
    render layout depth (.array items) ++ rest =
      layout.bracketed depth '[' ']' (render layout (depth + 1)) items rest := by
  cases items with
  | nil => rfl
  | cons item items => simp [render, renderItems_eq, Layout.bracketed, Layout.behind]

theorem render_object_append (layout : Layout) (depth : Nat) (members : List (String × Json))
    (rest : List Char) :
    render layout depth (.object members) ++ rest =
      layout.bracketed depth '\x7b' '\x7d' (renderMember layout (depth + 1)) members rest := by
  cases members with
  | nil => rfl
  | cons member members => simp [render, renderMembers_eq, Layout.bracketed, Layout.behind]

variable {layout : Layout}

theorem renderMember_separates {depth : Nat} {member : String × Json}
    (separates : Separates (render layout depth) member.2) :
    Separates (renderMember layout depth) member := by
  rintro ⟨otherName, otherValue⟩ rest remaining ends otherEnds written
  obtain ⟨name, value⟩ := member
  simp only [renderMember, List.append_assoc] at written
  obtain ⟨rfl, further⟩ := quoted_separates written
  obtain ⟨rfl, rest⟩ := separates ends otherEnds (List.append_cancel_left further)
  exact ⟨rfl, rest⟩

theorem renderMember_not_closing (depth : Nat) (member : String × Json) :
    ∃ first others, renderMember layout depth member = first :: others ∧ ¬ Closing first :=
  ⟨'"', _, by rw [renderMember]; rfl, by simp [Closing]⟩

theorem render_not_closing (depth : Nat) (document : Json) :
    ∃ first others, document.render layout depth = first :: others ∧ ¬ Closing first := by
  obtain ⟨first, others, written, kind⟩ := render_first layout depth document
  refine ⟨first, others, written, ?_⟩
  rintro (rfl | rfl) <;> cases kind

/-- A text that starts with a document starts with no other document. -/
theorem render_separates (blank : layout.Blank) (document : Json) (depth : Nat) :
    Separates (render layout depth) document := by
  induction document using induction generalizing depth with
  | null =>
      intro other rest remaining _ _ written
      cases other <;> cases kind_eq_of_render_append written
      exact ⟨rfl, List.append_cancel_left written⟩
  | number value =>
      intro other rest remaining ends otherEnds written
      cases other <;> cases kind_eq_of_render_append written
      obtain ⟨rfl, rest⟩ := number_separates ends otherEnds written
      exact ⟨rfl, rest⟩
  | string value =>
      intro other rest remaining _ _ written
      cases other <;> cases kind_eq_of_render_append written
      obtain ⟨rfl, rest⟩ := quoted_separates written
      exact ⟨rfl, rest⟩
  | array items inductionHypothesis =>
      intro other rest remaining _ _ written
      cases other <;> cases kind_eq_of_render_append written
      rw [render_array_append, render_array_append] at written
      obtain ⟨rfl, rest⟩ := Layout.bracketed_separates blank (.inl rfl)
        (render_not_closing (depth + 1))
        (fun item member => inductionHypothesis item member (depth + 1)) written
      exact ⟨rfl, rest⟩
  | object members inductionHypothesis =>
      intro other rest remaining _ _ written
      cases other <;> cases kind_eq_of_render_append written
      rw [render_object_append, render_object_append] at written
      obtain ⟨rfl, rest⟩ := Layout.bracketed_separates blank (.inr rfl)
        (renderMember_not_closing (depth + 1))
        (fun member inside =>
          renderMember_separates (inductionHypothesis member inside (depth + 1)))
        written
      exact ⟨rfl, rest⟩

theorem render_injective (blank : layout.Blank) (depth : Nat) :
    Function.Injective (render layout depth) := by
  intro document other written
  have ends : Ends [] := by simp [Ends]
  exact (render_separates blank document depth ends ends (by simpa using written)).1

theorem compact_injective : Function.Injective compact := fun _ _ written =>
  render_injective Layout.blank_compact 0 (String.ofList_injective written)

theorem indented_injective : Function.Injective indented := fun _ _ written =>
  render_injective Layout.blank_indented 0 (String.ofList_injective written)

end NetInterface.Json
