/-!
Texts cut at a separator, and fields joined with one.

Cutting at every occurrence and joining again are inverse to each other as long as no field
contains the separator.
-/

namespace NetInterface.Text

/-- The fields between the occurrences of the separator; an empty text is one empty field. -/
def splitOn (separator : Char) : List Char → List (List Char)
  | [] => [[]]
  | character :: remaining =>
      if character = separator then
        [] :: splitOn separator remaining
      else
        match splitOn separator remaining with
        | [] => [[character]]
        | field :: fields => (character :: field) :: fields

/-- The fields in order, one separator between neighbours. -/
def joinWith (separator : Char) : List (List Char) → List Char
  | [] => []
  | [field] => field
  | field :: fields => field ++ separator :: joinWith separator fields

/-- The text before and after the first occurrence of the separator, if it occurs. -/
def cut? (separator : Char) : List Char → Option (List Char × List Char)
  | [] => none
  | character :: remaining =>
      if character = separator then
        some ([], remaining)
      else
        (cut? separator remaining).map fun (before, after) => (character :: before, after)

@[simp]
theorem splitOn_ne_nil (separator : Char) (text : List Char) : splitOn separator text ≠ [] := by
  cases text with
  | nil => simp [splitOn]
  | cons character remaining =>
      simp only [splitOn]
      split
      · simp
      · split <;> simp

theorem joinWith_splitOn (separator : Char) (text : List Char) :
    joinWith separator (splitOn separator text) = text := by
  induction text with
  | nil => rfl
  | cons character remaining inductionHypothesis =>
      simp only [splitOn]
      split
      · rename_i isSeparator
        cases fields : splitOn separator remaining with
        | nil => exact absurd fields (splitOn_ne_nil separator remaining)
        | cons field others =>
            rw [fields] at inductionHypothesis
            simp [joinWith, inductionHypothesis, isSeparator]
      · cases fields : splitOn separator remaining with
        | nil => exact absurd fields (splitOn_ne_nil separator remaining)
        | cons field others =>
            rw [fields] at inductionHypothesis
            cases others with
            | nil => simpa [joinWith] using inductionHypothesis
            | cons other rest => simpa [joinWith] using inductionHypothesis

theorem joinWith_eq_intercalate (separator : Char) (fields : List (List Char)) :
    joinWith separator fields = [separator].intercalate fields := by
  induction fields with
  | nil => rfl
  | cons field others inductionHypothesis =>
      cases others with
      | nil => simp [joinWith]
      | cons other rest => simp [joinWith, List.intercalate_cons_cons, inductionHypothesis]

theorem map_joinWith (change : Char → Char) (separator : Char) (fields : List (List Char)) :
    (joinWith separator fields).map change =
      joinWith (change separator) (fields.map (List.map change)) := by
  induction fields with
  | nil => rfl
  | cons field others inductionHypothesis =>
      cases others with
      | nil => rfl
      | cons other rest =>
          rw [List.map_cons] at inductionHypothesis
          simp only [joinWith, List.map_append, List.map_cons, inductionHypothesis]

theorem splitOn_of_not_mem {separator : Char} {field : List Char}
    (absent : separator ∉ field) : splitOn separator field = [field] := by
  induction field with
  | nil => rfl
  | cons character remaining inductionHypothesis =>
      simp only [List.mem_cons, not_or] at absent
      simp [splitOn, Ne.symm absent.1, inductionHypothesis absent.2]

/-- A text is cut at a separator and in the parts before and after it. -/
theorem splitOn_append_cons (separator : Char) (front back : List Char) :
    splitOn separator (front ++ separator :: back) =
      splitOn separator front ++ splitOn separator back := by
  induction front with
  | nil => simp [splitOn]
  | cons character others inductionHypothesis =>
      rw [List.cons_append, splitOn, splitOn, inductionHypothesis]
      split
      · rfl
      · cases fields : splitOn separator others with
        | nil => exact absurd fields (splitOn_ne_nil separator others)
        | cons field rest => rfl

theorem splitOn_append_separator {separator : Char} {field : List Char}
    (absent : separator ∉ field) (remaining : List Char) :
    splitOn separator (field ++ separator :: remaining) =
      field :: splitOn separator remaining := by
  rw [splitOn_append_cons, splitOn_of_not_mem absent, List.singleton_append]

theorem not_mem_of_mem_splitOn {separator : Char} {text field : List Char}
    (member : field ∈ splitOn separator text) : separator ∉ field := by
  induction text generalizing field with
  | nil =>
      obtain rfl := List.mem_singleton.mp member
      exact List.not_mem_nil
  | cons character others inductionHypothesis =>
      rw [splitOn] at member
      split at member
      · rcases List.mem_cons.mp member with rfl | inOthers
        · exact List.not_mem_nil
        · exact inductionHypothesis inOthers
      · next other =>
        cases fields : splitOn separator others with
        | nil => exact absurd fields (splitOn_ne_nil separator others)
        | cons first rest =>
            rw [fields] at inductionHypothesis member
            rcases List.mem_cons.mp member with rfl | inRest
            · exact List.not_mem_cons_of_ne_of_not_mem (Ne.symm other)
                (inductionHypothesis List.mem_cons_self)
            · exact inductionHypothesis (List.mem_cons_of_mem first inRest)

theorem splitOn_joinWith {separator : Char} {fields : List (List Char)}
    (nonempty : fields ≠ []) (absent : ∀ field ∈ fields, separator ∉ field) :
    splitOn separator (joinWith separator fields) = fields := by
  induction fields with
  | nil => exact absurd rfl nonempty
  | cons field others inductionHypothesis =>
      cases others with
      | nil => exact splitOn_of_not_mem (absent field (by simp))
      | cons other rest =>
          simp only [joinWith]
          rw [splitOn_append_separator (absent field (by simp)),
            inductionHypothesis (by simp) fun each membership =>
              absent each (List.mem_cons_of_mem field membership)]

/-- Items are read from the fields that were written for them. -/
theorem mapM_splitOn_joinWith {α : Type} {write : α → List Char} {read : List Char → Option α}
    {separator : Char} {items : List α} (nonempty : items ≠ [])
    (absent : ∀ item, separator ∉ write item) (reads : ∀ item, read (write item) = some item) :
    (splitOn separator (joinWith separator (items.map write))).mapM read = some items := by
  have apart : ∀ field ∈ items.map write, separator ∉ field := by
    intro field member
    obtain ⟨item, -, rfl⟩ := List.mem_map.mp member
    exact absent item
  have fields (items : List α) : (items.map write).mapM read = some items := by
    induction items with
    | nil => rfl
    | cons item items inductionHypothesis => simp [List.mapM_cons, reads, inductionHypothesis]
  rw [splitOn_joinWith (by simpa using nonempty) apart, fields]

theorem cut?_eq_none_iff {separator : Char} {text : List Char} :
    cut? separator text = none ↔ separator ∉ text := by
  induction text with
  | nil => simp [cut?]
  | cons character remaining inductionHypothesis =>
      by_cases isSeparator : character = separator
      · simp [cut?, isSeparator]
      · simp [cut?, isSeparator, inductionHypothesis, Ne.symm isSeparator]

theorem cut?_append_separator {separator : Char} {before : List Char}
    (absent : separator ∉ before) (after : List Char) :
    cut? separator (before ++ separator :: after) = some (before, after) := by
  induction before with
  | nil => simp [cut?]
  | cons character others inductionHypothesis =>
      simp only [List.mem_cons, not_or] at absent
      simp [cut?, Ne.symm absent.1, inductionHypothesis absent.2]

theorem cut?_eq_some_iff {separator : Char} {text before after : List Char} :
    cut? separator text = some (before, after) ↔
      text = before ++ separator :: after ∧ separator ∉ before := by
  constructor
  · intro cut
    induction text generalizing before with
    | nil => cases cut
    | cons character remaining inductionHypothesis =>
        unfold cut? at cut
        split at cut
        · next isSeparator =>
          cases cut
          exact ⟨by rw [isSeparator]; rfl, List.not_mem_nil⟩
        · next other =>
          obtain ⟨⟨front, back⟩, further, same⟩ := Option.map_eq_some_iff.mp cut
          cases same
          obtain ⟨rfl, absent⟩ := inductionHypothesis further
          exact ⟨rfl, List.not_mem_cons_of_ne_of_not_mem (Ne.symm other) absent⟩
  · rintro ⟨rfl, absent⟩
    exact cut?_append_separator absent after

theorem mem_joinWith {separator character : Char} {fields : List (List Char)}
    (membership : character ∈ joinWith separator fields) :
    character = separator ∨ ∃ field ∈ fields, character ∈ field := by
  induction fields with
  | nil => simp [joinWith] at membership
  | cons field others inductionHypothesis =>
      cases others with
      | nil => exact .inr ⟨field, by simp, membership⟩
      | cons other rest =>
          simp only [joinWith, List.mem_append, List.mem_cons] at membership
          rcases membership with inField | isSeparator | inRest
          · exact .inr ⟨field, by simp, inField⟩
          · exact .inl isSeparator
          · rcases inductionHypothesis inRest with isSeparator | ⟨each, member, inEach⟩
            · exact .inl isSeparator
            · exact .inr ⟨each, List.mem_cons_of_mem field member, inEach⟩

/-- A character of a text is the separator or stands in one of the fields. -/
theorem mem_splitOn {separator character : Char} {text : List Char} (member : character ∈ text) :
    character = separator ∨ ∃ field ∈ splitOn separator text, character ∈ field := by
  rw [← joinWith_splitOn separator text] at member
  exact mem_joinWith member

end NetInterface.Text
