import Mathlib.Data.List.DropRight
import NetInterface.File.Path

/-!
Paths as sequences of components.

A path is told by where it starts and by the names that lead on from there. Slashes in a row, dots
between slashes and slashes at the end are no components. A path seen from another one goes on where
the other ends (`components_join`), and the expansion of a tilde is a matter of components alone: a
first component that is a tilde gives way to those of the home directory, and the others stay
(`components_expandHome`).
-/

namespace NetInterface.Path

open Text

/-- What a path is made of. -/
inductive Component where
  | root
  /-- A dot at the beginning of a relative path. -/
  | here
  | parent
  | name (name : String)
deriving DecidableEq

namespace Component

def ofField (field : List Char) : Component :=
  if field = ['.', '.'] then .parent else .name (String.ofList field)

/-- Where a path starts, if it says so. -/
def start (text : List Char) : List Component :=
  if text.head? = some '/' then [.root]
  else if (splitOn '/' text).head? = some ['.'] then [.here]
  else []

/-- The components for the fields of a path that lead somewhere. -/
def ofFields (fields : List (List Char)) : List Component :=
  (fields.filter (!isIdle ·)).map ofField

/-- The components of the text of a path. -/
def ofText (text : List Char) : List Component :=
  start text ++ ofFields (splitOn '/' text)

theorem ofFields_append (front back : List (List Char)) :
    ofFields (front ++ back) = ofFields front ++ ofFields back := by
  rw [ofFields, List.filter_append, List.map_append]
  rfl

theorem head?_splitOn_append_cons (front back : List Char) :
    (splitOn '/' (front ++ '/' :: back)).head? = (splitOn '/' front).head? := by
  rw [splitOn_append_cons, List.head?_append_of_ne_nil _ (splitOn_ne_nil '/' front)]

/-- What follows a slash is of no matter for the start. -/
theorem start_append_cons (front back : List Char) :
    start (front ++ '/' :: back) = start (front ++ ['/']) := by
  have first : (front ++ '/' :: back).head? = (front ++ ['/']).head? := by
    cases front <;> rfl
  rw [start, start, first, head?_splitOn_append_cons, head?_splitOn_append_cons]

/-- A path whose first field leads somewhere starts where it is followed from. -/
theorem start_of_busy {text first : List Char} {others : List (List Char)}
    (fields : splitOn '/' text = first :: others) (busy : isIdle first = false) :
    start text = [] := by
  have unslashed : text.head? ≠ some '/' := by
    intro slash
    obtain ⟨rest, rfl⟩ := List.head?_eq_some_iff.mp slash
    rw [splitOn, if_pos rfl] at fields
    cases fields
    cases busy
  have undotted : (splitOn '/' text).head? ≠ some ['.'] := by
    rw [fields]
    rintro ⟨⟩
    cases busy
  rw [start, if_neg unslashed, if_neg undotted]

/-- What follows a slash adds the components of its fields. -/
theorem ofText_append_cons (front back : List Char) :
    ofText (front ++ '/' :: back) = ofText (front ++ ['/']) ++ ofFields (splitOn '/' back) := by
  have nothing : ofFields (splitOn '/' []) = [] := rfl
  rw [ofText, ofText, start_append_cons, splitOn_append_cons, splitOn_append_cons, ofFields_append,
    ofFields_append, nothing, List.append_nil, List.append_assoc]

/-- A slash at the end is no component unless it is all of the path. -/
theorem ofText_append_slash {front : List Char} (nonempty : front ≠ []) :
    ofText (front ++ ['/']) = ofText front := by
  have same : start (front ++ ['/']) = start front := by
    rw [start, start, List.head?_append_of_ne_nil _ nonempty, head?_splitOn_append_cons]
  have nothing : ofFields (splitOn '/' []) = [] := rfl
  rw [ofText, ofText, same, splitOn_append_cons, ofFields_append, nothing, List.append_nil]

end Component

open Component

def components (path : Path) : List Component :=
  ofText path.text.toList

/-! ### One path as seen from another -/

theorem isAbsolute_of_unstarted {path : Path} (unstarted : start path.text.toList = []) :
    path.isAbsolute = false := by
  rw [start] at unstarted
  split at unstarted
  · cases unstarted
  · next relative => exact decide_eq_false relative

/-- A path without a start of its own goes on where the other path ends. -/
theorem components_join {base path : Path} (unstarted : start path.text.toList = []) :
    (base.join path).components = base.components ++ path.components := by
  have onward : path.components = ofFields (splitOn '/' path.text.toList) := by
    rw [components, ofText, unstarted, List.nil_append]
  rw [onward, join, if_neg (by simp [isAbsolute_of_unstarted unstarted])]
  rcases List.eq_nil_or_concat' base.text.toList with empty | ⟨front, last, ended⟩
  · have vacant : base.components = [] := by
      rw [components, empty]
      rfl
    rw [if_pos (by rw [empty]; rfl), components, String.toList_append, empty, List.nil_append,
      vacant, ← onward]
    rfl
  · have final : base.text.toList.getLast?.getD '/' = last := by
      rw [ended, List.getLast?_concat, Option.getD_some]
    rw [final]
    split
    · next slash =>
      rw [components, components, String.toList_append, ended, slash, List.append_assoc,
        List.singleton_append, ofText_append_cons]
    · have nonempty : base.text.toList ≠ [] := by simp [ended]
      rw [components, components, String.toList_append, String.toList_append, List.append_assoc,
        ← ofText_append_slash nonempty]
      exact ofText_append_cons _ _

theorem isAbsolute_join {base path : Path} (unstarted : start path.text.toList = []) :
    (base.join path).isAbsolute = base.isAbsolute := by
  have relative := isAbsolute_of_unstarted unstarted
  rw [join, if_neg (by simp [relative])]
  cases written : base.text.toList with
  | nil => simpa [isAbsolute, written] using relative
  | cons first rest => split <;> simp [isAbsolute, written]

/-! ### The home directory in place of a tilde -/

theorem filter_dropWhile_isIdle (names : List (List Char)) :
    (names.dropWhile isIdle).filter (!isIdle ·) = names.filter (!isIdle ·) := by
  induction names with
  | nil => rfl
  | cons name names inductionHypothesis =>
      by_cases idle : isIdle name = true
      · simp [idle, inductionHypothesis]
      · simp [idle]

theorem filter_trim (names : List (List Char)) :
    (trim names).filter (!isIdle ·) = names.filter (!isIdle ·) := by
  rw [trim, List.filter_reverse, filter_dropWhile_isIdle, List.filter_reverse,
    List.reverse_reverse, filter_dropWhile_isIdle]

theorem trim_eq_rdropWhile (names : List (List Char)) :
    trim names = (names.dropWhile isIdle).rdropWhile isIdle := rfl

/-- A name that is left at the beginning leads somewhere. -/
theorem isIdle_of_trim {names others : List (List Char)} {first : List Char}
    (cut : trim names = first :: others) : isIdle first = false := by
  obtain ⟨back, whole⟩ := List.rdropWhile_prefix isIdle (l := names.dropWhile isIdle)
  have kept := List.head?_dropWhile_not isIdle names
  rw [← whole, ← trim_eq_rdropWhile, cut] at kept
  exact kept

theorem mem_of_mem_trim {names : List (List Char)} {name : List Char} (member : name ∈ trim names) :
    name ∈ names := by
  rw [trim_eq_rdropWhile] at member
  exact List.dropWhile_subset isIdle ((List.rdropWhile_prefix isIdle _).subset member)

section

variable {names : List (List Char)} (plain : ∀ name ∈ names, '/' ∉ name)
include plain

theorem splitOn_trim {first : List Char} {others : List (List Char)}
    (cut : trim names = first :: others) :
    splitOn '/' (joinWith '/' (trim names)) = first :: others := by
  rw [splitOn_joinWith (by simp [cut]) fun name member => plain name (mem_of_mem_trim member), cut]

/-- The names that are left lead where all of them do. -/
theorem ofFields_trim :
    ofFields (splitOn '/' (joinWith '/' (trim names))) = ofFields names := by
  have same : ofFields (trim names) = ofFields names := by rw [ofFields, filter_trim, ofFields]
  rw [← same]
  cases cut : trim names with
  | nil => rfl
  | cons first others => rw [← cut, splitOn_trim plain cut, cut]

theorem start_trim : start (joinWith '/' (trim names)) = [] := by
  cases cut : trim names with
  | nil => rfl
  | cons first others =>
      rw [← cut]
      exact start_of_busy (splitOn_trim plain cut) (isIdle_of_trim cut)

end

theorem components_of_fields {path : Path} {first : List Char} {others : List (List Char)}
    (fields : splitOn '/' path.text.toList = first :: others) (busy : isIdle first = false) :
    path.components = ofField first :: ofFields others := by
  rw [components, ofText, start_of_busy fields busy, fields, List.nil_append, ofFields,
    List.filter_cons_of_pos (by simp [busy])]
  rfl

/-- If the first component is a name, the first field is that name. -/
theorem exists_fields_of_name {path : Path} {name : String}
    (first : path.components.head? = some (.name name)) :
    ∃ others, splitOn '/' path.text.toList = name.toList :: others := by
  cases fields : splitOn '/' path.text.toList with
  | nil => exact absurd fields (splitOn_ne_nil '/' _)
  | cons field others =>
      cases busy : isIdle field with
      | false =>
          rw [components_of_fields fields busy, List.head?_cons, ofField] at first
          split at first
          · cases first
          · cases first
            exact ⟨others, by rw [String.toList_ofList]⟩
      | true =>
          -- An idle first field is no name: it is the root, a dot or all of an empty text.
          have whole := joinWith_splitOn '/' path.text.toList
          rw [fields] at whole
          rw [components, ofText, start, fields] at first
          split at first
          · cases first
          · next relative =>
            split at first
            · cases first
            · next undotted =>
              have empty : field = [] := by
                simp only [List.head?_cons, Option.some.injEq] at undotted
                simpa [isIdle, undotted] using busy
              obtain rfl := empty
              cases others with
              | nil => cases first
              | cons next rest => exact absurd (by rw [← whole]; rfl) relative

section

variable {path : Path} (tilde : path.components.head? = some (.name "~"))
include tilde

/-- With a tilde at the beginning the path is seen from the home directory. -/
theorem exists_expandHome (home : Path) :
    ∃ rest : Path, path.expandHome home = home.join rest ∧ start rest.text.toList = [] ∧
      path.components = .name "~" :: rest.components := by
  obtain ⟨names, fields⟩ := exists_fields_of_name tilde
  have plain : ∀ name ∈ names, '/' ∉ name := by
    intro name member
    apply not_mem_of_mem_splitOn
    rw [fields]
    exact List.mem_cons_of_mem _ member
  let rest : Path := ⟨String.ofList (joinWith '/' (trim names))⟩
  have written : rest.text.toList = joinWith '/' (trim names) := String.toList_ofList
  refine ⟨rest, ?_, ?_, ?_⟩
  · rw [expandHome, fields]
    rfl
  · rw [written, start_trim plain]
  · have onward : rest.components = ofFields names := by
      rw [components, written, ofText, start_trim plain, List.nil_append, ofFields_trim plain]
    rw [components_of_fields fields rfl, onward]
    rfl

/-- The components of the home directory stand in place of a first component that is a tilde. -/
theorem components_expandHome (home : Path) :
    (path.expandHome home).components = home.components ++ path.components.tail := by
  obtain ⟨rest, expanded, unstarted, parts⟩ := exists_expandHome tilde home
  rw [expanded, components_join unstarted, parts, List.tail_cons]

theorem isAbsolute_expandHome (home : Path) :
    (path.expandHome home).isAbsolute = home.isAbsolute := by
  obtain ⟨rest, expanded, unstarted, -⟩ := exists_expandHome tilde home
  rw [expanded, isAbsolute_join unstarted]

end

/-- Without a tilde as its first component a path stays as it is. -/
theorem expandHome_of_head?_ne {path : Path} (home : Path)
    (other : path.components.head? ≠ some (.name "~")) : path.expandHome home = path := by
  rw [expandHome]
  split
  · next names fields =>
    apply absurd _ other
    rw [components_of_fields fields rfl]
    rfl
  · rfl

/-- Only a tilde that stands alone is the home directory. -/
example : expandHome ⟨"~//./a"⟩ ⟨"/home/ana"⟩ = ⟨"/home/ana/a"⟩ ∧
    expandHome ⟨"~ana/a"⟩ ⟨"/home/ana"⟩ = ⟨"~ana/a"⟩ := by
  decide +kernel

/-! ### The configuration file of a user -/

theorem head?_components_of_isAbsolute {path : Path} (absolute : path.isAbsolute = true) :
    path.components.head? = some .root := by
  rw [components, ofText, start, if_pos (of_decide_eq_true absolute)]
  rfl

/-- The configuration of a user is below the home directory or below a directory from the root. -/
theorem head?_components_configurationDirectory (home : Path) (stated : Option Path) :
    (configurationDirectory home stated).components.head? = some .root ∨
      (configurationDirectory home stated).components = home.components ++ [.name ".config"] := by
  have below : (home.join ⟨".config"⟩).components = home.components ++ [.name ".config"] :=
    components_join rfl
  unfold configurationDirectory
  cases stated with
  | none => exact .inr below
  | some directory =>
      dsimp only
      split
      · next absolute => exact .inl (head?_components_of_isAbsolute absolute)
      · exact .inr below

theorem components_userSettings (home : Path) (stated : Option Path) :
    (userSettings home stated).components =
      (configurationDirectory home stated).components ++
        [.name "ifbrowse", .name "ifbrowse.toml"] := by
  rw [userSettings, components_join rfl, components_join rfl, List.append_assoc]
  rfl

/-- The file of a user is where it is said to be, unless the home directory begins with a tilde. -/
theorem expandHome_userSettings {home : Path} {stated : Option Path}
    (other : home.components.head? ≠ some (.name "~")) :
    (userSettings home stated).expandHome home = userSettings home stated := by
  apply expandHome_of_head?_ne
  rw [components_userSettings]
  rcases head?_components_configurationDirectory home stated with root | below
  · rw [List.head?_append, root]
    exact nofun
  · rw [below, List.append_assoc, List.head?_append]
    cases first : home.components.head? with
    | none => simp
    | some component => rwa [first] at other

end NetInterface.Path
