import NetInterface.File.Tree
import NetInterface.Proofs.Attempts

/-!
What writing a file changes.

The view of a tree says what stands at each place: nothing, a directory, or a file with its octets.
A file that is written stands at its place, and at every other place the view is as before
(`Written`). So every path that could be walked is walked as before, and the path that was written
to leads to the file.
-/

namespace NetInterface

namespace FileNode

/-- What stands at a place, without what is below it. -/
inductive Kind where
  | directory
  | file (octets : List UInt8)
deriving DecidableEq

def kind : FileNode → Kind
  | .directory _ => .directory
  | .file octets => .file octets

/-- What stands at the end of a list of names, if anything does. -/
def kind? (node : FileNode) (names : List String) : Option Kind :=
  (node.descend? names).map kind

@[simp]
theorem kind?_nil (node : FileNode) : node.kind? [] = some node.kind := rfl

theorem kind?_cons (node : FileNode) (name : String) (names : List String) :
    node.kind? (name :: names) = (node.child? name).bind (·.kind? names) := by
  rw [kind?, descend?, Option.map_bind]
  rfl

theorem kind_of_child? {node child : FileNode} {name : String}
    (here : node.child? name = some child) : node.kind = .directory := by
  cases node with
  | file octets => simp [child?, entries] at here
  | directory entries => rfl

theorem isSome_descend?_iff {node : FileNode} {names : List String} :
    (node.descend? names).isSome = true ↔ node.kind? names ≠ none := by
  simp [kind?, Option.isSome_iff_ne_none]

theorem kind?_eq_directory_iff {node : FileNode} {names : List String} :
    node.kind? names = some .directory ↔
      ∃ entries, node.descend? names = some (.directory entries) := by
  unfold kind?
  cases node.descend? names with
  | none => simp
  | some reached => cases reached <;> simp [kind]

/-- A new file stands at its own place. -/
theorem kind?_put (node : FileNode) (octets : List UInt8) (names : List String) :
    (node.put (.file octets) names).kind? names = some (.file octets) := by
  rw [kind?, descend?_put]
  rfl

/-- Nothing is below a file. -/
theorem kind?_cons_of_ne_directory {node : FileNode} (other : node.kind ≠ .directory)
    (name : String) (names : List String) : node.kind? (name :: names) = none := by
  cases node with
  | file octets => simp [kind?_cons, child?, entries]
  | directory entries => exact absurd rfl other

theorem child?_put_self (node new : FileNode) (name : String) (names : List String) :
    (node.put new (name :: names)).child? name =
      some (((node.child? name).getD (.directory [])).put new names) := by
  simp only [put, child?, entries, find?_insertEntry_self, Option.map_some]

/-- A file that is put into a directory, where no directory is, changes no other place. -/
theorem kind?_put_of_ne {node : FileNode} {parent : List String} {name : String}
    (inside : node.kind? parent = some .directory)
    (vacant : node.kind? (parent ++ [name]) ≠ some .directory) (octets : List UInt8)
    {place : List String} (other : place ≠ parent ++ [name]) :
    (node.put (.file octets) (parent ++ [name])).kind? place = node.kind? place := by
  -- The induction follows the names that lead to the directory, and the other place with them.
  induction parent generalizing node place with
  | nil =>
      rw [List.nil_append] at vacant other ⊢
      cases place with
      | nil => exact inside.symm
      | cons first rest =>
          rw [kind?_cons, kind?_cons]
          by_cases same : first = name
          · subst same
            have below : rest ≠ [] := fun nothing => other (by rw [nothing])
            obtain ⟨second, names, rfl⟩ := List.exists_cons_of_ne_nil below
            have plain : (file octets).kind ≠ .directory := nofun
            rw [child?_put_self, put, Option.bind_some, kind?_cons_of_ne_directory plain]
            cases here : node.child? first with
            | none => rfl
            | some child =>
                rw [kind?_cons, here, Option.bind_some, kind?_nil] at vacant
                have unlisted : child.kind ≠ .directory := fun same => vacant (by rw [same])
                exact (kind?_cons_of_ne_directory unlisted second names).symm
          · rw [child?_put_of_ne same]
  | cons step parent inductionHypothesis =>
      rw [kind?_cons] at inside
      rw [List.cons_append] at vacant other ⊢
      rw [kind?_cons] at vacant
      obtain ⟨child, here, within⟩ := Option.bind_eq_some_iff.mp inside
      rw [here, Option.bind_some] at vacant
      cases place with
      | nil => rw [kind?_nil, kind?_nil, kind_of_child? here, put, kind]
      | cons first rest =>
          rw [kind?_cons, kind?_cons]
          by_cases same : first = step
          · subst same
            have further : rest ≠ parent ++ [name] := fun equal => other (by rw [equal])
            rw [child?_put_self, here, Option.getD_some, Option.bind_some, Option.bind_some]
            exact inductionHypothesis within vacant further
          · rw [child?_put_of_ne same]

end FileNode

namespace FileTree

/-- The trees differ only in the file that the path leads to, which has the given octets. -/
structure Written (before : FileTree) (path : Path) (octets : List UInt8) (after : FileTree) :
    Prop where
  working : after.working = before.working
  reaches : after.find path = .ok (.file octets)
  elsewhere : ∃ place, after.walk path path.fields = .ok place ∧
    after.root.kind? place = some (.file octets) ∧
      ∀ other ≠ place, after.root.kind? other = before.root.kind? other

/-- The ways in which a name leads on from a directory. -/
inductive Advance (root : FileNode) (here : List String) : String → List String → Prop
  | idle {name : String} (idle : name = "" ∨ name = ".") : Advance root here name here
  | back : Advance root here ".." here.dropLast
  | onward {name : String} (named : name ≠ "" ∧ name ≠ "." ∧ name ≠ "..")
      (short : name.utf8ByteSize ≤ maxName) (present : root.kind? (here ++ [name]) ≠ none) :
      Advance root here name (here ++ [name])

theorem Advance.eq_of_empty {root : FileNode} {here next : List String} {name : String}
    (advance : Advance root here name next) (empty : name = "") : next = here := by
  cases advance with
  | idle idle => rfl
  | back => exact absurd empty (by decide)
  | onward named short present => exact absurd empty named.1

theorem step_eq_ok_iff {root : FileNode} {here next : List String} {name : String} :
    step root here name = .ok next ↔
      root.kind? here = some .directory ∧ Advance root here name next := by
  rw [FileNode.kind?_eq_directory_iff]
  constructor
  · intro stepped
    unfold step at stepped
    split at stepped
    · next entries reached =>
      refine ⟨⟨entries, reached⟩, ?_⟩
      split at stepped
      · next idle =>
        cases stepped
        exact .idle idle
      · next busy =>
        split at stepped
        · next back =>
          cases stepped
          rw [back]
          exact .back
        · next forward =>
          split at stepped
          · cases stepped
          · next short =>
            split at stepped
            · next present =>
              cases stepped
              rw [not_or] at busy
              exact .onward ⟨busy.1, busy.2, forward⟩ (Nat.le_of_not_lt short)
                (FileNode.isSome_descend?_iff.mp present)
            · cases stepped
    · cases stepped
  · rintro ⟨⟨entries, reached⟩, advance⟩
    simp only [step, reached]
    cases advance with
    | idle idle => rw [if_pos idle]
    | back => rfl
    | onward named short present =>
        have busy : ¬ (name = "" ∨ name = ".") := not_or.mpr ⟨named.1, named.2.1⟩
        rw [if_neg busy, if_neg named.2.2, if_neg (Nat.not_lt.mpr short),
          if_pos (FileNode.isSome_descend?_iff.mpr present)]

section

variable {root after : FileNode} {place : List String}

/-- A new file where no directory was is in the way of no step that could be taken before. -/
theorem step_of_written (elsewhere : ∀ other ≠ place, after.kind? other = root.kind? other)
    (vacant : root.kind? place ≠ some .directory) (filled : after.kind? place ≠ none)
    {here next : List String} {name : String} (stepped : step root here name = .ok next) :
    step after here name = .ok next := by
  obtain ⟨reached, advance⟩ := step_eq_ok_iff.mp stepped
  have apart : here ≠ place := by
    rintro rfl
    exact vacant reached
  refine step_eq_ok_iff.mpr ⟨(elsewhere here apart).trans reached, ?_⟩
  cases advance with
  | idle idle => exact .idle idle
  | back => exact .back
  | onward named short present =>
      refine .onward named short ?_
      by_cases same : here ++ [name] = place
      · rwa [same]
      · rwa [elsewhere _ same]

theorem walk_of_written {tree : FileTree} {root : FileNode}
    (elsewhere : ∀ other ≠ place, root.kind? other = tree.root.kind? other)
    (vacant : tree.root.kind? place ≠ some .directory) (filled : root.kind? place ≠ none)
    {path : Path} {names : List String} {reached : List String}
    (walked : tree.walk path names = .ok reached) :
    ({ tree with root } : FileTree).walk path names = .ok reached := by
  unfold walk at walked ⊢
  generalize (if path.isAbsolute = true then [] else tree.working) = here at walked ⊢
  induction names generalizing here with
  | nil => exact walked
  | cons name names inductionHypothesis =>
      rw [List.foldlM_cons] at walked ⊢
      cases stepped : step tree.root here name with
      | error error =>
          rw [stepped] at walked
          cases walked
      | ok next =>
          rw [stepped] at walked
          rw [step_of_written elsewhere vacant filled stepped]
          exact inductionHypothesis next walked

end

theorem checked_eq_ok {path other : Path} (passed : checked path = .ok other) : other = path := by
  unfold checked at passed
  split at passed
  · cases passed
  · split at passed
    · cases passed
    · split at passed
      · cases passed
      · exact (Except.ok.inj passed).symm

/-- An empty name at the end asks for a directory and leads nowhere. -/
theorem walk_append_empty {tree : FileTree} {path : Path} {names reached : List String}
    (walked : tree.walk path (names ++ [""]) = .ok reached) :
    tree.walk path names = .ok reached ∧ tree.root.kind? reached = some .directory := by
  unfold walk at walked ⊢
  rw [List.foldlM_append, bind_eq_ok_iff] at walked
  obtain ⟨place, walked, stepped⟩ := walked
  rw [List.foldlM_cons, bind_eq_ok_iff] at stepped
  obtain ⟨next, stepped, rest⟩ := stepped
  obtain rfl := Except.ok.inj rest
  obtain ⟨reached, advance⟩ := step_eq_ok_iff.mp stepped
  obtain rfl := advance.eq_of_empty rfl
  exact ⟨walked, reached⟩

/-- A file is written into a directory, with a name that no directory there has. -/
theorem write_eq_ok {tree after : FileTree} {path : Path} {octets : List UInt8}
    (written : tree.write path octets = .ok after) :
    ∃ before name parent, checked path = .ok path ∧ path.fields = before ++ [name] ∧
      (name ≠ "" ∧ name ≠ "." ∧ name ≠ "..") ∧ name.utf8ByteSize ≤ maxName ∧
      tree.walk path before = .ok parent ∧ tree.root.kind? parent = some .directory ∧
      tree.root.kind? (parent ++ [name]) ≠ some .directory ∧
      after = { tree with root := tree.root.put (.file octets) (parent ++ [name]) } := by
  obtain ⟨checkedPath, passed, further⟩ := bind_eq_ok_iff.mp written
  obtain rfl := (checked_eq_ok passed).symm
  dsimp only at further
  split at further
  · cases further
  · next name before named =>
    obtain ⟨parent, walked, placed⟩ := bind_eq_ok_iff.mp further
    obtain ⟨walked, inside⟩ := walk_append_empty (mapError_eq_ok_iff.mp walked)
    split at placed
    · cases placed
    · next ending =>
      split at placed
      · cases placed
      · next short =>
        split at placed
        · cases placed
        · next vacant =>
          simp only [not_or, ne_eq, Classical.not_not] at ending
          obtain ⟨plain, unidle, forward⟩ := ending
          have backward : path.fields.reverse = name :: before := by
            rw [← named]
            exact (List.takeWhile_append_dropWhile).symm.trans (by rw [plain, List.nil_append])
          have fields : path.fields = before.reverse ++ [name] := by
            rw [← List.reverse_eq_iff.mpr backward.symm, List.reverse_cons]
          have nonempty : name ≠ "" := by
            rintro rfl
            rw [backward] at plain
            cases plain
          refine ⟨before.reverse, name, parent, passed, fields, ⟨nonempty, unidle, forward⟩,
            Nat.le_of_not_lt short, walked, inside, ?_, (Except.ok.inj placed).symm⟩
          intro there
          obtain ⟨entries, reached⟩ := FileNode.kind?_eq_directory_iff.mp there
          exact vacant (by rw [reached]; rfl)

/-- A file that was written is found where its path leads, and nothing else has changed. -/
theorem written_of_write {tree after : FileTree} {path : Path} {octets : List UInt8}
    (written : tree.write path octets = .ok after) : Written tree path octets after := by
  obtain ⟨before, name, parent, passed, fields, named, short, walked, inside, vacant, rfl⟩ :=
    write_eq_ok written
  have filled := FileNode.kind?_put tree.root octets (parent ++ [name])
  have elsewhere : ∀ other ≠ parent ++ [name],
      (tree.root.put (.file octets) (parent ++ [name])).kind? other = tree.root.kind? other :=
    fun other apart => FileNode.kind?_put_of_ne inside vacant octets apart
  have present : (tree.root.put (.file octets) (parent ++ [name])).kind? (parent ++ [name]) ≠
      none := by
    rw [filled]
    exact nofun
  have here : parent ≠ parent ++ [name] := by simp
  have stepped : step (tree.root.put (.file octets) (parent ++ [name])) parent name =
      .ok (parent ++ [name]) :=
    step_eq_ok_iff.mpr ⟨(elsewhere parent here).trans inside, .onward named short present⟩
  have leads : ({ tree with root := tree.root.put (.file octets) (parent ++ [name]) } :
      FileTree).walk path path.fields = .ok (parent ++ [name]) := by
    have reached := walk_of_written elsewhere vacant present walked
    unfold walk at reached ⊢
    rw [fields, List.foldlM_append, reached]
    refine bind_eq_ok_iff.mpr ⟨parent, rfl, ?_⟩
    rw [List.foldlM_cons]
    exact bind_eq_ok_iff.mpr ⟨_, stepped, rfl⟩
  refine ⟨rfl, ?_, parent ++ [name], leads, filled, elsewhere⟩
  refine bind_eq_ok_iff.mpr ⟨path, passed, bind_eq_ok_iff.mpr
    ⟨parent ++ [name], mapError_eq_ok_iff.mpr leads, ?_⟩⟩
  rw [FileNode.descend?_put]

end FileTree

end NetInterface
