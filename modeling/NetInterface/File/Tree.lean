import NetInterface.File.Path
import NetInterface.Native.SystemError
import NetInterface.Text.Utf8

/-!
A tree of directories and files.

A path is followed name by name from the root or from the working directory. Each name before the
last must lead to a directory. Writing creates or replaces a file, but no directory.
-/

namespace NetInterface

inductive FileError where
  | system (error : SystemError)
  /-- A path with a zero character cannot be handed to the system. -/
  | zeroInPath
  /-- The content is not well-formed text. -/
  | notText
deriving DecidableEq, Repr

def FileError.message : FileError → String
  | .system error => error.message
  | .zeroInPath => "file name contained an unexpected NUL byte"
  | .notText => "stream did not contain valid UTF-8"

inductive FileNode where
  | file (octets : List UInt8)
  /-- The entries of a directory, in the order of their names. -/
  | directory (entries : List (String × FileNode))

namespace FileNode

def isDirectory : FileNode → Bool
  | .directory _ => true
  | .file _ => false

def entries : FileNode → List (String × FileNode)
  | .directory entries => entries
  | .file _ => []

def child? (node : FileNode) (name : String) : Option FileNode :=
  (node.entries.find? (·.1 = name)).map (·.2)

/-- The node at the end of a list of names. -/
def descend? (node : FileNode) : List String → Option FileNode
  | [] => some node
  | name :: names => (node.child? name).bind (·.descend? names)

/-- The entries with one more, which replaces an entry of the same name. -/
def insertEntry (name : String) (node : FileNode) :
    List (String × FileNode) → List (String × FileNode)
  | [] => [(name, node)]
  | (other, content) :: entries =>
      if name = other then (name, node) :: entries
      else if name < other then (name, node) :: (other, content) :: entries
      else (other, content) :: insertEntry name node entries

theorem find?_insertEntry_self (name : String) (node : FileNode)
    (entries : List (String × FileNode)) :
    (insertEntry name node entries).find? (·.1 = name) = some (name, node) := by
  induction entries with
  | nil => simp [insertEntry]
  | cons entry entries inductionHypothesis =>
      obtain ⟨other, content⟩ := entry
      by_cases same : name = other
      · simp [insertEntry, same]
      · have differs : other ≠ name := fun equal => same equal.symm
        by_cases before : name < other
        · simp [insertEntry, same, before]
        · simp [insertEntry, same, before, differs, inductionHypothesis]

theorem find?_insertEntry_of_ne {name wanted : String} (differs : wanted ≠ name)
    (node : FileNode) (entries : List (String × FileNode)) :
    (insertEntry name node entries).find? (·.1 = wanted) = entries.find? (·.1 = wanted) := by
  have notInserted : name ≠ wanted := fun equal => differs equal.symm
  induction entries with
  | nil => simp [insertEntry, notInserted]
  | cons entry entries inductionHypothesis =>
      obtain ⟨other, content⟩ := entry
      by_cases same : name = other
      · subst same
        simp [insertEntry, notInserted]
      · by_cases before : name < other
        · simp [insertEntry, same, before, notInserted]
        · simp [insertEntry, same, before, List.find?_cons, inductionHypothesis]

/-- The tree with a node put at the end of a list of names; missing directories are created. -/
def put (node new : FileNode) : List String → FileNode
  | [] => new
  | name :: names =>
      let child := (node.child? name).getD (.directory [])
      .directory (insertEntry name (child.put new names) node.entries)

/-- What was put is found where it was put. -/
theorem descend?_put (node new : FileNode) (names : List String) :
    (node.put new names).descend? names = some new := by
  induction names generalizing node with
  | nil => rfl
  | cons name names inductionHypothesis =>
      simp only [put, descend?, child?, entries, find?_insertEntry_self, Option.map_some,
        Option.bind_some]
      exact inductionHypothesis _

/-- What lies under another name of the same directory stays as it was. -/
theorem child?_put_of_ne {name wanted : String} (differs : wanted ≠ name) (node new : FileNode)
    (names : List String) : (node.put new (name :: names)).child? wanted = node.child? wanted := by
  simp only [put, child?, entries]
  rw [find?_insertEntry_of_ne differs]

mutual

/-- All files with the names that lead to them, directory by directory. -/
def files : FileNode → List (List String × List UInt8)
  | .file octets => [([], octets)]
  | .directory entries => entryFiles entries

def entryFiles : List (String × FileNode) → List (List String × List UInt8)
  | [] => []
  | (name, node) :: entries =>
      (files node).map (fun (names, octets) => (name :: names, octets)) ++ entryFiles entries

end

end FileNode

structure FileTree where
  root : FileNode
  /-- The names that lead from the root to the working directory. -/
  working : List String

namespace FileTree

/-- The number of octets of the longest name that an entry can have. -/
def maxName : Nat := 255

/-- The number of octets of the longest path that the system follows. -/
def maxPath : Nat := 4095

/-- From a directory along one name, which may be idle or lead back. -/
def step (root : FileNode) (here : List String) (name : String) :
    Except SystemError (List String) :=
  match root.descend? here with
  | some (.directory _) =>
      if name = "" ∨ name = "." then .ok here
      else if name = ".." then .ok here.dropLast
      else if maxName < name.utf8ByteSize then .error .nameTooLong
      else if (root.descend? (here ++ [name])).isSome then .ok (here ++ [name])
      else .error .noEntry
  | _ => .error .notDirectory

def walk (tree : FileTree) (path : Path) (names : List String) :
    Except SystemError (List String) :=
  names.foldlM (step tree.root) (if path.isAbsolute then [] else tree.working)

/-- A path must name something, be of moderate length and hold no zero character. -/
def checked (path : Path) : Except FileError Path :=
  if path.text.toList.contains '\x00' then .error .zeroInPath
  else if path.text = "" then .error (.system .noEntry)
  else if maxPath < path.text.utf8ByteSize then .error (.system .nameTooLong)
  else .ok path

def find (tree : FileTree) (path : Path) : Except FileError FileNode := do
  let path ← checked path
  let place ← (tree.walk path path.fields).mapError .system
  match tree.root.descend? place with
  | some node => .ok node
  | none => .error (.system .noEntry)

/-- Whether a path leads to a file that is no directory. -/
def isFile (tree : FileTree) (path : Path) : Bool :=
  match tree.find path with
  | .ok (.file _) => true
  | _ => false

/-- The content of a file as text. -/
def readText (tree : FileTree) (path : Path) : Except FileError String := do
  match ← tree.find path with
  | .directory _ => .error (.system .isDirectory)
  | .file octets =>
      match Text.Utf8.text? octets with
      | some text => .ok text
      | none => .error .notText

/-- The tree with a file written. A path that ends in a slash or a dot names a directory. -/
def write (tree : FileTree) (path : Path) (octets : List UInt8) : Except FileError FileTree := do
  let path ← checked path
  let ending := path.fields.reverse.takeWhile (· = "")
  match path.fields.reverse.dropWhile (· = "") with
  | [] => .error (.system .isDirectory)
  | name :: before =>
      let parent ← (tree.walk path (before.reverse ++ [""])).mapError .system
      if ending ≠ [] ∨ name = "." ∨ name = ".." then .error (.system .isDirectory)
      else if maxName < name.utf8ByteSize then .error (.system .nameTooLong)
      else
        let place := parent ++ [name]
        if (tree.root.descend? place).any FileNode.isDirectory then
          .error (.system .isDirectory)
        else
          .ok { tree with root := tree.root.put (.file octets) place }

/-- The files below the working directory with their paths from there. -/
def files (tree : FileTree) : List (Path × List UInt8) :=
  (((tree.root.descend? tree.working).map FileNode.files).getD []).map fun (names, octets) =>
    (⟨String.intercalate "/" names⟩, octets)

end FileTree

end NetInterface
