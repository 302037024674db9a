import NetInterface.Application.Run
import NetInterface.Browser.Program
import NetInterface.Native.KernelFiles
import NetInterface.Pattern.Meaning

/-!
The command line program: reads the surroundings, runs and reports.
-/

namespace NetInterface.Main

/-- The text of a file; empty if it cannot be read. -/
def readText (path : String) : IO String := do
  try
    let content ← IO.FS.readBinFile path
    return Text.Utf8.lossyText content.data.toList
  catch _ =>
    return ""

def readLink (name : String) : IO KernelFiles.Link := do
  let base := "/sys/class/net/" ++ name ++ "/"
  return KernelFiles.link name (← readText (base ++ "ifindex")) (← readText (base ++ "flags"))
    (← readText (base ++ "type")) (← readText (base ++ "address"))
    (← readText (base ++ "operstate"))

def readSource : IO Source := do
  let links ← (KernelFiles.interfaceNames (← readText "/proc/net/dev")).mapM readLink
  let routeTree ← readText "/proc/net/fib_trie"
  let routeTable ← readText "/proc/net/route"
  let inet6 ← readText "/proc/net/if_inet6"
  return (KernelFiles.table links routeTree routeTable inet6).source

/-- What is at a path. A failure to read what exists is taken for that of a directory. -/
def readNode (path : String) : IO (Option FileNode) := do
  try
    let content ← IO.FS.readBinFile path
    return some (.file content.data.toList)
  catch failure =>
    match failure with
    | .noFileOrDirectory _ _ _ => return none
    | _ => return some (.directory [])

def names (path : String) : List String :=
  (Path.mk path).fields.filter fun name => name ≠ "" && name ≠ "."

/-- The tree with what is at a path, seen from the working directory. -/
def addPath (tree : FileTree) (path : Path) : IO FileTree := do
  let place := if path.isAbsolute then names path.text else tree.working ++ names path.text
  match ← readNode path.text with
  | some node => return { tree with root := tree.root.put node place }
  | none => return tree

def readTree : IO FileTree := do
  let working := names (toString (← IO.currentDir))
  return ⟨(FileNode.directory []).put (.directory []) working, working⟩

def nonempty (text : Option String) : Option Path :=
  (text.filter (· ≠ "")).map Path.mk

/-- The directory that a path is in; the working directory if it names none. -/
def parent (path : Path) : Path :=
  ⟨String.intercalate "/" (path.fields.dropLast ++ [""])⟩

/-- The paths that a run may read or write. -/
def relevantPaths (environment : Environment) (arguments : Arguments) : List Path :=
  let written := arguments.initOutput.toList.map environment.expand
  written.map parent ++ written ++ (arguments.settingsFile.map environment.expand).toList ++
    environment.userSettings?.toList

def readEnvironment (arguments : Arguments) : IO Environment := do
  let environment : Environment :=
    { home := nonempty (← IO.getEnv "HOME")
      configHome := nonempty (← IO.getEnv "XDG_CONFIG_HOME")
      tree := ← readTree }
  let tree ← (relevantPaths environment arguments).foldlM addPath environment.tree
  return { environment with tree := tree }

/-- Writes the file that the run has put into the tree. -/
def writeBack (environment : Environment) (conclusion : Conclusion) (path : Path) : IO Unit := do
  if conclusion.status = .success then
    match conclusion.tree.readText (environment.expand path) with
    | .ok text => IO.FS.writeFile (environment.expand path).text text
    | .error _ => return

def carryOut (arguments : Arguments) : IO UInt32 := do
  let environment ← readEnvironment arguments
  let conclusion := Application.run Pattern.read environment (← readSource) arguments
  arguments.initOutput.forM (writeBack environment conclusion)
  let output ← IO.getStdout
  output.write ⟨conclusion.output.toArray⟩
  output.flush
  IO.eprint (Notice.texts arguments.verbose conclusion.notices)
  return UInt32.ofNat conclusion.status.code

end NetInterface.Main

open NetInterface in
def main (arguments : List String) : IO UInt32 := do
  match CommandLine.parse arguments with
  | .error error =>
      if error.isAsked then IO.print error.message else IO.eprint error.message
      return UInt32.ofNat error.exitCode
  | .ok arguments => Main.carryOut arguments
