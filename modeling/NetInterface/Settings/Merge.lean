import NetInterface.CommandLine.Arguments
import NetInterface.Settings.Basic
import NetInterface.Settings.FileSettings

/-!
Settings from the command line and a configuration file.

The command line goes before the file and the file before the defaults. Patterns on the command
line replace those of the file, includes and excludes each on their own. A restriction holds if
either source sets it.
-/

namespace NetInterface

inductive MergeError where
  | invalidFormat (error : InvalidFormat)
  | invalidPattern (error : InvalidPattern)
deriving DecidableEq, Repr

def MergeError.message : MergeError → String
  | .invalidFormat error => error.message
  | .invalidPattern error =>
      "Invalid regex pattern '" ++ error.pattern ++ "': " ++ error.detail

namespace Settings

def mergeFormat (arguments : Arguments) (file : FileSettings) :
    Except InvalidFormat OutputFormat :=
  match arguments.explicitFormat, file.format with
  | some format, _ => .ok format
  | none, some text => OutputFormat.parse text
  | none, none => .ok .text

/-- The patterns of the command line, or those of the file if it has none. -/
def mergePatterns (arguments file : List String) : List String :=
  if arguments.isEmpty then file else arguments

/-- Excludes for the restrictions that either source sets. -/
def restrictions (arguments : Arguments) (file : FileSettings) : List Filter :=
  (if arguments.skipLoopback || file.skipLoopback then [.flags [.loopback]] else []) ++
    (if arguments.upOnly || file.upOnly then [.negation (.flags [.up])] else [])

def mergeFilter (read : PatternReader) (arguments : Arguments) (file : FileSettings) :
    Except InvalidPattern FilterChain := do
  let includes ← (mergePatterns arguments.includes file.includes).mapM (Filter.ofPattern read)
  let excludes ← (mergePatterns arguments.excludes file.excludes).mapM (Filter.ofPattern read)
  return ⟨includes, restrictions arguments file ++ excludes⟩

/-- The settings; without a file as if it set nothing. -/
def merge (read : PatternReader) (arguments : Arguments) (file : Option FileSettings) :
    Except MergeError Settings := do
  let file := file.getD .empty
  let format ← (mergeFormat arguments file).mapError .invalidFormat
  let filter ← (mergeFilter read arguments file).mapError .invalidPattern
  return {
    target := arguments.target.map Target.parse
    format := format
    filter := filter
    verbose := arguments.verbose }

end Settings

end NetInterface
