import NetInterface.CommandLine.Scan
import NetInterface.File.Path
import NetInterface.Settings.Format

/-!
The command line of the program.

Without a command the program shows interfaces. The command `init` writes a configuration file and
`help` explains a command. Options before `init` are read and checked as well.
-/

namespace NetInterface

structure Arguments where
  /-- The configuration file that `init` is to write. -/
  initOutput : Option Path
  target : Option String
  format : Option OutputFormat
  json : Bool
  includes : List String
  excludes : List String
  skipLoopback : Bool
  upOnly : Bool
  settingsFile : Option Path
  verbose : Bool
deriving DecidableEq, Repr

namespace Arguments

/-- The format that the command line asks for. -/
def explicitFormat (arguments : Arguments) : Option OutputFormat :=
  if arguments.json then some .json else arguments.format

end Arguments

namespace CommandLine

inductive Argument where
  | target
  | format
  | json
  | includes
  | excludes
  | skipLoopback
  | upOnly
  | settingsFile
  | verbose
  | help
  | version
deriving DecidableEq, Repr

/-- The formats as the command line writes them, in lower case only. -/
def formats : List (String × OutputFormat) :=
  [("text", .text), ("json", .json)]

def format? (text : String) : Option OutputFormat :=
  (formats.find? (·.1 = text)).map (·.2)

def isPath (text : String) : Bool :=
  text ≠ ""

def isAnything (_text : String) : Bool :=
  true

def showGrammar : Grammar Argument where
  options :=
    [⟨.format, some "format", none, .value (fun text => (format? text).isSome) false⟩,
     ⟨.json, some "json", none, .flag⟩,
     ⟨.includes, some "include", none, .value isAnything true⟩,
     ⟨.excludes, some "exclude", none, .value isAnything true⟩,
     ⟨.skipLoopback, some "skip-loopback", none, .flag⟩,
     ⟨.upOnly, some "up-only", none, .flag⟩,
     ⟨.settingsFile, some "config", some 'c', .value isPath false⟩,
     ⟨.verbose, some "verbose", some 'v', .flag⟩,
     ⟨.help, some "help", some 'h', .help⟩,
     ⟨.version, some "version", some 'V', .version⟩]
  positional := some ⟨.target, none, none, .value isAnything false⟩
  commands := ["init", "help"]

inductive InitArgument where
  | output
  | help
deriving DecidableEq, Repr

def initGrammar : Grammar InitArgument where
  options :=
    [⟨.output, some "output", some 'o', .value isPath false⟩,
     ⟨.help, some "help", some 'h', .help⟩]
  positional := none
  commands := []

/-- The path that `init` is to write to. -/
def parseInit (arguments : List String) : Except UsageError Path := do
  let (scan, _) ← Scan.start.all initGrammar arguments
  return ⟨((← scan.finish).value? .output).getD Path.settingsName⟩

/-- The answer to a request for help on a command, which is never carried out. -/
def helpOn (arguments : List String) : UsageError :=
  if arguments = [] ∨ arguments = ["init"] ∨ arguments = ["help"] then .helpAsked
  else .invalidCommand

def parseCommand : Option (String × List String) → Except UsageError (Option Path)
  | none => .ok none
  | some (command, rest) =>
      if command = "help" then .error (helpOn rest) else (parseInit rest).map some

/-- A command line can ask for one format in one way only. -/
def checkFormats (scan : Scan Argument) : Except UsageError Unit :=
  if scan.occurs .json && scan.occurs .format then .error .argumentConflict else .ok ()

def parse (arguments : List String) : Except UsageError Arguments := do
  let (scan, command) ← Scan.start.all showGrammar arguments
  let initOutput ← parseCommand command
  let scan ← scan.finish
  checkFormats scan
  return {
    initOutput := initOutput
    target := scan.value? .target
    format := (scan.value? .format).bind format?
    json := scan.occurs .json
    includes := scan.values .includes
    excludes := scan.values .excludes
    skipLoopback := scan.occurs .skipLoopback
    upOnly := scan.occurs .upOnly
    settingsFile := (scan.value? .settingsFile).map Path.mk
    verbose := scan.occurs .verbose }

end CommandLine

end NetInterface
