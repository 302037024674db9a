import NetInterface.File.Tree
import NetInterface.Settings.Merge

/-!
Settings from the configuration file that counts, and writing such a file.

The file that the command line names counts, whether it exists or not. Otherwise the file of the
user counts if it exists.
-/

namespace NetInterface

/-- The surroundings of the program. -/
structure Environment where
  home : Option Path
  /-- Where the user keeps configuration, if stated. -/
  configHome : Option Path
  tree : FileTree

namespace Environment

def expand (environment : Environment) (path : Path) : Path :=
  match environment.home with
  | some home => path.expandHome home
  | none => path

/-- The place of the user's configuration file, whether it exists or not. -/
def userSettings? (environment : Environment) : Option Path :=
  match environment.home, environment.configHome with
  | some home, stated => some (Path.userSettings home stated)
  | none, some stated => if stated.isAbsolute then some (Path.userSettings ⟨""⟩ stated) else none
  | none, none => none

/-- The configuration file that counts, as it is named. -/
def settingsFile? (environment : Environment) (arguments : Arguments) : Option Path :=
  arguments.settingsFile <|> environment.userSettings?.filter environment.tree.isFile

end Environment

inductive ConfigurationError where
  | unreadable (path : Path) (error : FileError)
  | fault (fault : FileFault)
  | unwritable (path : Path) (error : FileError)
  | merge (error : MergeError)
deriving DecidableEq, Repr

namespace ConfigurationError

def message : ConfigurationError → String
  | .unreadable path error =>
      "Failed to read config file '" ++ path.text ++ "': " ++ error.message
  | .fault reason => "Failed to parse TOML config: " ++ reason.message
  | .unwritable path error =>
      "Failed to write config file '" ++ path.text ++ "': " ++ error.message
  | .merge error => error.message

/-- Advice on the error, if there is any. -/
def hint? : ConfigurationError → Option String
  | .unreadable _ _ => some "Run 'ifbrowse init' to generate a configuration template."
  | .merge (.invalidPattern _) =>
      some "Patterns use Rust regex syntax; prefix with (?i) for case-insensitive matching."
  | _ => none

end ConfigurationError

namespace FileSettings

def load (environment : Environment) (path : Path) : Except ConfigurationError FileSettings := do
  let path := environment.expand path
  let text ← (environment.tree.readText path).mapError (.unreadable path)
  (parse text).mapError .fault

/-- The files after the template was written to a path. -/
def writeTemplate (environment : Environment) (path : Path) :
    Except ConfigurationError FileTree :=
  let path := environment.expand path
  (environment.tree.write path (Text.Utf8.octets template)).mapError (.unwritable path)

end FileSettings

namespace Settings

def load (read : PatternReader) (environment : Environment) (arguments : Arguments) :
    Except ConfigurationError Settings := do
  let file ← (environment.settingsFile? arguments).mapM (FileSettings.load environment)
  (merge read arguments file).mapError .merge

end Settings

end NetInterface
