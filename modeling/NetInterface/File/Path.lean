import NetInterface.Text.Split

/-!
Paths: texts of names between slashes.

A path that begins with a slash is absolute. Empty names and single dots lead nowhere.
-/

namespace NetInterface

structure Path where
  text : String
deriving DecidableEq, Repr

namespace Path

/-- The names between the slashes, the empty ones too. -/
def fields (path : Path) : List String :=
  (Text.splitOn '/' path.text.toList).map String.ofList

def isAbsolute (path : Path) : Bool :=
  path.text.toList.head? = some '/'

/-- Whether a name leads nowhere. -/
def isIdle (name : List Char) : Bool :=
  name = [] || name = ['.']

/-- The second path as seen from the first one. -/
def join (base path : Path) : Path :=
  if path.isAbsolute then
    path
  else if base.text.toList.getLast?.getD '/' = '/' then
    ⟨base.text ++ path.text⟩
  else
    ⟨base.text ++ "/" ++ path.text⟩

/-- The names without the idle ones at either end. -/
def trim (names : List (List Char)) : List (List Char) :=
  ((names.dropWhile isIdle).reverse.dropWhile isIdle).reverse

/-- The path with the home directory in place of a first name that is a tilde. -/
def expandHome (path home : Path) : Path :=
  match Text.splitOn '/' path.text.toList with
  | ['~'] :: names => home.join ⟨String.ofList (Text.joinWith '/' (trim names))⟩
  | _ => path

/-- The directory of a user's configuration: the stated one if it is absolute. -/
def configurationDirectory (home : Path) (stated : Option Path) : Path :=
  match stated with
  | some directory => if directory.isAbsolute then directory else home.join ⟨".config"⟩
  | none => home.join ⟨".config"⟩

/-- The name of a configuration file. -/
def settingsName : String :=
  "ifbrowse.toml"

/-- The configuration file of a user. -/
def userSettings (home : Path) (stated : Option Path) : Path :=
  ((configurationDirectory home stated).join ⟨"ifbrowse"⟩).join ⟨settingsName⟩

end Path

end NetInterface
