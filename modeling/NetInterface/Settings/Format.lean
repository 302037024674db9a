/-!
The formats that interfaces are written in.
-/

namespace NetInterface

inductive OutputFormat where
  | text
  | json
deriving DecidableEq, Repr

/-- A text that names no output format. -/
structure InvalidFormat where
  value : String
deriving DecidableEq, Repr

def InvalidFormat.message (error : InvalidFormat) : String :=
  "Invalid output format '" ++ error.value ++ "': expected text or json"

namespace OutputFormat

def label : OutputFormat → String
  | .text => "text"
  | .json => "json"

/-- The names of the formats in lower case; the text format has two. -/
def names : List (String × OutputFormat) :=
  [("text", .text), ("plain", .text), ("json", .json)]

def lowerCase (text : String) : List Char :=
  text.toList.map Char.toLower

/-- The format of a name in either letter case. No character but the ASCII letters has a letter of
these names as its lower case, so ASCII lower case is enough. -/
def parse (text : String) : Except InvalidFormat OutputFormat :=
  match names.find? (·.1.toList = lowerCase text) with
  | some (_, format) => .ok format
  | none => .error ⟨text⟩

end OutputFormat

end NetInterface
