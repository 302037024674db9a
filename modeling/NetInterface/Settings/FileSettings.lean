import NetInterface.Toml.Document

/-!
The settings that a configuration file gives.

A file has two sections. A section is a table of named fields, or an array of the same fields in
order. Unknown names and values of the wrong type are errors; a missing field has its default.
-/

namespace NetInterface

structure FileSettings where
  format : Option String
  includes : List String
  excludes : List String
  skipLoopback : Bool
  upOnly : Bool
deriving DecidableEq, Repr

inductive FileFault where
  | syntaxFault (fault : Toml.Fault)
  | unknownName (name : String)
  | missing (name : String)
  | wrongType (expected : String)
deriving DecidableEq, Repr

namespace FileFault

def message : FileFault → String
  | .syntaxFault .malformed => "malformed document"
  | .syntaxFault .duplicateKey => "duplicate key"
  | .syntaxFault .nestedTooDeeply => "nested too deeply"
  | .unknownName name => "unknown field '" ++ name ++ "'"
  | .missing name => "missing field '" ++ name ++ "'"
  | .wrongType expected => "expected " ++ expected

end FileFault

namespace FileSettings

open Toml (Value)

def empty : FileSettings where
  format := none
  includes := []
  excludes := []
  skipLoopback := false
  upOnly := false

def string : Value → Except FileFault String
  | .string value => .ok value
  | _ => .error (.wrongType "a string")

def boolean : Value → Except FileFault Bool
  | .boolean value => .ok value
  | _ => .error (.wrongType "a boolean")

def strings : Value → Except FileFault (List String)
  | .array items => items.mapM string
  | _ => .error (.wrongType "an array of strings")

/-- Gives a field its value. -/
abbrev Field := FileSettings → Value → Except FileFault FileSettings

def formatField : Field := fun settings value => do
  return { settings with format := some (← string value) }

def includeField : Field := fun settings value => do
  return { settings with includes := ← strings value }

def excludeField : Field := fun settings value => do
  return { settings with excludes := ← strings value }

def skipLoopbackField : Field := fun settings value => do
  return { settings with skipLoopback := ← boolean value }

def upOnlyField : Field := fun settings value => do
  return { settings with upOnly := ← boolean value }

/-- A section: its fields in order, and how many an array of them has at least. -/
structure Section where
  fields : List (String × Field)
  required : Nat

def outputSection : Section where
  fields := [("format", formatField)]
  required := 1

def filterSection : Section where
  fields :=
    [("include", includeField), ("exclude", excludeField), ("skip_loopback", skipLoopbackField),
     ("up_only", upOnlyField)]
  required := 0

def sections : List (String × Section) :=
  [("output", outputSection), ("filter", filterSection)]

/-- The item with the given name. -/
def named {α : Type} (items : List (String × α)) (name : String) : Except FileFault α :=
  match items.find? (·.1 = name) with
  | some (_, item) => .ok item
  | none => .error (.unknownName name)

/-- Reads the fields of a section, by name from a table or by position from an array. Items of an
array for which no field is left do not count. -/
def Section.read (content : Section) (settings : FileSettings) :
    Value → Except FileFault FileSettings
  | .table members =>
      members.foldlM (fun settings (name, value) => do
        (← named content.fields name) settings value) settings
  | .array items =>
      if items.length < content.required then
        .error (.missing ((content.fields.map (·.1)).getD items.length ""))
      else
        (content.fields.zip items).foldlM (fun settings ((_, field), value) =>
          field settings value) settings
  | _ => .error (.wrongType "a table")

def ofMembers (members : List (String × Value)) : Except FileFault FileSettings :=
  members.foldlM (fun settings (name, value) => do
    (← named sections name).read settings value) empty

/-- The settings of a file with the given text. -/
def parse (text : String) : Except FileFault FileSettings :=
  match Toml.parse text with
  | .ok members => ofMembers members
  | .error fault => .error (.syntaxFault fault)

def templateLines : List String :=
  ["# ifbrowse Configuration File",
   "#",
   "# Explicit command-line options override these values.",
   "",
   "[output]",
   "# Output format: \"text\" (ifconfig style) or \"json\" (default: text)",
   "# format = \"text\"",
   "",
   "[filter]",
   "# Regex patterns for interface names to include (empty = all)",
   "# Note: CLI patterns REPLACE these entirely (not merged)",
   "# include = [\"^eth\", \"^en\"]",
   "",
   "# Regex patterns for interface names to exclude",
   "# Note: CLI patterns REPLACE these entirely (not merged)",
   "# exclude = [\"^docker\", \"^veth\"]",
   "",
   "# Hide loopback interfaces",
   "skip_loopback = false",
   "",
   "# Hide interfaces that are not up",
   "# up_only = false"]

/-- A file that explains every field and gives none a value other than its default. -/
def template : String :=
  String.join (templateLines.map (· ++ "\n"))

end FileSettings

end NetInterface
