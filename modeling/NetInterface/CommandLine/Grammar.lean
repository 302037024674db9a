/-!
What may stand on a command line.

An option has a long name, perhaps a short one, and either is a flag or takes one value. A grammar
has options, perhaps a positional argument, and the names of commands.
-/

namespace NetInterface.CommandLine

/-- Why a command line is not carried out. Asking for help or the version counts as a reason. -/
inductive UsageError where
  | unknownArgument
  | invalidValue
  | argumentConflict
  | tooManyValues
  | invalidCommand
  | helpAsked
  | versionAsked
deriving DecidableEq, Repr

namespace UsageError

/-- What is said in place of carrying out the command line. -/
def message : UsageError → String
  | .unknownArgument => "error: unexpected argument\n"
  | .invalidValue => "error: invalid value\n"
  | .argumentConflict => "error: arguments cannot be used together\n"
  | .tooManyValues => "error: unexpected value\n"
  | .invalidCommand => "error: unrecognized subcommand\n"
  | .helpAsked => "Usage: ifbrowse [OPTIONS] [INTERFACE] [COMMAND]\n"
  | .versionAsked => "ifbrowse 0.1.0\n"

/-- Whether the answer is what was asked for. -/
def isAsked (error : UsageError) : Bool :=
  error = .helpAsked || error = .versionAsked

def exitCode (error : UsageError) : Nat :=
  if error.isAsked then 0 else 2

end UsageError

inductive Kind where
  | flag
  | value (isAccepted : String → Bool) (repeatable : Bool)
  | help
  | version

namespace Kind

def takesValue : Kind → Bool
  | .value _ _ => true
  | _ => false

/-- What speaks against one more occurrence of the argument with the given value. -/
def fault? (occursBefore : Bool) (given : Option String) : Kind → Option UsageError
  | .help => some .helpAsked
  | .version => some .versionAsked
  | .flag => if occursBefore then some .argumentConflict else none
  | .value isAccepted repeatable =>
      match given with
      | none => some .invalidValue
      | some text =>
          if occursBefore && !repeatable then some .argumentConflict
          else if isAccepted text then none
          else some .invalidValue

end Kind

structure Parameter (Key : Type) where
  key : Key
  long : Option String
  short : Option Char
  kind : Kind

structure Grammar (Key : Type) where
  options : List (Parameter Key)
  positional : Option (Parameter Key)
  commands : List String

namespace Grammar

variable {Key : Type}

def long? (grammar : Grammar Key) (name : String) : Option (Parameter Key) :=
  grammar.options.find? (·.long = some name)

def short? (grammar : Grammar Key) (name : Char) : Option (Parameter Key) :=
  grammar.options.find? (·.short = some name)

end Grammar

end NetInterface.CommandLine
