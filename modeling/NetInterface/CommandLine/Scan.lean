import NetInterface.CommandLine.Grammar
import NetInterface.Text.Similarity
import NetInterface.Text.Split

/-!
Scanning a command line.

Arguments are read one at a time. An option that still needs its value, and a positional argument,
stay pending until the next argument is settled or the line ends; only then are they checked. All
other arguments are settled at once.
-/

namespace NetInterface.CommandLine

structure Scan (Key : Type) where
  settled : List (Key × Option String)
  pending : Option (Parameter Key × Option String)
  /-- After two dashes every argument is positional. -/
  positionalOnly : Bool

namespace Scan

variable {Key : Type} [DecidableEq Key]

omit [DecidableEq Key] in
def start : Scan Key :=
  ⟨[], none, false⟩

def occurs (scan : Scan Key) (key : Key) : Bool :=
  scan.settled.any (·.1 = key)

omit [DecidableEq Key] in
def isExpecting (scan : Scan Key) : Bool :=
  match scan.pending with
  | some (_, none) => true
  | _ => false

/-- Checks an argument and adds it. -/
def add (scan : Scan Key) (parameter : Parameter Key) (given : Option String) :
    Except UsageError (Scan Key) :=
  match parameter.kind.fault? (scan.occurs parameter.key) given with
  | some error => .error error
  | none => .ok { scan with settled := scan.settled ++ [(parameter.key, given)] }

/-- Settles what is pending. -/
def finish (scan : Scan Key) : Except UsageError (Scan Key) :=
  match scan.pending with
  | none => .ok scan
  | some (parameter, given) => { scan with pending := none }.add parameter given

/-- Settles what is pending and then the argument. -/
def settle (scan : Scan Key) (parameter : Parameter Key) (given : Option String) :
    Except UsageError (Scan Key) := do
  (← scan.finish).add parameter given

/-- Settles what is pending and leaves the argument pending. -/
def await (scan : Scan Key) (parameter : Parameter Key) (given : Option String) :
    Except UsageError (Scan Key) := do
  return { ← scan.finish with pending := some (parameter, given) }

/-- An argument with a long name, after its dashes. -/
def long (grammar : Grammar Key) (scan : Scan Key) (text : List Char) :
    Except UsageError (Scan Key) :=
  let (name, attached) :=
    match Text.cut? '=' text with
    | some (name, value) => (String.ofList name, some (String.ofList value))
    | none => (String.ofList text, none)
  match grammar.long? name with
  | none => .error .unknownArgument
  | some option =>
      match option.kind.takesValue, attached with
      | true, some value => scan.settle option (some value)
      | true, none => scan.await option none
      | false, some _ => .error .tooManyValues
      | false, none => scan.settle option none

/-- Short names after one dash: flags, and perhaps an option whose value is the rest. -/
def short (grammar : Grammar Key) (scan : Scan Key) : List Char → Except UsageError (Scan Key)
  | [] => .ok scan
  | name :: rest =>
      match grammar.short? name with
      | none => .error .unknownArgument
      | some option =>
          if option.kind.takesValue then
            match rest with
            | [] => scan.await option none
            | '=' :: value => scan.settle option (some (String.ofList value))
            | value => scan.settle option (some (String.ofList value))
          else do
            short grammar (← scan.settle option none) rest

/-- What is said of a positional argument for which there is no place. -/
def surplus (grammar : Grammar Key) (scan : Scan Key) (argument : String) : UsageError :=
  if scan.positionalOnly && grammar.commands.contains argument then .unknownArgument
  else if grammar.commands.any (Text.isSimilar argument.toList ·.toList) then .invalidCommand
  else .unknownArgument

/-- Whether the positional argument has been given. -/
def isPlaced (scan : Scan Key) (parameter : Parameter Key) : Bool :=
  scan.occurs parameter.key || scan.pending.any (·.1.key = parameter.key)

def positional (grammar : Grammar Key) (scan : Scan Key) (argument : String) :
    Except UsageError (Scan Key) :=
  match grammar.positional with
  | none => .error (scan.surplus grammar argument)
  | some parameter =>
      if scan.isPlaced parameter then .error (scan.surplus grammar argument)
      else scan.await parameter (some argument)

/-- One argument that is no command. -/
def one (grammar : Grammar Key) (scan : Scan Key) (argument : String) :
    Except UsageError (Scan Key) :=
  if scan.positionalOnly then
    scan.positional grammar argument
  else
    match argument.toList with
    | ['-', '-'] => .ok { scan with positionalOnly := true }
    | '-' :: '-' :: text => scan.long grammar text
    | '-' :: name :: rest => scan.short grammar (name :: rest)
    | _ =>
        match scan.pending with
        | some (parameter, none) =>
            .ok { scan with pending := some (parameter, some argument) }
        | _ => scan.positional grammar argument

/-- Scans arguments up to a command; the command and what follows it. -/
def all (grammar : Grammar Key) (scan : Scan Key) :
    List String → Except UsageError (Scan Key × Option (String × List String))
  | [] => .ok (scan, none)
  | argument :: rest =>
      if !scan.positionalOnly && !scan.isExpecting && grammar.commands.contains argument then
        .ok (scan, some (argument, rest))
      else do
        all grammar (← scan.one grammar argument) rest

/-! ### What was given -/

def values (scan : Scan Key) (key : Key) : List String :=
  scan.settled.filterMap fun (other, given) => if other = key then given else none

def value? (scan : Scan Key) (key : Key) : Option String :=
  (scan.values key).head?

end Scan

end NetInterface.CommandLine
