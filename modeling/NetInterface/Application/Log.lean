import NetInterface.Browser.Basic

/-!
What the program says beside its report: log lines and plain notices.

A log line has a level, a message and named fields. Lines for debugging are shown only on request.
-/

namespace NetInterface

inductive LogLevel where
  | debug
  | warn
  | error
deriving DecidableEq, Repr

def LogLevel.label : LogLevel → String
  | .debug => "DEBUG"
  | .warn => "WARN"
  | .error => "ERROR"

structure LogLine where
  level : LogLevel
  message : String
  fields : List (String × String)
deriving DecidableEq, Repr

namespace LogLine

/-- Characters that terminals act upon are shown as escapes. -/
def shown (character : Char) : List Char :=
  match character with
  | '\x07' => "\\x07".toList
  | '\x08' => "\\x08".toList
  | '\x0c' => "\\x0c".toList
  | '\x1b' => "\\x1b".toList
  | '\x7f' => "\\x7f".toList
  | other =>
      if 0x80 ≤ other.toNat ∧ other.toNat ≤ 0x9F then
        "\\u\x7b".toList ++ Text.leastHex other.toNat ++ ['\x7d']
      else
        [other]

def shownMessage (line : LogLine) : String :=
  String.ofList (line.message.toList.flatMap shown)

def text (line : LogLine) : String :=
  line.level.label ++ " " ++ line.shownMessage ++
    String.join (line.fields.map fun (name, value) => " " ++ name ++ "=" ++ value)

end LogLine

/-- The fields of the report on a part that was left out. -/
def SkippedPart.fields (part : SkippedPart) : List (String × String) :=
  [("interface", part.interface), ("error", part.error.message)]

/-- What is said of an event. -/
def Event.logLines : Event → List LogLine
  | .acquired =>
      [⟨.debug, "Acquired getifaddrs list", []⟩, ⟨.debug, "Acquired native interface handle", []⟩]
  | .acquireFailed _ => []
  | .fetched => []
  | .fetchFailed _ => []
  | .skipped part => [⟨.warn, part.error.notice, part.fields⟩]
  | .populated interfaces =>
      [⟨.debug, "Populated interface snapshot", [("interfaces", toString interfaces)]⟩]
  | .released =>
      [⟨.debug, "Released getifaddrs list", []⟩, ⟨.debug, "Released native interface handle", []⟩]
  | .releaseFailed error =>
      [⟨.warn, "Failed to release native interface handle", [("error", error.message)]⟩]

inductive Notice where
  | log (line : LogLine)
  | plain (text : String)
deriving DecidableEq, Repr

namespace Notice

def isShown (verbose : Bool) : Notice → Bool
  | .log line => verbose || line.level ≠ .debug
  | .plain _ => true

def text : Notice → String
  | .log line => line.text ++ "\n"
  | .plain text => text ++ "\n"

def ofEvents (events : List Event) : List Notice :=
  (events.flatMap Event.logLines).map .log

/-- The notices that are shown, one after another. -/
def texts (verbose : Bool) (notices : List Notice) : String :=
  String.join ((notices.filter (isShown verbose)).map text)

end Notice

end NetInterface
