import NetInterface.Application.Log
import NetInterface.Report.Basic
import NetInterface.Settings.Load

/-!
A run of the program.

The command `init` writes a configuration file. Otherwise the settings are loaded, a browser is
created, the report is written and the browser is closed, and dropped at the end. The exit status
tells how that went.
-/

namespace NetInterface

inductive ExitStatus where
  | success
  | misconfigured
  | failed
  | notFound
deriving DecidableEq, Repr

def ExitStatus.code : ExitStatus → Nat
  | .success => 0
  | .misconfigured => 1
  | .failed => 2
  | .notFound => 3

/-- How a run ended and all that it did. -/
structure Conclusion where
  status : ExitStatus
  output : List UInt8
  notices : List Notice
  tree : FileTree
  events : List Event

namespace Application

def debug (message : String) (fields : List (String × String)) : Notice :=
  .log ⟨.debug, message, fields⟩

def failure (message : String) : Notice :=
  .log ⟨.error, "Application error: " ++ message, []⟩

def writeTemplate (environment : Environment) (path : Path) : Conclusion :=
  match FileSettings.writeTemplate environment path with
  | .ok tree =>
      let output := "Configuration template written to: " ++ path.text ++ "\n"
      ⟨.success, Text.Utf8.octets output, [], tree, []⟩
  | .error error =>
      ⟨.misconfigured, [], [.plain ("Error: " ++ error.message)], environment.tree, []⟩

/-- What is said of a configuration error, with advice after an empty line. -/
def configurationNotices (error : ConfigurationError) : List Notice :=
  .plain ("Configuration error: " ++ error.message) ::
    error.hint?.toList.map fun hint => .plain ("\n" ++ hint)

def loadingNotices (environment : Environment) (arguments : Arguments) : List Notice :=
  (environment.settingsFile? arguments).toList.map fun path =>
    debug "Loading config file" [("path", path.text)]

/-- The status of a run and what is said last, given what became of the report. -/
def closing (settings : Settings) : Except ReportError Showing → ExitStatus × List Notice
  | .ok (.shown count) => (.success, [debug "Finished" [("interfaces", toString count)]])
  | .ok .notFound =>
      (.notFound, settings.target.toList.map fun target =>
        .plain ("No interface matches " ++ target.text))
  | .error error => (.failed, [failure error.message])

/-- What is said of a target that no interface matches. -/
def missingNotices (settings : Settings) : Except ReportError Showing → List Notice
  | .ok .notFound =>
      settings.target.toList.map fun target => debug "Interface not found" [("target", target.text)]
  | _ => []

/-- Reports what the settings select. The browser is closed before it is said how that went, and it
is dropped after everything else. -/
def report (source : Source) (tree : FileTree) (settings : Settings) : Conclusion :=
  match Browser.create source with
  | .error error =>
      let events := [Browser.acquisition source]
      ⟨.failed, [], Notice.ofEvents events ++ [failure error.message], tree, events⟩
  | .ok browser =>
      let (result, browser, sink) := Report.write source settings browser .boundless
      let closed := browser.close source
      let (status, last) := closing settings result
      let dropped := closed.drop source
      let notices :=
        Notice.ofEvents browser.events ++ missingNotices settings result ++
          Notice.ofEvents (closed.events.drop browser.events.length) ++ last ++
          Notice.ofEvents (dropped.events.drop closed.events.length)
      ⟨status, sink.written, notices, tree, dropped.events⟩

/-- The run with the notices in front. -/
def after (notices : List Notice) (conclusion : Conclusion) : Conclusion :=
  { conclusion with notices := notices ++ conclusion.notices }

def showInterfaces (read : PatternReader) (environment : Environment) (source : Source)
    (arguments : Arguments) : Conclusion :=
  let loading := loadingNotices environment arguments
  match Settings.load read environment arguments with
  | .error error =>
      ⟨.misconfigured, [], loading ++ configurationNotices error, environment.tree, []⟩
  | .ok settings =>
      after (loading ++ [debug settings.text []]) (report source environment.tree settings)

def run (read : PatternReader) (environment : Environment) (source : Source)
    (arguments : Arguments) : Conclusion :=
  match arguments.initOutput with
  | some path => writeTemplate environment path
  | none => showInterfaces read environment source arguments

end Application

end NetInterface
