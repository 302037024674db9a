import NetInterface.Browser.Basic
import NetInterface.Report.Sink
import NetInterface.Settings.Basic

/-!
Reports: the interfaces that the settings select, written to a sink.

A target selects the one interface that it names, whatever the filter says. Without a target the
interfaces that the filter accepts are listed, as texts one after another or as one JSON array.
-/

namespace NetInterface

inductive ReportError where
  | browser (error : BrowserError)
  | output (error : SinkError)
  | encoding (error : SinkError)
deriving DecidableEq, Repr

def ReportError.message : ReportError → String
  | .browser error => "Failed to read interfaces: " ++ error.message
  | .output error => "Failed to write output: " ++ error.message
  | .encoding error => "Failed to encode JSON: " ++ error.message

/-- What a report came to: so many interfaces shown, or none that the target names. -/
inductive Showing where
  | shown (interfaces : Nat)
  | notFound
deriving DecidableEq, Repr

namespace Report

def writeLine (sink : Sink) (line : String) : Except ReportError Unit × Sink :=
  match sink.write (line ++ "\n") with
  | (.ok (), sink) => (.ok (), sink)
  | (.error error, sink) => (.error (.output error), sink)

/-- Writes an indented document and a line break. -/
def writeDocument (sink : Sink) (document : Json) : Except ReportError Unit × Sink :=
  match sink.write document.indented with
  | (.error error, sink) => (.error (.encoding error), sink)
  | (.ok (), sink) =>
      match sink.write "\n" with
      | (.ok (), sink) => (.ok (), sink)
      | (.error error, sink) => (.error (.output error), sink)

def writeInterface (format : OutputFormat) (sink : Sink) (interface : Interface) :
    Except ReportError Unit × Sink :=
  match format with
  | .text => writeLine sink interface.text
  | .json => writeDocument sink interface.json

/-- The interface of a snapshot that a target asks for. -/
def find? (snapshot : Snapshot) : Target → Option Interface
  | .index number => snapshot.numbered? number
  | .name wanted => snapshot.named? wanted

def showTarget (source : Source) (format : OutputFormat) (target : Target) (browser : Browser)
    (sink : Sink) : Except ReportError Showing × Browser × Sink :=
  match browser.read source with
  | (.error error, browser) => (.error (.browser error), browser, sink)
  | (.ok population, browser) =>
      match find? population.snapshot target with
      | none => (.ok .notFound, browser, sink)
      | some interface =>
          let (result, sink) := writeInterface format sink interface
          (result.map fun _ => .shown 1, browser, sink)

/-- How far a listing has come: the sink, how many interfaces it shows and whether writing
failed. -/
structure Progress where
  sink : Sink
  shown : Nat
  failure : Option ReportError

/-- Writes the interface if the filter accepts it; whether to go on. -/
def Progress.visit (filter : FilterChain) (interface : Interface) (progress : Progress) :
    Bool × Progress :=
  if filter.accepts interface then
    match writeLine progress.sink interface.text with
    | (.ok (), sink) => (true, { progress with sink := sink, shown := progress.shown + 1 })
    | (.error error, sink) => (false, { progress with sink := sink, failure := some error })
  else
    (true, progress)

def listText (source : Source) (filter : FilterChain) (browser : Browser) (sink : Sink) :
    Except ReportError Showing × Browser × Sink :=
  let visit (interface : Interface) (state : Browser × Progress) :=
    let (goOn, progress) := state.2.visit filter interface
    (goOn, state.1, progress)
  match browser.forEach source visit ⟨sink, 0, none⟩ with
  | (.error error, browser, progress) => (.error (.browser error), browser, progress.sink)
  | (.ok _, browser, progress) =>
      match progress.failure with
      | some error => (.error error, browser, progress.sink)
      | none => (.ok (.shown progress.shown), browser, progress.sink)

def listJson (source : Source) (filter : FilterChain) (browser : Browser) (sink : Sink) :
    Except ReportError Showing × Browser × Sink :=
  match browser.read source with
  | (.error error, browser) => (.error (.browser error), browser, sink)
  | (.ok population, browser) =>
      let accepted := population.snapshot.toList.filter filter.accepts
      let (result, sink) := writeDocument sink (.array (accepted.map Interface.json))
      (result.map fun _ => .shown accepted.length, browser, sink)

/-- Writes what the settings select. -/
def write (source : Source) (settings : Settings) (browser : Browser) (sink : Sink) :
    Except ReportError Showing × Browser × Sink :=
  match settings.target with
  | some target => showTarget source settings.format target browser sink
  | none =>
      match settings.format with
      | .text => listText source settings.filter browser sink
      | .json => listJson source settings.filter browser sink

end Report

end NetInterface
