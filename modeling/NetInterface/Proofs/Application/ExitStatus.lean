import NetInterface.Application.Run
import NetInterface.Proofs.Report.Showings
import NetInterface.Proofs.Settings.Template

/-!
What the exit status tells of a run.

A run goes from one attempt to the next until an attempt fails. Each way in which it can go
(`Course`) has one code and one output, and the code and the output are those of no other way
(`run_exits`). A handle that was acquired is released once, since the drop at the end of a run finds
a browser that is closed already, and only a template that was written changes a file.
-/

namespace NetInterface

open Text

/-- The settings ask for the target of the command line. -/
theorem Settings.target_of_load {read : PatternReader} {environment : Environment}
    {arguments : Arguments} {settings : Settings}
    (loaded : load read environment arguments = .ok settings) :
    settings.target = arguments.target.map Target.parse := by
  obtain ⟨file, -, merged⟩ := bind_eq_ok_iff.mp loaded
  obtain ⟨format, -, further⟩ := bind_eq_ok_iff.mp (mapError_eq_ok_iff.mp merged)
  obtain ⟨filter, -, gathered⟩ := bind_eq_ok_iff.mp further
  obtain rfl := Except.ok.inj gathered
  rfl

/-- The conclusion apart from what is said beside the report. -/
def Conclusion.unspoken (conclusion : Conclusion) : Conclusion :=
  { conclusion with notices := [] }

namespace Browser

theorem create_of_acquired {source : Source} (acquired : source.acquire = .ok ()) :
    create source = .ok (.new ()) := by
  simp only [create, acquired]

/-- A read keeps the account of what the browser did. -/
theorem Account.read {source : Source} {browser : Browser} (account : Account source browser) :
    Account source (browser.read source).2 := by
  have effect := @effect_answerRead source browser .list _ rfl
  unfold answerRead at effect
  split at effect
  all_goals
    next reading =>
    rw [reading]
    exact account.effect effect

/-- A browser that is closed and then dropped has acquired its handle once and released it once. -/
theorem calls_of_close_drop {source : Source} {browser : Browser}
    (account : Account source browser) :
    ((browser.close source).drop source).acquires = 1 ∧
      ((browser.close source).drop source).releases = 1 := by
  -- The close has left nothing to release to the drop.
  rw [drop_close]
  have closed := account.effect (effect_close source browser)
  refine ⟨closed.acquires_eq_one, ?_⟩
  rw [closed.releases_eq, holdings_close]
  rfl

end Browser

namespace Application

section

variable (read : PatternReader) (environment : Environment) (source : Source)
  (arguments : Arguments)

/-- The run is to show interfaces, by these settings. -/
def Loads (settings : Settings) : Prop :=
  arguments.initOutput = none ∧ Settings.load read environment arguments = .ok settings

/-- The run is to show interfaces, by these settings, and has fetched this listing of them. -/
def Lists (settings : Settings) (listing : Listing) : Prop :=
  Loads read environment arguments settings ∧ source.acquire = .ok () ∧
    source.fetch 0 = .ok listing

/-- The ways in which a run can go, with the exit code and the output of each. -/
inductive Course : Nat → List UInt8 → Prop
  | templateWritten {path : Path} {tree : FileTree} (asked : arguments.initOutput = some path)
      (written : FileSettings.writeTemplate environment path = .ok tree) :
      Course 0 (Utf8.octets ("Configuration template written to: " ++ path.text ++ "\n"))
  | shown {settings : Settings} {listing : Listing} {output : List UInt8}
      (lists : Lists read environment source arguments settings listing)
      (shows : Report.Shows settings listing.interfaces arguments.target output) :
      Course 0 output
  | templateUnwritten {path : Path} {error : ConfigurationError}
      (asked : arguments.initOutput = some path)
      (unwritten : FileSettings.writeTemplate environment path = .error error) :
      Course 1 []
  | unloaded {error : ConfigurationError} (showing : arguments.initOutput = none)
      (unloaded : Settings.load read environment arguments = .error error) :
      Course 1 []
  | unacquired {settings : Settings} {error : NativeError}
      (loads : Loads read environment arguments settings)
      (unacquired : source.acquire = .error error) :
      Course 2 []
  | unfetched {settings : Settings} {error : NativeError}
      (loads : Loads read environment arguments settings) (acquired : source.acquire = .ok ())
      (unfetched : source.fetch 0 = .error error) :
      Course 2 []
  | unmatched {settings : Settings} {listing : Listing} {text : String}
      (lists : Lists read environment source arguments settings listing)
      (asked : arguments.target = some text)
      (unmatched : Report.requested? listing.interfaces text = none) :
      Course 3 []

/-- Every run goes in one of the ways. -/
theorem exists_course : ∃ code output, Course read environment source arguments code output := by
  cases asked : arguments.initOutput with
  | some path =>
      cases written : FileSettings.writeTemplate environment path with
      | ok tree => exact ⟨_, _, .templateWritten asked written⟩
      | error error => exact ⟨_, _, .templateUnwritten asked written⟩
  | none =>
      cases loaded : Settings.load read environment arguments with
      | error error => exact ⟨_, _, .unloaded asked loaded⟩
      | ok settings =>
          have loads : Loads read environment arguments settings := ⟨asked, loaded⟩
          cases acquired : source.acquire with
          | error error => exact ⟨_, _, .unacquired loads acquired⟩
          | ok =>
              cases fetched : source.fetch 0 with
              | error error => exact ⟨_, _, .unfetched loads acquired fetched⟩
              | ok listing =>
                  have lists : Lists read environment source arguments settings listing :=
                    ⟨loads, acquired, fetched⟩
                  rcases Report.exists_shows_or_unmatched settings listing.interfaces
                      arguments.target with ⟨output, shows⟩ | ⟨text, target, unmatched⟩
                  · exact ⟨_, _, .shown lists shows⟩
                  · exact ⟨_, _, .unmatched lists target unmatched⟩

end

section

variable {read : PatternReader} {environment : Environment} {source : Source}
  {arguments : Arguments} {settings : Settings} {listing : Listing}

theorem report_of_unacquired {error : NativeError} (unacquired : source.acquire = .error error)
    (tree : FileTree) (settings : Settings) :
    (report source tree settings).unspoken =
      ⟨.failed, [], [], tree, [.acquireFailed error]⟩ := by
  simp only [report, Browser.create, Browser.acquisition, unacquired, Conclusion.unspoken]

/-- With a handle the browser is read once, closed and dropped. -/
theorem report_of_acquired (acquired : source.acquire = .ok ()) (tree : FileTree)
    {result : Except ReportError Showing} {output : List UInt8} {room : Option Nat}
    (reported : Report.write source settings (.new ()) .boundless =
      (result, (Browser.read source (.new ())).2, ⟨output, room⟩)) :
    (report source tree settings).unspoken =
      ⟨(closing settings result).1, output, [], tree,
        (((Browser.read source (.new ())).2.close source).drop source).events⟩ := by
  simp only [report, Browser.create_of_acquired acquired, reported, Conclusion.unspoken]

theorem run_of_loads (loads : Loads read environment arguments settings) :
    (run read environment source arguments).unspoken =
      (report source environment.tree settings).unspoken := by
  simp only [run, loads.1, showInterfaces, loads.2, after, Conclusion.unspoken]

end

/-- What a run does besides its report: it changes no file but the one that it was asked to write,
and it releases the handle if it acquired one. -/
structure Tidy (environment : Environment) (source : Source) (arguments : Arguments)
    (conclusion : Conclusion) : Prop where
  silent : conclusion.status.code ≠ 0 → conclusion.output = []
  written : ∀ path, arguments.initOutput = some path → conclusion.status.code = 0 →
    environment.tree.Written (environment.expand path) (Utf8.octets FileSettings.template)
      conclusion.tree
  unchanged : arguments.initOutput = none ∨ conclusion.status.code ≠ 0 →
    conclusion.tree = environment.tree
  uncalled : arguments.initOutput ≠ none ∨ conclusion.status.code = 1 → conclusion.events = []
  acquired : arguments.initOutput = none → conclusion.status.code ≠ 1 →
    conclusion.events.countP Event.isAcquire = 1
  released : arguments.initOutput = none → conclusion.status.code ≠ 1 →
    conclusion.events.countP Event.isRelease = if source.acquire = .ok () then 1 else 0

namespace Tidy

variable {environment : Environment} {source : Source} {arguments : Arguments}
  {conclusion : Conclusion}

theorem of_unspoken (tidy : Tidy environment source arguments conclusion.unspoken) :
    Tidy environment source arguments conclusion :=
  ⟨tidy.silent, tidy.written, tidy.unchanged, tidy.uncalled, tidy.acquired, tidy.released⟩

/-- A run that writes the file that it was asked for. -/
theorem of_written {path : Path} {tree : FileTree} (asked : arguments.initOutput = some path)
    (written : environment.tree.Written (environment.expand path)
      (Utf8.octets FileSettings.template) tree) (output : List UInt8) :
    Tidy environment source arguments ⟨.success, output, [], tree, []⟩ where
  silent unsuccessful := absurd rfl unsuccessful
  written other same _ := by
    obtain rfl := Option.some.inj (asked.symm.trans same)
    exact written
  unchanged idle := by
    rcases idle with showing | unsuccessful
    · cases asked.symm.trans showing
    · exact absurd rfl unsuccessful
  uncalled _ := rfl
  acquired showing := nomatch asked.symm.trans showing
  released showing := nomatch asked.symm.trans showing

/-- A run that fails before any call. -/
theorem of_misconfigured (notices : List Notice) :
    Tidy environment source arguments ⟨.misconfigured, [], notices, environment.tree, []⟩ where
  silent _ := rfl
  written _ _ successful := nomatch successful
  unchanged _ := rfl
  uncalled _ := rfl
  acquired _ loaded := absurd rfl loaded
  released _ loaded := absurd rfl loaded

/-- A run that calls: all that counts are the output and the numbers of the calls. -/
theorem of_calls {status : ExitStatus} {output : List UInt8} {notices : List Notice}
    {events : List Event} (showing : arguments.initOutput = none) (loaded : status.code ≠ 1)
    (silent : status.code ≠ 0 → output = []) (acquired : events.countP Event.isAcquire = 1)
    (released : events.countP Event.isRelease = if source.acquire = .ok () then 1 else 0) :
    Tidy environment source arguments ⟨status, output, notices, environment.tree, events⟩ where
  silent := silent
  written path asked := nomatch showing.symm.trans asked
  unchanged _ := rfl
  uncalled halted := by
    rcases halted with asked | unloaded
    · exact absurd showing asked
    · exact absurd unloaded loaded
  acquired _ _ := acquired
  released _ _ := released

end Tidy

section

variable {read : PatternReader} {environment : Environment} {source : Source}
  {arguments : Arguments} {settings : Settings}

theorem run_of_unacquired {error : NativeError} (loads : Loads read environment arguments settings)
    (unacquired : source.acquire = .error error) :
    let conclusion := run read environment source arguments
    (conclusion.status.code = 2 ∧ conclusion.output = []) ∧
      Tidy environment source arguments conclusion := by
  have ended := (run_of_loads loads).trans
    (report_of_unacquired unacquired environment.tree settings)
  refine ⟨⟨congrArg (·.status.code) ended, congrArg (·.output) ended⟩, .of_unspoken ?_⟩
  rw [ended]
  refine .of_calls loads.1 (by decide) (fun _ => rfl) rfl ?_
  rw [unacquired]
  rfl

/-- With a handle a run ends as its report does. -/
theorem run_of_acquired (loads : Loads read environment arguments settings)
    (acquired : source.acquire = .ok ()) {result : Except ReportError Showing}
    {output : List UInt8} {room : Option Nat}
    (reported : Report.write source settings (.new ()) .boundless =
      (result, (Browser.read source (.new ())).2, ⟨output, room⟩))
    (silent : (closing settings result).1.code ≠ 0 → output = []) :
    let conclusion := run read environment source arguments
    (conclusion.status = (closing settings result).1 ∧ conclusion.output = output) ∧
      Tidy environment source arguments conclusion := by
  have ended := (run_of_loads loads).trans (report_of_acquired acquired environment.tree reported)
  refine ⟨⟨congrArg (·.status) ended, congrArg (·.output) ended⟩, .of_unspoken ?_⟩
  rw [ended]
  obtain ⟨once, released⟩ := Browser.calls_of_close_drop (Browser.Account.created source).read
  refine .of_calls loads.1 ?_ silent once ?_
  · unfold closing
    split <;> exact nofun
  · rw [if_pos acquired]
    exact released

theorem run_of_course {code : Nat} {output : List UInt8}
    (course : Course read environment source arguments code output) :
    let conclusion := run read environment source arguments
    (conclusion.status.code = code ∧ conclusion.output = output) ∧
      Tidy environment source arguments conclusion := by
  cases course with
  | @templateWritten path tree asked written =>
      have ended : run read environment source arguments =
          ⟨.success, Utf8.octets ("Configuration template written to: " ++ path.text ++ "\n"), [],
            tree, []⟩ := by
        simp only [run, asked, writeTemplate, written]
      rw [ended]
      exact ⟨⟨rfl, rfl⟩, .of_written asked (FileSettings.written_of_writeTemplate written) _⟩
  | @templateUnwritten path error asked unwritten =>
      have ended : run read environment source arguments =
          ⟨.misconfigured, [], [.plain ("Error: " ++ error.message)], environment.tree, []⟩ := by
        simp only [run, asked, writeTemplate, unwritten]
      rw [ended]
      exact ⟨⟨rfl, rfl⟩, .of_misconfigured _⟩
  | @unloaded error showing unloaded =>
      have ended : run read environment source arguments =
          ⟨.misconfigured, [], loadingNotices environment arguments ++ configurationNotices error,
            environment.tree, []⟩ := by
        simp only [run, showing, showInterfaces, unloaded]
      rw [ended]
      exact ⟨⟨rfl, rfl⟩, .of_misconfigured _⟩
  | unacquired loads unacquired => exact run_of_unacquired loads unacquired
  | @unfetched settings error loads acquired unfetched =>
      have pending : (Browser.new ()).phase = .pending := rfl
      have failed : Browser.read source (.new ()) =
          (.error (.native error), (Browser.read source (.new ())).2) := by
        rw [Browser.read_of_failed source pending unfetched]
      obtain ⟨⟨status, output⟩, tidy⟩ := run_of_acquired loads acquired
        (Report.write_of_failed failed settings .boundless) fun _ => rfl
      exact ⟨⟨congrArg ExitStatus.code status, output⟩, tidy⟩
  | @unmatched settings listing text lists asked unmatched =>
      obtain ⟨loads, acquired, fetched⟩ := lists
      have presents : Browser.Presents source (.new ()) listing.interfaces :=
        .pending rfl fetched
      have target : settings.target = some (.parse text) := by
        rw [Settings.target_of_load loads.2, asked]
        rfl
      obtain ⟨⟨status, output⟩, tidy⟩ := run_of_acquired loads acquired
        (Report.write_of_unmatched presents target unmatched []) fun _ => rfl
      exact ⟨⟨congrArg ExitStatus.code status, output⟩, tidy⟩
  | @shown settings listing output lists shows =>
      obtain ⟨loads, acquired, fetched⟩ := lists
      have presents : Browser.Presents source (.new ()) listing.interfaces :=
        .pending rfl fetched
      obtain ⟨count, reported⟩ :=
        Report.write_of_shows presents (Settings.target_of_load loads.2) shows
      obtain ⟨⟨status, output⟩, tidy⟩ := run_of_acquired loads acquired reported
        fun unsuccessful => absurd rfl unsuccessful
      exact ⟨⟨congrArg ExitStatus.code status, output⟩, tidy⟩

end

/-- The exit code and the output of a run tell in which way it went, and every run is tidy. -/
theorem run_exits (read : PatternReader) (environment : Environment) (source : Source)
    (arguments : Arguments) :
    let conclusion := run read environment source arguments
    (∀ code output, conclusion.status.code = code ∧ conclusion.output = output ↔
        Course read environment source arguments code output) ∧
      Tidy environment source arguments conclusion := by
  intro conclusion
  obtain ⟨code, output, course⟩ := exists_course read environment source arguments
  refine ⟨fun other further => ⟨?_, fun course => (run_of_course course).1⟩,
    (run_of_course course).2⟩
  -- The course that there is has the code and the output of the run, so it is the one asked for.
  rintro ⟨rfl, rfl⟩
  obtain ⟨status, written⟩ := (run_of_course course).1
  rwa [← status, ← written] at course

end Application

end NetInterface
