import NetInterface.Proofs.Report.Targets

/-!
What a report comes to.

A report on a browser that cannot be read fails and writes nothing. Otherwise it writes the one
interface that the target asks for or, without a target, the interfaces that the filter accepts
(`Shows`), unless there is no interface that the target asks for.
-/

namespace NetInterface

open Text

namespace Report

/-- Interfaces in a format, one text after another or all in one document. -/
def listing (format : OutputFormat) (interfaces : List Interface) : String :=
  match format with
  | .text => lines interfaces
  | .json => (Json.array (interfaces.map Interface.json)).indented ++ "\n"

/-- What is to be written for a target or, without one, for the filter. -/
inductive Shows (settings : Settings) (interfaces : List Interface) :
    Option String → List UInt8 → Prop
  | listing : Shows settings interfaces none
      (Utf8.octets (listing settings.format (interfaces.filter settings.filter.accepts)))
  | single {text : String} {interface : Interface}
      (requested : requested? interfaces text = some interface) :
      Shows settings interfaces (some text) (Utf8.octets (rendering settings.format interface))

/-- There is something to be written, unless nothing is what the target asks for. -/
theorem exists_shows_or_unmatched (settings : Settings) (interfaces : List Interface)
    (target : Option String) :
    (∃ output, Shows settings interfaces target output) ∨
      ∃ text, target = some text ∧ requested? interfaces text = none := by
  cases target with
  | none => exact .inl ⟨_, .listing⟩
  | some text =>
      cases requested : requested? interfaces text with
      | none => exact .inr ⟨text, rfl, requested⟩
      | some interface => exact .inl ⟨_, .single requested⟩

section

variable {source : Source} {browser : Browser} {settings : Settings}

/-- Nothing is written if the browser cannot be read. -/
theorem write_of_failed {after : Browser} {error : BrowserError}
    (failed : browser.read source = (.error error, after)) (settings : Settings) (sink : Sink) :
    write source settings browser sink = (.error (.browser error), after, sink) := by
  unfold write
  split
  · simp only [showTarget, failed]
  · split
    · exact listText_of_failed failed settings.filter sink
    · exact listJson_of_failed failed settings.filter sink

variable {interfaces : List Interface}

theorem write_of_targetless (presents : browser.Presents source interfaces)
    (targetless : settings.target = none) (written : List UInt8) :
    write source settings browser ⟨written, none⟩ =
      (.ok (.shown (interfaces.filter settings.filter.accepts).length), (browser.read source).2,
        ⟨written ++ Utf8.octets
          (listing settings.format (interfaces.filter settings.filter.accepts)), none⟩) := by
  obtain ⟨fetch, succeeded⟩ := presents.read
  have kept := Snapshot.toList_ofList interfaces
  unfold write listing
  rw [targetless]
  cases settings.format with
  | text => simp only [listText_of_read succeeded, kept]
  | json => simp only [listJson_of_read succeeded, kept]

theorem write_of_shows {target : Option String} {output : List UInt8}
    (presents : browser.Presents source interfaces)
    (asked : settings.target = target.map Target.parse)
    (shows : Shows settings interfaces target output) :
    ∃ count, write source settings browser .boundless =
      (.ok (.shown count), (browser.read source).2, ⟨output, none⟩) := by
  cases shows with
  | listing => exact ⟨_, write_of_targetless presents asked []⟩
  | single requested =>
      refine ⟨1, (write_of_target presents asked []).trans ?_⟩
      rw [requested]
      rfl

/-- Nothing is written if there is no interface that the target asks for. -/
theorem write_of_unmatched {text : String} (presents : browser.Presents source interfaces)
    (asked : settings.target = some (.parse text))
    (unmatched : requested? interfaces text = none) (written : List UInt8) :
    write source settings browser ⟨written, none⟩ =
      (.ok .notFound, (browser.read source).2, ⟨written, none⟩) := by
  rw [write_of_target presents asked, unmatched]
  rfl

end

end Report

end NetInterface
