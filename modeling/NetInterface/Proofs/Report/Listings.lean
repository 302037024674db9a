import NetInterface.Proofs.Browser.Phases
import NetInterface.Proofs.Text.Utf8
import NetInterface.Report.Basic

/-!
Listings in both formats.

Texts are written one by one during a visit of all interfaces, a document all at once from the
snapshot. Into a sink that always has room both write the interfaces of the same snapshot that the
filter accepts, and both leave the same browser. Which interfaces these are, or which error there is
instead, is told by what the browser holds and by its next fetch (`listings_agree`).
-/

namespace NetInterface

open Text

/-- A read that succeeds answers from the population that there is, or from the listing that it
fetched, in the order of the listing. -/
theorem Browser.snapshot_of_read {source : Source} {browser after : Browser}
    {population : Population} (succeeded : browser.read source = (.ok population, after)) :
    browser.phase = .populated population ∨
      browser.phase = .pending ∧ ∃ listing, source.fetch browser.fetches = .ok listing ∧
        population.snapshot.toList = listing.interfaces := by
  cases phase : browser.phase with
  | closed => cases (read_of_closed source phase).symm.trans succeeded
  | populated known =>
      cases (read_of_populated source phase).symm.trans succeeded
      exact .inl rfl
  | pending =>
      refine .inr ⟨rfl, ?_⟩
      cases fetched : source.fetch browser.fetches with
      | error error => cases (read_of_failed source phase fetched).symm.trans succeeded
      | ok listing =>
          cases (read_of_fetched source phase fetched).symm.trans succeeded
          exact ⟨listing, rfl, Snapshot.toList_ofList listing.interfaces⟩

namespace Report

/-- The texts of the interfaces, each with a line break. -/
def lines (interfaces : List Interface) : String :=
  String.join (interfaces.map (·.text ++ "\n"))

theorem lines_cons (interface : Interface) (interfaces : List Interface) :
    lines (interface :: interfaces) = interface.text ++ "\n" ++ lines interfaces := by
  simp [lines]

/-- The progress of a listing into a sink with room that has not failed. -/
abbrev Progress.unfailing (written : List UInt8) (shown : Nat) : Progress :=
  ⟨⟨written, none⟩, shown, none⟩

theorem Progress.visit_accepted {filter : FilterChain} {interface : Interface}
    (accepted : filter.accepts interface = true) (written : List UInt8) (shown : Nat) :
    (Progress.unfailing written shown).visit filter interface =
      (true, .unfailing (written ++ Utf8.octets (interface.text ++ "\n")) (shown + 1)) := by
  rw [visit, if_pos accepted]
  rfl

theorem Progress.visit_rejected {filter : FilterChain} {interface : Interface}
    (rejected : filter.accepts interface = false) (progress : Progress) :
    progress.visit filter interface = (true, progress) := by
  simp [visit, rejected]

/-- What the visits of a listing do to the browser and the progress. -/
abbrev visiting (filter : FilterChain) (interface : Interface) (state : Browser × Progress) :
    Bool × (Browser × Progress) :=
  let (goOn, progress) := state.2.visit filter interface
  (goOn, state.1, progress)

theorem visitWhile_visiting (filter : FilterChain) (browser : Browser)
    (interfaces : List Interface) (written : List UInt8) (shown : Nat) :
    visitWhile (visiting filter) interfaces (browser, .unfailing written shown) =
      (true, browser, .unfailing
        (written ++ Utf8.octets (lines (interfaces.filter filter.accepts)))
        (shown + (interfaces.filter filter.accepts).length)) := by
  -- Every visit starts from what the visits before it wrote, so the induction is for all progress.
  induction interfaces generalizing written shown with
  | nil => simp [visitWhile, lines]
  | cons interface interfaces inductionHypothesis =>
      cases accepted : filter.accepts interface with
      | true =>
          rw [visitWhile, visiting, Progress.visit_accepted accepted]
          simp only
          rw [inductionHypothesis, List.filter_cons_of_pos accepted, lines_cons]
          simp [Nat.add_assoc, Nat.add_comm]
      | false =>
          rw [visitWhile, visiting, Progress.visit_rejected accepted]
          simp only
          rw [inductionHypothesis, List.filter_cons_of_neg (by simp [accepted])]

section

variable {source : Source} {browser after : Browser}

theorem listText_of_failed {error : BrowserError}
    (failed : browser.read source = (.error error, after)) (filter : FilterChain) (sink : Sink) :
    listText source filter browser sink = (.error (.browser error), after, sink) := by
  simp [listText, Browser.forEach, failed]

theorem listJson_of_failed {error : BrowserError}
    (failed : browser.read source = (.error error, after)) (filter : FilterChain) (sink : Sink) :
    listJson source filter browser sink = (.error (.browser error), after, sink) := by
  simp [listJson, failed]

variable {population : Population}

theorem listText_of_read (succeeded : browser.read source = (.ok population, after))
    (filter : FilterChain) (written : List UInt8) :
    listText source filter browser ⟨written, none⟩ =
      (.ok (.shown (population.snapshot.toList.filter filter.accepts).length), after,
        ⟨written ++ Utf8.octets (lines (population.snapshot.toList.filter filter.accepts)),
          none⟩) := by
  have visited := visitWhile_visiting filter after population.snapshot.toList written 0
  simp only [listText, Browser.forEach, succeeded]
  rw [visited]
  simp

theorem listJson_of_read (succeeded : browser.read source = (.ok population, after))
    (filter : FilterChain) (written : List UInt8) :
    listJson source filter browser ⟨written, none⟩ =
      (.ok (.shown (population.snapshot.toList.filter filter.accepts).length), after,
        ⟨written ++ Utf8.octets
          ((Json.array ((population.snapshot.toList.filter filter.accepts).map
            Interface.json)).indented ++ "\n"), none⟩) := by
  have document (document : Json) : writeDocument ⟨written, none⟩ document =
      (.ok (), ⟨written ++ Utf8.octets (document.indented ++ "\n"), none⟩) := by
    simp [writeDocument, Sink.write, Sink.take]
  simp only [listJson, succeeded, document]
  rfl

end

/-- Both formats show the interfaces of one snapshot that the filter accepts, in its order, and say
how many they are. They leave the same browser, with the same events, and if it cannot be read they
fail alike and write nothing. A populated browser and one whose fetch succeeds are shown, and only a
closed one and one whose fetch fails are not. -/
theorem listings_agree (source : Source) (filter : FilterChain) (verbose : Bool)
    (browser : Browser) (written : List UInt8) :
    let report (format : OutputFormat) :=
      write source ⟨none, format, filter, verbose⟩ browser ⟨written, none⟩
    let fails (error : BrowserError) (after : Browser) :=
      ∀ format, report format = (.error (.browser error), after, ⟨written, none⟩)
    let shows (interfaces : List Interface) (after : Browser) :=
      let accepted := interfaces.filter filter.accepts
      report .text =
          (.ok (.shown accepted.length), after,
            ⟨written ++ Utf8.octets (lines accepted), none⟩) ∧
        report .json =
          (.ok (.shown accepted.length), after,
            ⟨written ++ Utf8.octets ((Json.array (accepted.map Interface.json)).indented ++ "\n"),
              none⟩)
    (match browser.read source with
      | (.error error, after) => fails error after
      | (.ok population, after) =>
          (browser.phase = .populated population ∨
              browser.phase = .pending ∧ ∃ listing, source.fetch browser.fetches = .ok listing ∧
                population.snapshot.toList = listing.interfaces) ∧
            shows population.snapshot.toList after) ∧
      match browser.phase with
      | .closed => fails (.illegalState .closed) browser
      | .populated population => shows population.snapshot.toList browser
      | .pending =>
          match source.fetch browser.fetches with
          | .error error => fails (.native error) (browser.record [.fetchFailed error])
          | .ok listing => shows listing.interfaces (browser.fill listing) := by
  intro report fails shows
  have failing {error : BrowserError} {after : Browser}
      (failed : browser.read source = (.error error, after)) : fails error after := by
    intro format
    cases format with
    | text => exact listText_of_failed failed filter _
    | json => exact listJson_of_failed failed filter _
  have showing {population : Population} {after : Browser}
      (succeeded : browser.read source = (.ok population, after)) :
      shows population.snapshot.toList after :=
    ⟨listText_of_read succeeded filter written, listJson_of_read succeeded filter written⟩
  constructor
  · split
    · next failed => exact failing failed
    · next succeeded => exact ⟨Browser.snapshot_of_read succeeded, showing succeeded⟩
  · split
    · next closed => exact failing (Browser.read_of_closed source closed)
    · next populated => exact showing (Browser.read_of_populated source populated)
    · next pending =>
      split
      · next failed => exact failing (Browser.read_of_failed source pending failed)
      · next listing fetched =>
        have shown := showing (Browser.read_of_fetched source pending fetched)
        have kept := Snapshot.toList_ofList listing.interfaces
        rwa [Population.ofListing, kept] at shown

end Report

end NetInterface
