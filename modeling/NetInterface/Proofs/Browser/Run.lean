import NetInterface.Browser.Program
import NetInterface.Proofs.Browser.Phases

/-!
Runs of programs as sequences of steps.

`Effect` lists all that a query can do to a browser. `tour_cases` reduces a visit of all interfaces
to a list followed by programs that are run in turn, and `run_trace` shows that the steps of a run,
however deeply its visits are nested, lead one after another from the browser that the run starts
with to the browser that it ends with. What every effect preserves is thus preserved by every run,
and what a new browser has as well is had by all that are `Reachable`. In particular no reachable
browser keeps a cache without a handle (`Reachable.consistent`).
-/

namespace NetInterface

/-- What a query says of the population that it is answered from; absent if it reads nothing. -/
def Query.reading? : Query → Option (Population → Answer)
  | .named name => some fun population => .found (population.snapshot.named? name)
  | .numbered index => some fun population => .found (population.snapshot.numbered? index)
  | .list => some .listed
  | .size => some fun population => .size population.snapshot.size
  | .isEmpty => some fun population => .truth (population.snapshot.size = 0)
  | .isClosed | .isPopulated | .text | .inspect | .close => none

/-- What a query says of what the browser holds; absent if it does more than that. -/
def Query.observing? : Query → Option (Holdings → Answer)
  | .isClosed => some fun holdings => .truth holdings.isClosed
  | .isPopulated => some fun holdings => .truth holdings.isPopulated
  | .text => some fun holdings => .text holdings.text
  | .inspect => some fun holdings => .text holdings.inspect
  | .named _ | .numbered _ | .list | .size | .isEmpty | .close => none

namespace Browser

/-- All that a query can do to a browser, with its answer and the browser that it leaves. -/
inductive Effect (source : Source) (browser : Browser) : Query → Answer → Browser → Prop
  | refused {query say} (reading : query.reading? = some say) (closed : browser.phase = .closed) :
      Effect source browser query (.failed (.illegalState .closed)) browser
  | shared {query say population} (reading : query.reading? = some say)
      (populated : browser.phase = .populated population) :
      Effect source browser query (say population) browser
  | failed {query say error} (reading : query.reading? = some say)
      (pending : browser.phase = .pending)
      (fetched : source.fetch browser.fetches = .error error) :
      Effect source browser query (.failed (.native error)) (browser.record [.fetchFailed error])
  | filled {query say listing} (reading : query.reading? = some say)
      (pending : browser.phase = .pending)
      (fetched : source.fetch browser.fetches = .ok listing) :
      Effect source browser query (say (.ofListing browser.fetches listing))
        (browser.fill listing)
  | observed {query say} (observing : query.observing? = some say) :
      Effect source browser query (say browser.holdings) browser
  | released (unclosed : browser.phase ≠ .closed) :
      Effect source browser .close .done ⟨⟨none, none⟩, browser.events ++ [releasing source]⟩
  | idle (closed : browser.phase = .closed) :
      Effect source browser .close .done ⟨⟨none, none⟩, browser.events⟩

theorem answer_eq_answerRead (source : Source) (browser : Browser) {query : Query}
    {say : Population → Answer} (reading : query.reading? = some say) :
    browser.answer source query = browser.answerRead source say := by
  cases query <;> cases reading <;> rfl

theorem effect_answerRead (source : Source) (browser : Browser) {query : Query}
    {say : Population → Answer} (reading : query.reading? = some say) :
    Effect source browser query (browser.answerRead source say).1
      (browser.answerRead source say).2 := by
  rw [answerRead, read_eq]
  cases phase : browser.phase with
  | closed => exact .refused reading phase
  | populated population => exact .shared reading phase
  | pending =>
      cases fetched : source.fetch browser.fetches with
      | error error => exact .failed reading phase fetched
      | ok listing => exact .filled reading phase fetched

theorem effect_close (source : Source) (browser : Browser) :
    Effect source browser .close .done (browser.close source) := by
  by_cases closed : browser.phase = .closed
  · rw [close_of_closed source closed]
    exact .idle closed
  · rw [close_of_unclosed source closed]
    exact .released closed

theorem answer_eq_observed (source : Source) (browser : Browser) {query : Query}
    {say : Holdings → Answer} (observing : query.observing? = some say) :
    browser.answer source query = (say browser.holdings, browser) := by
  cases query <;> cases observing <;> rfl

/-- Every query has one of the effects. -/
theorem effect_answer (source : Source) (browser : Browser) (query : Query) :
    Effect source browser query (browser.answer source query).1
      (browser.answer source query).2 := by
  have observed {say : Holdings → Answer} (observing : query.observing? = some say) :
      Effect source browser query (browser.answer source query).1
        (browser.answer source query).2 := by
    rw [answer_eq_observed source browser observing]
    exact .observed observing
  have read {say : Population → Answer} (reading : query.reading? = some say) :
      Effect source browser query (browser.answer source query).1
        (browser.answer source query).2 := by
    rw [answer_eq_answerRead source browser reading]
    exact effect_answerRead source browser reading
  cases query with
  | named | numbered | list | size | isEmpty => exact read rfl
  | isClosed | isPopulated | text | inspect => exact observed rfl
  | close => exact effect_close source browser

/-- A cache is filled only while the handle is held, and a close empties it. -/
theorem Effect.consistent {source : Source} {browser after : Browser} {query : Query}
    {answer : Answer} (effect : Effect source browser query answer after)
    (consistent : browser.holdings.Consistent) : after.holdings.Consistent := by
  cases effect with
  | refused | shared | failed | observed => exact consistent
  | filled reading pending fetched =>
      rw [holdings_fill pending]
      exact Holdings.consistent_holdings (.populated _)
  | released | idle => exact Holdings.consistent_holdings .closed

/-- The steps lead from the first browser to the last, each from where the one before it led. -/
inductive Trace (source : Source) : Browser → List Step → Browser → Prop
  | nil (browser : Browser) : Trace source browser [] browser
  | cons {browser last : Browser} (query : Query) {steps : List Step}
      (rest : Trace source (browser.step source query).after steps last) :
      Trace source browser (browser.step source query :: steps) last

namespace Trace

variable {source : Source} {browser middle last : Browser} {steps others : List Step}

theorem append (trace : Trace source browser steps middle)
    (further : Trace source middle others last) : Trace source browser (steps ++ others) last := by
  induction trace with
  | nil => exact further
  | cons query _ inductionHypothesis => exact .cons query (inductionHypothesis further)

/-- A trace can be broken off anywhere. -/
theorem split (trace : Trace source browser (steps ++ others) last) :
    ∃ middle, Trace source browser steps middle ∧ Trace source middle others last := by
  induction steps generalizing browser with
  | nil => exact ⟨browser, .nil browser, trace⟩
  | cons step steps inductionHypothesis =>
      cases trace with
      | cons query rest =>
          obtain ⟨middle, front, back⟩ := inductionHypothesis rest
          exact ⟨middle, .cons query front, back⟩

/-- A trace through a step arrives at the browser before it and goes on from the one after it. -/
theorem split_at {before after : List Step} {step : Step}
    (trace : Trace source browser (before ++ step :: after) last) :
    Trace source browser before step.before ∧ step = step.before.step source step.query ∧
      Trace source step.after after last := by
  obtain ⟨middle, front, back⟩ := trace.split
  cases back with
  | cons query rest => exact ⟨front, rfl, rest⟩

theorem preserves {P : Browser → Prop} (trace : Trace source browser steps last)
    (preserved : ∀ {before query answer after},
      Effect source before query answer after → P before → P after)
    (holds : P browser) : P last := by
  induction trace with
  | nil => exact holds
  | cons query _ inductionHypothesis =>
      exact inductionHypothesis (preserved (effect_answer source _ query) holds)

/-- Every step of a trace is an effect on a browser with the property that all effects preserve. -/
theorem effect_of_mem {P : Browser → Prop} (trace : Trace source browser steps last)
    (preserved : ∀ {before query answer after},
      Effect source before query answer after → P before → P after)
    (holds : P browser) {step : Step} (member : step ∈ steps) :
    P step.before ∧ Effect source step.before step.query step.answer step.after := by
  obtain ⟨before, after, rfl⟩ := List.append_of_mem member
  obtain ⟨front, taken, -⟩ := trace.split_at
  refine ⟨front.preserves preserved holds, ?_⟩
  rw [taken]
  exact effect_answer source step.before step.query

end Trace

/-- The browsers that come of creating one and putting queries to it. -/
inductive Reachable (source : Source) : Browser → Prop
  | created {browser : Browser} (created : create source = .ok browser) : Reachable source browser
  | step {browser : Browser} (reachable : Reachable source browser) (query : Query) :
      Reachable source (browser.step source query).after

namespace Reachable

variable {source : Source} {browser last : Browser} {steps : List Step}

theorem consistent (reachable : Reachable source browser) : browser.holdings.Consistent := by
  induction reachable with
  | created created =>
      unfold create at created
      split at created
      · cases created
        exact Holdings.consistent_holdings .pending
      · cases created
  | @step browser reachable query inductionHypothesis =>
      exact (effect_answer source browser query).consistent inductionHypothesis

theorem of_trace (reachable : Reachable source browser) (trace : Trace source browser steps last) :
    Reachable source last := by
  induction trace with
  | nil => exact reachable
  | cons query _ inductionHypothesis => exact inductionHypothesis (reachable.step query)

end Reachable

/-- The reachable browsers are those that the traces from a new one end with. -/
theorem reachable_iff {source : Source} {browser : Browser} :
    Reachable source browser ↔
      ∃ first steps, create source = .ok first ∧ Trace source first steps browser := by
  constructor
  · intro reachable
    induction reachable with
    | created created => exact ⟨_, [], created, .nil _⟩
    | @step browser _ query inductionHypothesis =>
        obtain ⟨first, steps, created, trace⟩ := inductionHypothesis
        refine ⟨first, steps ++ [browser.step source query], created, ?_⟩
        apply trace.append
        exact .cons query (.nil _)
  · rintro ⟨first, steps, created, trace⟩
    exact (Reachable.created created).of_trace trace

end Browser

namespace Program

open Browser

variable (source : Source)

/-- Runs a program for each interface, one after the other, whatever they say of going on. -/
def inTurn (visit : List Visit → Interface → Browser → Outcome) :
    List Interface → List Visit → Browser → List Outcome
  | [], _, _ => []
  | interface :: interfaces, visits, browser =>
      let outcome := visit visits interface browser
      outcome :: inTurn visit interfaces (visits ++ [(interface, outcome.answers)]) outcome.browser

/-- The browser that the last of the outcomes left, or the given one if there is none. -/
def lastBrowser (browser : Browser) (outcomes : List Outcome) : Browser :=
  outcomes.foldl (fun _ outcome => outcome.browser) browser

/-- The outcomes are those of visits to a first part of the interfaces, up to and including the
first visit that said to stop. -/
inductive Covers : List Interface → List Interface → List Outcome → Prop
  | nil : Covers [] [] []
  | stop {outcome : Outcome} (goOn : outcome.goOn = false) (interface : Interface)
      (interfaces : List Interface) : Covers (interface :: interfaces) [interface] [outcome]
  | cons {outcome : Outcome} (goOn : outcome.goOn = true) (interface : Interface)
      {interfaces visited : List Interface} {outcomes : List Outcome}
      (covers : Covers interfaces visited outcomes) :
      Covers (interface :: interfaces) (interface :: visited) (outcome :: outcomes)

namespace Covers

variable {interfaces visited : List Interface} {outcomes : List Outcome}

theorem visited_prefix (covers : Covers interfaces visited outcomes) : visited <+: interfaces := by
  induction covers with
  | nil => exact List.prefix_rfl
  | stop goOn interface interfaces => exact ⟨interfaces, rfl⟩
  | cons goOn interface covers inductionHypothesis =>
      exact (List.prefix_cons_inj interface).mpr inductionHypothesis

theorem length_eq (covers : Covers interfaces visited outcomes) :
    visited.length = outcomes.length := by
  induction covers with
  | nil | stop => rfl
  | cons goOn interface covers inductionHypothesis =>
      simpa using inductionHypothesis

theorem visits_fst (covers : Covers interfaces visited outcomes) :
    (visited.zip (outcomes.map (·.answers))).map (·.1) = visited :=
  List.map_fst_zip (by simp [covers.length_eq])

theorem visits_snd (covers : Covers interfaces visited outcomes) :
    (visited.zip (outcomes.map (·.answers))).map (·.2) = outcomes.map (·.answers) :=
  List.map_snd_zip (by simp [covers.length_eq])

theorem eq_of_all (covers : Covers interfaces visited outcomes)
    (all : outcomes.all (·.goOn) = true) : visited = interfaces := by
  induction covers with
  | nil => rfl
  | stop goOn interface interfaces => simp [goOn] at all
  | cons goOn interface covers inductionHypothesis =>
      rw [inductionHypothesis (by simpa [goOn] using all)]

end Covers

/-- Visiting until a visit says to stop is running the programs of a first part of the interfaces
in turn. -/
theorem visitWhile_visitOne (visit : List Visit → Interface → Browser → Outcome)
    (interfaces : List Interface) (browser : Browser) (visits : List Visit) (steps : List Step) :
    ∃ visited,
      Covers interfaces visited (inTurn visit visited visits browser) ∧
      visitWhile (visitOne visit) interfaces (browser, visits, steps) =
        let outcomes := inTurn visit visited visits browser
        (outcomes.all (·.goOn), lastBrowser browser outcomes,
          visits ++ visited.zip (outcomes.map (·.answers)),
          steps ++ outcomes.flatMap (·.steps)) := by
  induction interfaces generalizing browser visits steps with
  | nil => exact ⟨[], .nil, by simp [visitWhile, inTurn, lastBrowser]⟩
  | cons interface interfaces inductionHypothesis =>
      cases goOn : (visit visits interface browser).goOn with
      | false =>
          refine ⟨[interface], .stop goOn interface interfaces, ?_⟩
          simp [visitWhile, visitOne, inTurn, lastBrowser, goOn]
      | true =>
          obtain ⟨visited, covers, visiting⟩ := inductionHypothesis
            (visit visits interface browser).browser
            (visits ++ [(interface, (visit visits interface browser).answers)])
            (steps ++ (visit visits interface browser).steps)
          refine ⟨interface :: visited, covers.cons goOn interface, ?_⟩
          simp [visitWhile, visitOne, inTurn, lastBrowser, goOn, visiting]

/-- A visit of all interfaces fails as a list would, or else runs the visits in turn from where the
list led. -/
theorem tour_cases (visit : List Visit → Interface → Browser → Outcome) (browser : Browser) :
    (∃ error, (browser.step source .list).answer = .failed error ∧
      tour source visit browser =
        ⟨.failed error, (browser.step source .list).after, [browser.step source .list]⟩) ∨
    ∃ population visited, (browser.step source .list).answer = .listed population ∧
      let outcomes := inTurn visit visited [] (browser.step source .list).after
      Covers population.snapshot.toList visited outcomes ∧
      tour source visit browser =
        ⟨.visited (outcomes.all (·.goOn)) (visited.zip (outcomes.map (·.answers))),
          lastBrowser (browser.step source .list).after outcomes,
          browser.step source .list :: outcomes.flatMap (·.steps)⟩ := by
  cases reading : browser.read source with
  | mk result after =>
      cases result with
      | error error =>
          refine .inl ⟨error, ?_, ?_⟩
          · simp [step, answer, answerRead, reading]
          · simp [tour, Browser.forEach, step, answer, answerRead, reading]
      | ok population =>
          obtain ⟨visited, covers, visiting⟩ := visitWhile_visitOne visit
            population.snapshot.toList after [] [browser.step source .list]
          have listed : (browser.step source .list).after = after := by
            simp [step, answer, answerRead, reading]
          refine .inr ⟨population, visited, ?_, ?_, ?_⟩
          · simp [step, answer, answerRead, reading]
          · rw [listed]
            exact covers
          · simp [tour, Browser.forEach, reading, visiting, listed]

theorem trace_inTurn (visit : List Visit → Interface → Browser → Outcome)
    (trace : ∀ visits interface browser,
      Trace source browser (visit visits interface browser).steps
        (visit visits interface browser).browser)
    (interfaces : List Interface) (visits : List Visit) (browser : Browser) :
    let outcomes := inTurn visit interfaces visits browser
    Trace source browser (outcomes.flatMap (·.steps)) (lastBrowser browser outcomes) := by
  induction interfaces generalizing visits browser with
  | nil => exact .nil browser
  | cons interface interfaces inductionHypothesis =>
      simp only [inTurn, List.flatMap_cons]
      exact (trace visits interface browser).append (inductionHypothesis _ _)

theorem trace_tour (visit : List Visit → Interface → Browser → Outcome)
    (trace : ∀ visits interface browser,
      Trace source browser (visit visits interface browser).steps
        (visit visits interface browser).browser)
    (browser : Browser) :
    Trace source browser (tour source visit browser).steps
      (tour source visit browser).browser := by
  rcases tour_cases source visit browser with
    ⟨error, _, failed⟩ | ⟨population, visited, _, _, visiting⟩
  · rw [failed]
    exact .cons .list (.nil _)
  · rw [visiting]
    exact .cons .list (trace_inTurn source visit trace visited [] _)

/-- The steps of a run lead from the browser that it starts with to the one that it ends with. -/
theorem run_trace (program : Program) (browser : Browser) :
    Trace source browser (program.run source browser).steps
      (program.run source browser).browser := by
  induction program generalizing browser with
  | stop goOn => exact .nil browser
  | ask query next inductionHypothesis =>
      exact .cons query (inductionHypothesis _ _)
  | forEach visit next visitHypothesis nextHypothesis =>
      have touring := trace_tour source
        (fun visits interface => (visit visits interface).run source) visitHypothesis browser
      exact touring.append (nextHypothesis _ _)

/-- From a reachable browser a run comes to reachable browsers only, also inside its visits. -/
theorem reachable_run (program : Program) {browser : Browser}
    (reachable : Reachable source browser) :
    Reachable source (program.run source browser).browser ∧
      ∀ step ∈ (program.run source browser).steps,
        Reachable source step.before ∧ Reachable source step.after := by
  have trace := program.run_trace source browser
  refine ⟨reachable.of_trace trace, ?_⟩
  intro step member
  obtain ⟨earlier, later, same⟩ := List.append_of_mem member
  rw [same] at trace
  obtain ⟨front, taken, -⟩ := trace.split_at
  have before := reachable.of_trace front
  refine ⟨before, ?_⟩
  rw [taken]
  exact before.step step.query

end Program

end NetInterface
