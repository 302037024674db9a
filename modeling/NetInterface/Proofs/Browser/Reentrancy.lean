import NetInterface.Proofs.Browser.NativeCalls

/-!
Visits that use the browser themselves.

A visit of all interfaces goes through the interfaces that a list would have given, whatever the
visits do to the browser meanwhile. `tour_eq_in_turn` says that it is the list followed by the
programs of the visits in turn, and that with visits nested to any depth it is one sequence of
queries put to the browser one after another, none of which visits anything.
-/

namespace NetInterface

namespace Browser

/-- Puts the queries one after another. -/
def askAll (source : Source) : List Query → Browser → List Answer × Browser
  | [], browser => ([], browser)
  | query :: queries, browser =>
      let (answer, browser) := browser.answer source query
      let (answers, browser) := askAll source queries browser
      (answer :: answers, browser)

/-- A trace is what its queries come to when they are put one after another. -/
theorem Trace.askAll_eq {source : Source} {browser last : Browser} {steps : List Step}
    (trace : Trace source browser steps last) :
    askAll source (steps.map (·.query)) browser = (steps.map (·.answer), last) := by
  induction trace with
  | nil => rfl
  | @cons browser last query steps rest inductionHypothesis =>
      have others : askAll source (steps.map (·.query)) (browser.answer source query).2 =
          (steps.map (·.answer), last) := inductionHypothesis
      simp [askAll, step, others]

end Browser

/-- The second answers are the first with those given to visits laid out in between: the answer to a
visit of all interfaces becomes that of a list and the answers that the visits were given. -/
inductive Unnested : List Answer → List Answer → Prop
  | nil : Unnested [] []
  | plain {answer : Answer} (unvisited : ∀ completed visits, answer ≠ .visited completed visits)
      {answers others : List Answer} (rest : Unnested answers others) :
      Unnested (answer :: answers) (answer :: others)
  | visited {population : Population} {completed : Bool} {visits : List Visit}
      (in_order : visits.map (·.1) <+: population.snapshot.toList)
      (complete : completed = true → visits.map (·.1) = population.snapshot.toList)
      {inner answers others : List Answer} (nested : Unnested (visits.flatMap (·.2)) inner)
      (rest : Unnested answers others) :
      Unnested (.visited completed visits :: answers) (.listed population :: (inner ++ others))

namespace Unnested

theorem append {first second third fourth : List Answer} (front : Unnested first second)
    (back : Unnested third fourth) : Unnested (first ++ third) (second ++ fourth) := by
  induction front with
  | nil => exact back
  | plain unvisited rest inductionHypothesis => exact .plain unvisited inductionHypothesis
  | visited in_order complete nested rest _ inductionHypothesis =>
      simp only [List.cons_append, List.append_assoc]
      exact .visited in_order complete nested inductionHypothesis

end Unnested

namespace Browser

variable (source : Source)

/-- No single query visits anything. -/
theorem answer_ne_visited (browser : Browser) (query : Query) (completed : Bool)
    (visits : List Visit) : (browser.step source query).answer ≠ .visited completed visits := by
  have plain (say : Population → Answer)
      (unvisited : ∀ population, say population ≠ .visited completed visits) :
      (browser.answerRead source say).1 ≠ .visited completed visits := by
    unfold answerRead
    split
    · exact unvisited _
    · simp
  cases query with
  | named | numbered | list | size | isEmpty => exact plain _ (by simp)
  | isClosed | isPopulated | text | inspect | close => simp [step, answer]

end Browser

namespace Program

open Browser

variable (source : Source)

theorem unnested_inTurn (visit : List Visit → Interface → Browser → Outcome)
    (unnested : ∀ visits interface browser,
      Unnested (visit visits interface browser).answers
        ((visit visits interface browser).steps.map (·.answer)))
    (interfaces : List Interface) (visits : List Visit) (browser : Browser) :
    let outcomes := inTurn visit interfaces visits browser
    Unnested (outcomes.flatMap (·.answers)) ((outcomes.flatMap (·.steps)).map (·.answer)) := by
  induction interfaces generalizing visits browser with
  | nil => exact .nil
  | cons interface interfaces inductionHypothesis =>
      simp only [inTurn, List.flatMap_cons, List.map_append]
      exact (unnested visits interface browser).append (inductionHypothesis _ _)

theorem unnested_tour (visit : List Visit → Interface → Browser → Outcome)
    (unnested : ∀ visits interface browser,
      Unnested (visit visits interface browser).answers
        ((visit visits interface browser).steps.map (·.answer)))
    (browser : Browser) :
    Unnested [(tour source visit browser).answer]
      ((tour source visit browser).steps.map (·.answer)) := by
  rcases tour_cases source visit browser with
    ⟨error, failed, ending⟩ | ⟨population, visited, listed, covers, ending⟩
  · rw [ending]
    simp only [List.map_cons, List.map_nil, failed]
    exact .plain (by simp) .nil
  · have inner := unnested_inTurn visit unnested visited [] (browser.step source .list).after
    rw [ending]
    generalize inTurn visit visited [] (browser.step source .list).after = outcomes at *
    have answers : (visited.zip (outcomes.map (·.answers))).flatMap (·.2) =
        outcomes.flatMap (·.answers) := by
      rw [List.flatMap_def, covers.visits_snd, ← List.flatMap_def]
    have laid : Unnested
        [.visited (outcomes.all (·.goOn)) (visited.zip (outcomes.map (·.answers)))]
        (.listed population :: ((outcomes.flatMap (·.steps)).map (·.answer) ++ [])) := by
      refine .visited ?_ ?_ ?_ .nil
      · rw [covers.visits_fst]
        exact covers.visited_prefix
      · intro all
        rw [covers.visits_fst, covers.eq_of_all all]
      · rw [answers]
        exact inner
    rw [List.map_cons, listed, ← List.append_nil ((outcomes.flatMap _).map _)]
    exact laid

/-- The answers of a run are those of its steps, but for the visits, which are laid out. -/
theorem unnested_run (program : Program) (browser : Browser) :
    Unnested (program.run source browser).answers
      ((program.run source browser).steps.map (·.answer)) := by
  induction program generalizing browser with
  | stop goOn => exact .nil
  | ask query next inductionHypothesis =>
      exact .plain (answer_ne_visited source browser query) (inductionHypothesis _ _)
  | forEach visit next visitHypothesis nextHypothesis =>
      have touring := unnested_tour source
        (fun visits interface => (visit visits interface).run source) visitHypothesis browser
      simp only [run, Outcome.after, List.map_append]
      exact touring.append (nextHypothesis _ _)

/-- The interfaces up to and including the first that is not to be followed by another, given the
interfaces before it. -/
def takeThrough (goOn : List Interface → Interface → Bool) (earlier : List Interface) :
    List Interface → List Interface
  | [] => []
  | interface :: interfaces =>
      interface ::
        if goOn earlier interface then takeThrough goOn (earlier ++ [interface]) interfaces else []

/-- What the visits do to the browser has no part in which interfaces are visited. -/
theorem Covers.eq_takeThrough {visit : List Visit → Interface → Browser → Outcome}
    {goOn : List Interface → Interface → Bool}
    (decided : ∀ visits interface browser,
      (visit visits interface browser).goOn = goOn (visits.map (·.1)) interface)
    {interfaces visited : List Interface} {visits : List Visit} {browser : Browser}
    (covers : Covers interfaces visited (inTurn visit visited visits browser)) :
    visited = takeThrough goOn (visits.map (·.1)) interfaces := by
  generalize taken : inTurn visit visited visits browser = outcomes at covers
  induction covers generalizing visits browser with
  | nil => rfl
  | stop stopped interface interfaces =>
      simp only [inTurn, List.cons.injEq, and_true] at taken
      rw [← taken, decided] at stopped
      simp [takeThrough, stopped]
  | cons continued interface covers inductionHypothesis =>
      simp only [inTurn, List.cons.injEq] at taken
      obtain ⟨first, others⟩ := taken
      have rest := inductionHypothesis others
      rw [← first, decided] at continued
      rw [List.map_append, List.map_cons, List.map_nil] at rest
      rw [takeThrough, if_pos continued, ← rest]

/-- A visit of all interfaces with visits that may use the browser in any way is the list followed
by the programs of the visits one after another, and all of it is one sequence of queries. -/
theorem tour_eq_in_turn (visit : List Visit → Interface → Program) (browser : Browser) :
    let play := fun visits interface => (visit visits interface).run source
    let listing := browser.step source .list
    let tour := tour source play browser
    ((∃ error, listing.answer = .failed error) ∨
      ∃ population, listing.answer = .listed population) ∧
    (∀ error, tour.answer = .failed error ↔ listing.answer = .failed error) ∧
    (∀ error, listing.answer = .failed error →
      tour.browser = listing.after ∧ tour.steps = [listing] ∧
        ∀ other, Program.tour source other browser = tour) ∧
    (∀ population, listing.answer = .listed population → ∃ visited,
      let outcomes := inTurn play visited [] listing.after
      Covers population.snapshot.toList visited outcomes ∧
        tour.answer =
          .visited (outcomes.all (·.goOn)) (visited.zip (outcomes.map (·.answers))) ∧
        tour.browser = lastBrowser listing.after outcomes ∧
        tour.steps = listing :: outcomes.flatMap (·.steps) ∧
        ∀ goOn, (∀ visits interface browser,
          (play visits interface browser).goOn = goOn (visits.map (·.1)) interface) →
            visited = takeThrough goOn [] population.snapshot.toList) ∧
    askAll source (tour.steps.map (·.query)) browser =
      (tour.steps.map (·.answer), tour.browser) ∧
    Unnested [tour.answer] (tour.steps.map (·.answer)) := by
  intro play listing
  have flat := (trace_tour source play (fun visits interface => (visit visits interface).run_trace
    source) browser).askAll_eq
  have unnested := unnested_tour source play
    (fun visits interface => unnested_run source (visit visits interface)) browser
  rcases tour_cases source play browser with
    ⟨error, failed, ending⟩ | ⟨population, visited, listed, covers, ending⟩
  · refine ⟨.inl ⟨error, failed⟩, ?_, ?_, ?_, flat, unnested⟩
    · intro other
      rw [ending, failed]
    · intro _ _
      refine ⟨by rw [ending], by rw [ending], ?_⟩
      intro other
      rcases tour_cases source other browser with
        ⟨error', failed', ending'⟩ | ⟨population, _, listed, _⟩
      · cases failed.symm.trans failed'
        rw [ending, ending']
      · cases failed.symm.trans listed
    · intro population listed
      cases failed.symm.trans listed
  · refine ⟨.inr ⟨population, listed⟩, ?_, ?_, ?_, flat, unnested⟩
    · intro error
      rw [ending, listed]
      simp
    · intro error failed
      cases listed.symm.trans failed
    · intro population' listed'
      cases listed.symm.trans listed'
      refine ⟨visited, covers, by rw [ending], by rw [ending], by rw [ending], ?_⟩
      intro goOn decided
      exact covers.eq_takeThrough decided

/-- A visit that closes the browser, asks for what it has just closed and goes on. -/
def closing (_ : List Visit) (_ : Interface) : Program :=
  .ask .close fun _ => .ask .size fun _ => .stop true

theorem closing_tour_in_turn :
    let play := fun visits interface => (closing visits interface).run .flaky
    let pending : Browser := ⟨⟨some (), none⟩, [.acquired, .fetchFailed (.platform "busy")]⟩
    let closed : Browser := ⟨⟨none, none⟩, [.acquired, .releaseFailed (.platform "gone")]⟩
    (∃ population, (pending.step .flaky .list).answer = .listed population ∧
      let visited := takeThrough (fun _ _ => true) [] population.snapshot.toList
      let outcomes := inTurn play visited [] (pending.step .flaky .list).after
      (tour .flaky play pending).browser =
        lastBrowser (pending.step .flaky .list).after outcomes) ∧
    (closed.step .flaky .list).answer = .failed (.illegalState .closed) ∧
      (tour .flaky play closed).steps = [closed.step .flaky .list] := by
  intro play pending closed
  obtain ⟨-, -, -, listed, -⟩ := tour_eq_in_turn .flaky closing pending
  obtain ⟨-, -, failed, -⟩ := tour_eq_in_turn .flaky closing closed
  refine ⟨?_, rfl, (failed _ rfl).2.1⟩
  obtain ⟨visited, -, -, browser, -, decided⟩ := listed _ rfl
  refine ⟨_, rfl, ?_⟩
  rw [← decided (fun _ _ => true) (fun _ _ _ => rfl)]
  exact browser

end Program

end NetInterface
