import NetInterface.Proofs.Browser.NativeCalls

/-!
What the further course of a run depends on.

Browsers that hold the same and have fetched equally often are `Alike`: their sources go on with the
same fetch. `run_alike` says that no program tells them apart, with visits nested to any depth.
-/

namespace NetInterface

namespace Browser

/-- The browsers hold the same and have fetched equally often. -/
structure Alike (left right : Browser) : Prop where
  holdings : left.holdings = right.holdings
  fetches : left.fetches = right.fetches

namespace Alike

variable {left right : Browser} (source : Source)

theorem phase (alike : Alike left right) : left.phase = right.phase :=
  congrArg Holdings.phase alike.holdings

theorem read (alike : Alike left right) :
    ∃ result after other, left.read source = (result, after) ∧
      right.read source = (result, other) ∧ Alike after other := by
  rw [read_eq, read_eq, alike.phase]
  cases pending : right.phase with
  | closed | populated => exact ⟨_, left, right, rfl, rfl, alike⟩
  | pending =>
      rw [alike.fetches]
      cases fetched : source.fetch right.fetches with
      | error error =>
          refine ⟨_, _, _, rfl, rfl, alike.holdings, ?_⟩
          simp only [fetches_record_fetchFailed, alike.fetches]
      | ok listing =>
          refine ⟨_, _, _, rfl, rfl, ?_, ?_⟩
          · rw [holdings_fill (alike.phase.trans pending), holdings_fill pending, alike.fetches]
          · simp only [fetches_fill, alike.fetches]

theorem answerRead (alike : Alike left right) (say : Population → Answer) :
    (left.answerRead source say).1 = (right.answerRead source say).1 ∧
      Alike (left.answerRead source say).2 (right.answerRead source say).2 := by
  obtain ⟨result, after, other, first, second, afterwards⟩ := alike.read source
  simp only [Browser.answerRead, first, second]
  cases result with
  | ok | error => exact ⟨rfl, afterwards⟩

theorem close (alike : Alike left right) : Alike (left.close source) (right.close source) := by
  refine ⟨by simp only [holdings_close], ?_⟩
  by_cases closed : right.phase = .closed
  · rw [close_of_closed source closed, close_of_closed source (alike.phase.trans closed)]
    exact alike.fetches
  · have unclosed : left.phase ≠ .closed := fun same => closed (alike.phase.symm.trans same)
    have counted := alike.fetches
    rw [close_of_unclosed source closed, close_of_unclosed source unclosed]
    simpa [Browser.fetches, releasing_isFetch] using counted

theorem answer (alike : Alike left right) (query : Query) :
    (left.answer source query).1 = (right.answer source query).1 ∧
      Alike (left.answer source query).2 (right.answer source query).2 := by
  have observed {say : Holdings → Answer} (observing : query.observing? = some say) :
      (left.answer source query).1 = (right.answer source query).1 ∧
        Alike (left.answer source query).2 (right.answer source query).2 := by
    rw [answer_eq_observed source left observing, answer_eq_observed source right observing]
    exact ⟨congrArg say alike.holdings, alike⟩
  cases query with
  | named | numbered | list | size | isEmpty => exact alike.answerRead source _
  | isClosed | isPopulated | text | inspect => exact observed rfl
  | close => exact ⟨rfl, alike.close source⟩

end Alike

end Browser

namespace Program

open Browser

variable (source : Source)

/-- The outcomes differ at most in what the browsers did before. -/
structure Outcome.Alike (left right : Outcome) : Prop where
  goOn : left.goOn = right.goOn
  answers : left.answers = right.answers
  browser : Browser.Alike left.browser right.browser

theorem Outcome.Alike.after {left right : Outcome} (alike : Outcome.Alike left right)
    (answer : Answer) (steps others : List Step) :
    Outcome.Alike (left.after steps answer) (right.after others answer) :=
  ⟨alike.goOn, congrArg (answer :: ·) alike.answers, alike.browser⟩

variable {visit : List Visit → Interface → Browser → Outcome}

theorem visitWhile_alike
    (visiting : ∀ visits interface left right, Browser.Alike left right →
      Outcome.Alike (visit visits interface left) (visit visits interface right))
    (interfaces : List Interface) {left right : Browser} (alike : Browser.Alike left right)
    (visits : List Visit) (steps others : List Step) :
    let first := visitWhile (visitOne visit) interfaces (left, visits, steps)
    let second := visitWhile (visitOne visit) interfaces (right, visits, others)
    first.1 = second.1 ∧ Browser.Alike first.2.1 second.2.1 ∧ first.2.2.1 = second.2.2.1 := by
  induction interfaces generalizing left right visits steps others with
  | nil => exact ⟨rfl, alike, rfl⟩
  | cons interface interfaces inductionHypothesis =>
      have outcomes := visiting visits interface left right alike
      simp only [visitWhile, visitOne, outcomes.goOn, outcomes.answers]
      cases (visit visits interface right).goOn with
      | false => exact ⟨rfl, outcomes.browser, rfl⟩
      | true => exact inductionHypothesis outcomes.browser _ _ _

theorem tour_alike
    (visiting : ∀ visits interface left right, Browser.Alike left right →
      Outcome.Alike (visit visits interface left) (visit visits interface right))
    {left right : Browser} (alike : Browser.Alike left right) :
    (tour source visit left).answer = (tour source visit right).answer ∧
      Browser.Alike (tour source visit left).browser (tour source visit right).browser := by
  obtain ⟨result, after, other, first, second, afterwards⟩ := alike.read source
  simp only [tour, Browser.forEach, first, second]
  cases result with
  | error error => exact ⟨rfl, afterwards⟩
  | ok population =>
      obtain ⟨completed, browsers, visits⟩ := visitWhile_alike visiting
        population.snapshot.toList afterwards [] [left.step source .list]
        [right.step source .list]
      refine ⟨?_, browsers⟩
      simp only [completed, visits]

/-- No program tells browsers apart that are alike. -/
theorem run_alike (program : Program) {left right : Browser} (alike : Browser.Alike left right) :
    Outcome.Alike (program.run source left) (program.run source right) := by
  induction program generalizing left right with
  | stop goOn => exact ⟨rfl, rfl, alike⟩
  | ask query next inductionHypothesis =>
      obtain ⟨answer, after⟩ := alike.answer source query
      have same : (left.step source query).answer = (right.step source query).answer := answer
      simp only [run]
      rw [same]
      exact (inductionHypothesis _ after).after _ _ _
  | forEach visit next visitHypothesis nextHypothesis =>
      have visiting : ∀ visits interface left right, Browser.Alike left right →
          Outcome.Alike ((visit visits interface).run source left)
            ((visit visits interface).run source right) :=
        fun visits interface _ _ alike => visitHypothesis visits interface alike
      obtain ⟨answer, after⟩ := tour_alike source visiting alike
      simp only [run]
      rw [answer]
      exact (nextHypothesis _ after).after _ _ _

end Program

end NetInterface
