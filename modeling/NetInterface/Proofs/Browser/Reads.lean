import NetInterface.Proofs.Browser.Reports
import NetInterface.Proofs.Browser.Resumption

/-!
How reads end, and how a browser fares along a run.

A read is a query that is answered from the snapshot or a visit of all interfaces. It is refused by
a closed browser, fails with the fetch of a pending one or else succeeds, and one that fails leaves
the handle and the cache as they were. `reads_and_phases` says this of every read, that phases only
move `Onward` along a run, and that the reports on a reachable browser agree on its phase.
-/

namespace NetInterface

/-- The ways to read the interfaces. -/
inductive Read where
  | ask (query : Query) (reads : query.reading?.isSome)
  | forEach (visit : List Visit → Interface → Program)

/-- Carries out a read. Its first step reads, and those after it are steps of visits. -/
def Read.carryOut (source : Source) (browser : Browser) : Read → Program.Tour
  | .ask query _ =>
      let step := browser.step source query
      ⟨step.answer, step.after, [step]⟩
  | .forEach visit =>
      Program.tour source (fun visits interface => (visit visits interface).run source) browser

/-- Why a query failed, if it did. -/
def Answer.failure? : Answer → Option BrowserError
  | .failed error => some error
  | _ => none

theorem Answer.failure?_eq_some {answer : Answer} {error : BrowserError} :
    answer.failure? = some error ↔ answer = .failed error := by
  cases answer <;> simp [failure?]

theorem Answer.failure?_eq_none {answer : Answer} :
    answer.failure? = none ↔ ∀ error, answer ≠ .failed error := by
  cases answer <;> simp [failure?]

namespace Phase

/-- A browser in the first phase may come to be in the second. -/
inductive Onward : Phase → Phase → Prop
  | stay (phase : Phase) : Onward phase phase
  | populate (population : Population) : Onward .pending (.populated population)
  | close (phase : Phase) : Onward phase .closed

namespace Onward

variable {first second third : Phase}

theorem trans (onward : Onward first second) (further : Onward second third) :
    Onward first third := by
  cases further with
  | stay => exact onward
  | populate population =>
      cases onward with
      | stay => exact .populate population
  | close => exact .close first

end Onward

end Phase

/-- What a browser holds that was populated before the steps: all that it held, unless one of them
closed it. -/
def Population.heldAfter (population : Population) (steps : List Step) : Holdings :=
  if ∃ step ∈ steps, step.query = .close then ⟨none, none⟩ else ⟨some (), some population⟩

namespace Browser

namespace Effect

variable {source : Source} {browser after : Browser} {query : Query} {answer : Answer}

theorem onward (effect : Effect source browser query answer after) :
    browser.phase.Onward after.phase := by
  cases effect with
  | refused | shared | failed | observed => exact .stay browser.phase
  | filled reading pending fetched =>
      rw [pending, phase_fill pending]
      exact .populate _
  | released | idle => exact .close browser.phase

/-- Only a close takes the handle and the population from a populated browser. -/
theorem holdings_of_populated (effect : Effect source browser query answer after)
    {population : Population} (populated : browser.holdings = ⟨some (), some population⟩) :
    after.holdings = if query = .close then ⟨none, none⟩ else ⟨some (), some population⟩ := by
  have phase : browser.phase = .populated population := congrArg Holdings.phase populated
  cases effect with
  | refused reading closed => cases phase.symm.trans closed
  | shared reading => rw [if_neg (Query.ne_close_of_reading reading), populated]
  | failed reading pending | filled reading pending => cases phase.symm.trans pending
  | observed observing => rw [if_neg (Query.ne_close_of_observing observing), populated]
  | released | idle => rfl

end Effect

namespace Trace

variable {source : Source} {browser last : Browser} {steps : List Step}

/-- The phases of a run move onward, also from any one of them to any later one. -/
theorem pairwise_onward (trace : Trace source browser steps last) :
    (browser.phase :: steps.map (·.after.phase)).Pairwise Phase.Onward := by
  induction trace with
  | nil => simp
  | @cons browser last query steps rest inductionHypothesis =>
      have first : browser.phase.Onward (browser.step source query).after.phase :=
        (effect_answer source browser query).onward
      rw [List.map_cons, List.pairwise_cons]
      refine ⟨?_, inductionHypothesis⟩
      intro phase later
      rcases List.mem_cons.mp later with rfl | later
      · exact first
      · exact first.trans ((List.pairwise_cons.mp inductionHypothesis).1 phase later)

theorem holdings_of_populated (trace : Trace source browser steps last) {population : Population}
    (populated : browser.holdings = ⟨some (), some population⟩) :
    last.holdings = population.heldAfter steps := by
  unfold Population.heldAfter
  induction trace with
  | nil => simpa using populated
  | @cons browser last query steps rest inductionHypothesis =>
      have after : (browser.step source query).after.holdings =
          if query = .close then ⟨none, none⟩ else ⟨some (), some population⟩ :=
        (effect_answer source browser query).holdings_of_populated populated
      by_cases close : query = .close
      · rw [if_pos close] at after
        have closing : ∃ step ∈ browser.step source query :: steps, step.query = .close :=
          ⟨_, List.mem_cons_self, close⟩
        rw [if_pos closing, rest.eq_of_emptied after]
        exact after
      · rw [if_neg close] at after
        have others : (browser.step source query).query ≠ .close := close
        rw [inductionHypothesis after]
        simp [others]

end Trace

/-- The browser holds what it held before, and runs of programs depend on nothing else but how often
it has fetched. -/
structure Unaffected (source : Source) (before after : Browser) : Prop where
  holdings : after.holdings = before.holdings
  programs : ∀ other : Browser, other.holdings = before.holdings → other.fetches = after.fetches →
    ∀ program : Program,
      (program.run source after).answers = (program.run source other).answers ∧
        (program.run source after).browser.holdings = (program.run source other).browser.holdings

theorem unaffected_of_holdings {source : Source} {before after : Browser}
    (same : after.holdings = before.holdings) : Unaffected source before after := by
  refine ⟨same, ?_⟩
  intro other holdings fetches program
  have alike := program.run_alike source ⟨same.trans holdings.symm, fetches.symm⟩
  exact ⟨alike.answers, alike.browser.holdings⟩

/-- How a read ends that begins with the given browser. -/
structure ReadOutcome (source : Source) (before : Browser) (tour : Program.Tour) : Prop where
  /-- A browser without a handle refuses every read, and no other does. -/
  refused : ∀ state, tour.answer = .failed (.illegalState state) ↔
    before.holdings.handle = none ∧ state = .closed
  /-- The fetch of a browser without a population fails the read, and with its own error. -/
  failed : ∀ error, tour.answer = .failed (.native error) ↔
    before.holdings = ⟨some (), none⟩ ∧ source.fetch before.fetches = .error error
  /-- A read that is refused does nothing at all. -/
  unchanged : ∀ state, tour.answer = .failed (.illegalState state) → tour.browser = before
  /-- A fetch that fails is all that the read does. -/
  consumed : ∀ error, tour.answer = .failed (.native error) →
    tour.browser = before.record [.fetchFailed error] ∧
      tour.browser.fetches = before.fetches + 1
  /-- A read that fails leaves the handle and the cache as they were, and after it every program
  runs as if only its fetch had been made. -/
  resumed : ∀ error, tour.answer = .failed error → Unaffected source before tour.browser
  /-- Any other read populates the browser, which stays so unless a visit closes it. -/
  populated : (∀ error, tour.answer ≠ .failed error) → ∃ population first visits,
    tour.steps = first :: visits ∧ first.after.holdings = ⟨some (), some population⟩ ∧
      tour.browser.holdings = population.heldAfter visits

/-- How the first step of a read ends: with an error or none, and the browser that it leaves. -/
inductive Opening (source : Source) (before : Browser) : Option BrowserError → Browser → Prop
  | refused (closed : before.phase = .closed) :
      Opening source before (some (.illegalState .closed)) before
  | failed {error : NativeError} (pending : before.phase = .pending)
      (fetched : source.fetch before.fetches = .error error) :
      Opening source before (some (.native error)) (before.record [.fetchFailed error])
  | answered {after : Browser} {population : Population} (unclosed : before.phase ≠ .closed)
      (fetching : before.phase = .pending → ∃ listing, source.fetch before.fetches = .ok listing)
      (populated : after.phase = .populated population) : Opening source before none after

theorem opening_of_reading (source : Source) (browser : Browser) {query : Query}
    {say : Population → Answer} (reading : query.reading? = some say) :
    Opening source browser (browser.step source query).answer.failure?
      (browser.step source query).after := by
  have answered (population : Population) : (say population).failure? = none :=
    Answer.failure?_eq_none.mpr (Query.reading_ne_failed reading population)
  have effect := effect_answer source browser query
  simp only [step]
  generalize (browser.answer source query).1 = answer at effect
  generalize (browser.answer source query).2 = after at effect
  cases effect with
  | refused _ closed => exact .refused closed
  | @shared _ told population known populated =>
      cases reading.symm.trans known
      rw [answered]
      refine .answered ?_ ?_ populated
      · simp [populated]
      · simp [populated]
  | failed _ pending fetched => exact .failed pending fetched
  | @filled _ told listing known pending fetched =>
      cases reading.symm.trans known
      rw [answered]
      refine .answered ?_ (fun _ => ⟨listing, fetched⟩) (phase_fill pending listing)
      simp [pending]
  | observed observing => cases query <;> cases reading <;> cases observing
  | released | idle => cases reading

/-- A failed read is one that failed in its first step, and one that succeeds goes on from the
population that its first step read. -/
theorem Opening.readOutcome {source : Source} {before after : Browser} {tour : Program.Tour}
    (opening : Opening source before tour.answer.failure? after)
    (failing : ∀ error, tour.answer = .failed error → tour.browser = after)
    (going : ∀ population, after.holdings = ⟨some (), some population⟩ →
      (∀ error, tour.answer ≠ .failed error) → ∃ first visits, tour.steps = first :: visits ∧
        first.after = after ∧ tour.browser.holdings = population.heldAfter visits) :
    ReadOutcome source before tour := by
  generalize failure : tour.answer.failure? = failure? at opening
  -- Each opening decides all fields: those about other outcomes hold because the answer differs.
  cases opening with
  | refused closed =>
      have answer := Answer.failure?_eq_some.mp failure
      have same := failing _ answer
      constructor
      case refused => simp [answer, Holdings.phase_eq_closed.mp closed, eq_comm]
      case failed =>
        intro error
        refine ⟨fun failed => absurd (answer.symm.trans failed) (by simp), ?_⟩
        rintro ⟨pending, -⟩
        cases closed.symm.trans (Holdings.phase_eq_pending.mpr pending)
      case unchanged => exact fun _ _ => same
      case consumed => simp [answer]
      case resumed => exact fun _ _ => unaffected_of_holdings (by rw [same])
      case populated => exact fun answered => absurd answer (answered _)
  | @failed error pending fetched =>
      have held := Holdings.phase_eq_pending.mp pending
      have answer := Answer.failure?_eq_some.mp failure
      have same := failing _ answer
      constructor
      case refused => simp [answer, held]
      case failed => simp [answer, held, fetched]
      case unchanged => simp [answer]
      case consumed =>
        intro other otherAnswer
        obtain rfl : error = other := by simpa [answer] using otherAnswer
        rw [same]
        exact ⟨rfl, fetches_record_fetchFailed before error⟩
      case resumed =>
        intro _ _
        apply unaffected_of_holdings
        rw [same]
        rfl
      case populated => exact fun answered => absurd answer (answered _)
  | @answered _ population unclosed fetching populated =>
      have answered := Answer.failure?_eq_none.mp failure
      constructor
      case refused =>
        intro state
        simp only [answered, false_iff, not_and]
        exact fun released => absurd (Holdings.phase_eq_closed.mpr released) unclosed
      case failed =>
        intro error
        simp only [answered, false_iff, not_and]
        intro pending failed
        obtain ⟨listing, fetched⟩ := fetching (Holdings.phase_eq_pending.mpr pending)
        cases fetched.symm.trans failed
      case unchanged => exact fun _ failed => absurd failed (answered _)
      case consumed => exact fun _ failed => absurd failed (answered _)
      case resumed => exact fun _ failed => absurd failed (answered _)
      case populated =>
        intro _
        have held := Holdings.phase_eq_populated.mp populated
        obtain ⟨first, visits, steps, same, ending⟩ := going population held answered
        exact ⟨population, first, visits, steps, same ▸ held, ending⟩

theorem readOutcome_ask (source : Source) (browser : Browser) {query : Query}
    {say : Population → Answer} (reading : query.reading? = some say) :
    ReadOutcome source browser
      ⟨(browser.step source query).answer, (browser.step source query).after,
        [browser.step source query]⟩ := by
  apply (opening_of_reading source browser reading).readOutcome
  · intro _ _
    rfl
  · intro population populated _
    exact ⟨_, [], rfl, rfl, by simpa [Population.heldAfter] using populated⟩

theorem readOutcome_forEach (source : Source) (browser : Browser)
    (visit : List Visit → Interface → Program) :
    ReadOutcome source browser
      (Program.tour source (fun visits interface => (visit visits interface).run source)
        browser) := by
  have reading : Query.list.reading? = some .listed := rfl
  have opening := opening_of_reading source browser reading
  rcases Program.tour_cases source (fun visits interface => (visit visits interface).run source)
    browser with ⟨error, failed, ending⟩ | ⟨population, visited, listed, -, ending⟩
  · rw [ending, ← failed]
    exact readOutcome_ask source browser reading
  · have unfailed : (browser.step source .list).answer.failure? = none := by rw [listed]; rfl
    have further := Program.trace_inTurn source _
      (fun visits interface => (visit visits interface).run_trace source) visited []
      (browser.step source .list).after
    rw [ending]
    rw [unfailed] at opening
    apply opening.readOutcome
    · simp
    · intro population populated _
      exact ⟨_, _, rfl, rfl, further.holdings_of_populated populated⟩

theorem readOutcome_carryOut (source : Source) (browser : Browser) (read : Read) :
    ReadOutcome source browser (read.carryOut source browser) := by
  cases read with
  | ask query reads =>
      obtain ⟨say, reading⟩ := Option.isSome_iff_exists.mp reads
      exact readOutcome_ask source browser reading
  | forEach visit => exact readOutcome_forEach source browser visit

end Browser

open Browser

/-- Every read ends in one of three ways, and only one that succeeds changes the handle or the
cache. A browser begins pending, its phases only move onward, and it is closed once a step closed
it. Of a reachable browser, also inside visits, all reports agree with its phase, and they change
nothing. -/
theorem reads_and_phases (source : Source) :
    (∀ browser (read : Read), ReadOutcome source browser (read.carryOut source browser)) ∧
      (∀ browser, create source = .ok browser → browser.phase = .pending) ∧
      (∀ browser (program : Program),
        let outcome := program.run source browser
        (browser.phase :: outcome.steps.map (·.after.phase)).Pairwise Phase.Onward ∧
          (outcome.browser.phase = .closed ↔
            browser.phase = .closed ∨ ∃ step ∈ outcome.steps, step.query = .close)) ∧
      ∀ browser, Reachable source browser → browser.holdings.Reported ∧
        (∀ query say, query.observing? = some say →
          browser.answer source query = (say browser.holdings, browser)) ∧
        ∀ program : Program, Reachable source (program.run source browser).browser ∧
          ∀ step ∈ (program.run source browser).steps,
            Reachable source step.before ∧ Reachable source step.after := by
  refine ⟨readOutcome_carryOut source, ?_, ?_, ?_⟩
  · intro browser created
    rw [(acquire_of_create created).2]
    rfl
  · intro browser program
    have trace := program.run_trace source browser
    exact ⟨trace.pairwise_onward, trace.phase_eq_closed_iff⟩
  · intro browser reachable
    refine ⟨reachable.consistent.reported, ?_, ?_⟩
    · exact fun query say => answer_eq_observed source browser
    · exact fun program => program.reachable_run source reachable

theorem flaky_reads_and_phases :
    let created : Browser := .new ()
    let failed := (Read.ask .size rfl).carryOut .flaky created
    let closing : List Visit → Interface → Program := fun _ _ => .ask .close fun _ => .stop true
    let closed := (Read.forEach closing).carryOut .flaky failed.browser
    created.phase = .pending ∧
      failed.browser = created.record [.fetchFailed (.platform "busy")] ∧
      (∃ population first visits, closed.steps = first :: visits ∧
        first.after.holdings = ⟨some (), some population⟩ ∧
        closed.browser.holdings = population.heldAfter visits) ∧
      ((Read.ask .list rfl).carryOut .flaky closed.browser).browser = closed.browser ∧
      closed.browser.holdings.Reported ∧
      closed.browser.answer .flaky .isPopulated = (.truth false, closed.browser) := by
  intro created failed closing closed
  obtain ⟨outcomes, begins, -, reports⟩ := reads_and_phases .flaky
  have reachable : Reachable .flaky closed.browser :=
    ((reports created (.created rfl)).2.2
      (.ask .size fun _ => .forEach closing fun _ => .stop true)).1
  refine ⟨begins created rfl, ((outcomes created (.ask .size rfl)).consumed _ rfl).1, ?_, ?_, ?_⟩
  · exact (outcomes failed.browser (.forEach closing)).populated nofun
  · exact (outcomes closed.browser (.ask .list rfl)).unchanged _ rfl
  · obtain ⟨reported, observed, -⟩ := reports closed.browser reachable
    exact ⟨reported, observed .isPopulated _ rfl⟩

/-- A visit of all interfaces need not leave a populated browser, since a visit may close it. -/
theorem not_populated_after_every_read :
    ¬ ∀ (source : Source) (browser : Browser) (read : Read), create source = .ok browser →
      (∀ error, (read.carryOut source browser).answer ≠ .failed error) →
        (read.carryOut source browser).browser.holdings.isPopulated = true := by
  intro always
  let source : Source :=
    { acquire := .ok ()
      fetch := fun _ => .ok [⟨1, "lo", 0, none, none, none, []⟩]
      release := .ok () }
  have populated := always source (.new ())
    (.forEach fun _ _ => .ask .close fun _ => .stop true) rfl nofun
  cases populated

end NetInterface
