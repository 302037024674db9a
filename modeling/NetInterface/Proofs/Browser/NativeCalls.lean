import NetInterface.Application.Log
import NetInterface.Proofs.Browser.Run

/-!
The native calls of a run.

`Account` ties the events of a browser to what it holds: it acquired its handle, failed some
fetches, perhaps fetched a listing and perhaps released the handle, in this order. Every effect
keeps the account, so every run does. `session_native_calls` counts the calls of a whole session
from the steps of its program: the fetches are the populations tried, and the one release goes with
the first close or else with the drop.
-/

namespace NetInterface

namespace Source

/-- The event of the fetch with the given number. -/
def attempt (source : Source) (number : Nat) : Event :=
  match source.fetch number with
  | .ok _ => .fetched
  | .error error => .fetchFailed error

/-- The events of the first fetches. -/
def attempts (source : Source) (count : Nat) : List Event :=
  (List.range count).map source.attempt

def FailsBefore (source : Source) (number : Nat) : Prop :=
  ∀ earlier < number, ∃ error, source.fetch earlier = .error error

variable {source : Source}

theorem failsBefore_zero : source.FailsBefore 0 :=
  nofun

theorem FailsBefore.succ {number : Nat} {error : NativeError} (failing : source.FailsBefore number)
    (failed : source.fetch number = .error error) : source.FailsBefore (number + 1) := by
  intro earlier bound
  rcases Nat.lt_succ_iff_lt_or_eq.mp bound with bound | equality
  · exact failing earlier bound
  · exact ⟨error, equality ▸ failed⟩

theorem attempts_succ {number : Nat} {error : NativeError}
    (failed : source.fetch number = .error error) :
    source.attempts (number + 1) = source.attempts number ++ [.fetchFailed error] := by
  simp [attempts, List.range_succ, attempt, failed]

/-- Before the first success all fetches fail. -/
theorem FailsBefore.ne_fetched {number : Nat} (failing : source.FailsBefore number)
    {event : Event} (member : event ∈ source.attempts number) : event ≠ .fetched := by
  obtain ⟨earlier, bound, rfl⟩ := List.mem_map.mp member
  obtain ⟨error, failed⟩ := failing earlier (List.mem_range.mp bound)
  simp [attempt, failed]

/-- Only the calls that count fetches count attempts. -/
theorem countP_attempts (call : Event → Bool)
    (alike : ∀ error, call (.fetchFailed error) = call .fetched) (count : Nat) :
    (source.attempts count).countP call = if call .fetched then count else 0 := by
  have each (number : Nat) : call (source.attempt number) = call .fetched := by
    unfold attempt
    split
    · rfl
    · exact alike _
  cases fetched : call .fetched <;>
    simp [attempts, List.countP_map, Function.comp_def, each, fetched]

end Source

namespace Browser

variable {source : Source}

/-- Populating makes no call but the fetch. -/
theorem countP_populating (call : Event → Bool) (skipped : ∀ part, call (.skipped part) = false)
    (populated : ∀ count, call (.populated count) = false) (listing : Listing) (count : Nat) :
    (populating listing count).countP call = if call .fetched then 1 else 0 := by
  cases fetched : call .fetched <;>
    simp [populating, List.countP_map, Function.comp_def, skipped, populated, fetched]

theorem fetches_record_fetchFailed (browser : Browser) (error : NativeError) :
    (browser.record [.fetchFailed error]).fetches = browser.fetches + 1 := by
  simp [fetches, record, Event.isFetch]

theorem fetches_fill (browser : Browser) (listing : Listing) :
    (browser.fill listing).fetches = browser.fetches + 1 := by
  have counted := countP_populating Event.isFetch (fun _ => rfl) (fun _ => rfl) listing
  simp [fetches, events_fill, counted, Event.isFetch]

/-- A release counts as one whether or not it fails. -/
theorem call_releasing (source : Source) (call : Event → Bool)
    (alike : ∀ error, call (.releaseFailed error) = call .released) :
    call (releasing source) = call .released := by
  unfold releasing
  split
  · rfl
  · exact alike _

theorem releasing_isFetch (source : Source) : (releasing source).isFetch = false :=
  call_releasing source Event.isFetch fun _ => rfl

/-- The events of a browser are those that what it holds tells of. -/
inductive Account (source : Source) : Browser → Prop
  | pending {number : Nat} (failing : source.FailsBefore number) :
      Account source ⟨⟨some (), none⟩, .acquired :: source.attempts number⟩
  | populated {number : Nat} {listing : Listing} (failing : source.FailsBefore number)
      (fetched : source.fetch number = .ok listing) (count : Nat) :
      Account source ⟨⟨some (), some (.ofListing number listing)⟩,
        .acquired :: source.attempts number ++ populating listing count⟩
  | closed {browser : Browser} (account : Account source browser)
      (unclosed : browser.phase ≠ .closed) :
      Account source ⟨⟨none, none⟩, browser.events ++ [releasing source]⟩

namespace Account

variable {browser after : Browser}

theorem created (source : Source) : Account source (.new ()) :=
  .pending source.failsBefore_zero

/-- A pending browser has failed all of its fetches. -/
theorem of_pending (account : Account source browser) (pending : browser.phase = .pending) :
    source.FailsBefore browser.fetches ∧
      browser.events = .acquired :: source.attempts browser.fetches := by
  cases account with
  | @pending number failing =>
      have counted := source.countP_attempts Event.isFetch (fun _ => rfl) number
      have fetches : fetches ⟨⟨some (), none⟩, .acquired :: source.attempts number⟩ = number := by
        simp [fetches, counted, Event.isFetch]
      rw [fetches]
      exact ⟨failing, rfl⟩
  | populated => cases pending
  | closed => cases pending

/-- Every effect keeps the account. -/
theorem effect {query : Query} {answer : Answer}
    (effect : Effect source browser query answer after) (account : Account source browser) :
    Account source after := by
  cases effect with
  | refused | shared | observed => exact account
  | failed reading pending failed =>
      obtain ⟨failing, events⟩ := account.of_pending pending
      have next := Account.pending (failing.succ failed)
      rw [source.attempts_succ failed] at next
      simp only [record, Holdings.phase_eq_pending.mp pending, events]
      exact next
  | filled reading pending fetched =>
      obtain ⟨failing, events⟩ := account.of_pending pending
      simp only [fill, insertCache, record, Holdings.phase_eq_pending.mp pending, events]
      exact .populated failing fetched _
  | released unclosed => exact .closed account unclosed
  | idle closed =>
      cases account with
      | pending | populated => cases closed
      | closed account unclosed => exact .closed account unclosed

theorem of_trace {steps : List Step} (trace : Trace source browser steps after)
    (account : Account source browser) : Account source after :=
  trace.preserves effect account

/-- Calls other than fetches: one acquisition, and the release once the browser is closed. -/
theorem countP_events (call : Event → Bool) (fetched : call .fetched = false)
    (failed : ∀ error, call (.fetchFailed error) = false)
    (skipped : ∀ part, call (.skipped part) = false)
    (populated : ∀ count, call (.populated count) = false)
    (account : Account source browser) :
    browser.events.countP call =
      (if call .acquired then 1 else 0) +
        if browser.holdings.isClosed && call (releasing source) then 1 else 0 := by
  have attempted := source.countP_attempts call (fun error => by rw [failed, fetched])
  have populating := countP_populating call skipped populated
  induction account with
  | pending =>
      simp [List.countP_cons, attempted, fetched, Holdings.isClosed]
  | populated =>
      simp [List.countP_cons, attempted, populating, fetched, Holdings.isClosed]
  | @closed browser account unclosed inductionHypothesis =>
      rw [List.countP_append, inductionHypothesis, Holdings.isClosed_eq_false unclosed]
      simp [List.countP_cons, Holdings.isClosed]

theorem acquires_eq_one (account : Account source browser) : browser.acquires = 1 := by
  have counted := account.countP_events Event.isAcquire rfl (fun _ => rfl) (fun _ => rfl)
    (fun _ => rfl)
  rw [call_releasing source Event.isAcquire fun _ => rfl] at counted
  simpa [acquires, Event.isAcquire] using counted

theorem releases_eq (account : Account source browser) :
    browser.releases = if browser.holdings.isClosed then 1 else 0 := by
  have counted := account.countP_events Event.isRelease rfl (fun _ => rfl) (fun _ => rfl)
    (fun _ => rfl)
  rw [call_releasing source Event.isRelease fun _ => rfl] at counted
  simpa [releases, Event.isRelease] using counted

theorem releases_eq_zero (account : Account source browser) (unclosed : browser.phase ≠ .closed) :
    browser.releases = 0 := by
  rw [account.releases_eq, Holdings.isClosed_eq_false unclosed]
  rfl

/-- No fetch follows one that succeeded. -/
theorem fetched_last (account : Account source browser) :
    browser.events.Pairwise fun earlier later => earlier = .fetched → later.isFetch = false := by
  have failures {number : Nat} (failing : source.FailsBefore number) :
      (Event.acquired :: source.attempts number).Pairwise fun earlier later =>
        earlier = .fetched → later.isFetch = false := by
    refine List.pairwise_cons.mpr ⟨nofun, List.pairwise_of_forall_mem_list ?_⟩
    intro earlier member _ _ fetched
    exact absurd fetched (failing.ne_fetched member)
  induction account with
  | pending failing => exact failures failing
  | @populated number listing failing fetched count =>
      have quiet : ∀ event ∈ listing.skipped.map Event.skipped ++ [.populated count],
          event.isFetch = false := by
        simp [Event.isFetch, or_imp, forall_and]
      refine List.pairwise_append.mpr ⟨failures failing, ?_, ?_⟩
      · refine List.pairwise_cons.mpr ⟨fun later member _ => quiet later member, ?_⟩
        exact List.pairwise_of_forall_mem_list fun _ _ later member _ => quiet later member
      · intro earlier member _ _ fetched
        rcases List.mem_cons.mp member with equality | member
        · cases equality.symm.trans fetched
        · exact absurd fetched (failing.ne_fetched member)
  | @closed browser account unclosed inductionHypothesis =>
      refine List.pairwise_append.mpr ⟨inductionHypothesis, List.pairwise_singleton _ _, ?_⟩
      intro earlier _ later member _
      rw [List.mem_singleton.mp member]
      exact releasing_isFetch source

end Account

end Browser

/-- Whether an answer tells of a population that failed. -/
def Answer.isNativeFailure : Answer → Bool
  | .failed (.native _) => true
  | _ => false

theorem Answer.isNativeFailure_of_ne_failed {answer : Answer}
    (answered : ∀ error, answer ≠ .failed error) : answer.isNativeFailure = false := by
  cases answer with
  | failed error => exact absurd rfl (answered error)
  | found | listed | size | truth | text | done | visited => rfl

theorem Query.reading_ne_failed {query : Query} {say : Population → Answer}
    (reading : query.reading? = some say) (population : Population) (error : BrowserError) :
    say population ≠ .failed error := by
  cases query <;> cases reading <;> simp

theorem Query.observing_ne_failed {query : Query} {say : Holdings → Answer}
    (observing : query.observing? = some say) (holdings : Holdings) (error : BrowserError) :
    say holdings ≠ .failed error := by
  cases query <;> cases observing <;> simp

theorem Query.ne_close_of_reading {query : Query} {say : Population → Answer}
    (reading : query.reading? = some say) : query ≠ .close := by
  rintro rfl
  cases reading

theorem Query.ne_close_of_observing {query : Query} {say : Holdings → Answer}
    (observing : query.observing? = some say) : query ≠ .close := by
  rintro rfl
  cases observing

namespace Step

/-- Whether the step tried to populate the browser and failed. -/
def failsToPopulate (step : Step) : Bool :=
  step.answer.isNativeFailure

/-- Whether the browser is populated by the step. -/
def populates (step : Step) : Bool :=
  step.after.holdings.isPopulated && !step.before.holdings.isPopulated

end Step

namespace Browser

namespace Effect

variable {source : Source} {browser after : Browser} {query : Query} {answer : Answer}

/-- Only reads of a pending browser fetch, once each. -/
theorem fetches_once (effect : Effect source browser query answer after) :
    after.fetches = browser.fetches ∨
      browser.phase = .pending ∧ after.fetches = browser.fetches + 1 := by
  cases effect with
  | refused | shared | observed | idle => exact .inl rfl
  | failed reading pending failed => exact .inr ⟨pending, fetches_record_fetchFailed browser _⟩
  | filled reading pending fetched => exact .inr ⟨pending, fetches_fill browser _⟩
  | released unclosed => simp [fetches, releasing_isFetch]

/-- A fetch is a population that fails or one that succeeds. -/
theorem fetches_eq (effect : Effect source browser query answer after) :
    after.fetches = browser.fetches + answer.isNativeFailure.toNat +
      (after.holdings.isPopulated && !browser.holdings.isPopulated).toNat := by
  cases effect with
  | refused => simp [Answer.isNativeFailure]
  | @shared query say population reading populated =>
      have succeeded := Answer.isNativeFailure_of_ne_failed
        (Query.reading_ne_failed reading population)
      simp [succeeded]
  | failed reading pending failed =>
      rw [fetches_record_fetchFailed]
      simp [Answer.isNativeFailure, record]
  | @filled query say listing reading pending fetched =>
      have succeeded := Answer.isNativeFailure_of_ne_failed
        (Query.reading_ne_failed reading (.ofListing browser.fetches listing))
      rw [fetches_fill, succeeded, holdings_fill pending, Holdings.isPopulated_of_pending pending]
      simp [Holdings.isPopulated]
  | observed observing =>
      have succeeded := Answer.isNativeFailure_of_ne_failed
        (Query.observing_ne_failed observing browser.holdings)
      simp [succeeded]
  | released unclosed =>
      simp [fetches, releasing_isFetch, Answer.isNativeFailure, Holdings.isPopulated]
  | idle => simp [fetches, Answer.isNativeFailure, Holdings.isPopulated]

theorem eq_of_emptied (effect : Effect source browser query answer after)
    (emptied : browser.holdings = ⟨none, none⟩) : after = browser := by
  have closed : browser.phase = .closed := congrArg Holdings.phase emptied
  cases effect with
  | refused | shared | observed => rfl
  | failed reading pending | filled reading pending => cases closed.symm.trans pending
  | released unclosed => exact absurd closed unclosed
  | idle => rw [← emptied]

/-- Only a close closes a browser, and nothing opens it again. -/
theorem phase_eq_closed_iff (effect : Effect source browser query answer after) :
    after.phase = .closed ↔ browser.phase = .closed ∨ query = .close := by
  cases effect with
  | refused reading | shared reading | failed reading =>
      exact (or_iff_left (Query.ne_close_of_reading reading)).symm
  | filled reading pending =>
      rw [phase_fill pending, pending]
      simp [Query.ne_close_of_reading reading]
  | observed observing => exact (or_iff_left (Query.ne_close_of_observing observing)).symm
  | released | idle => exact iff_of_true rfl (.inr rfl)

theorem pending_of_populated (effect : Effect source browser query answer after)
    (unpopulated : browser.holdings.isPopulated = false)
    (populated : after.holdings.isPopulated = true) : browser.phase = .pending := by
  cases effect with
  | refused | shared | observed => cases unpopulated.symm.trans populated
  | failed reading pending | filled reading pending => exact pending
  | released | idle => cases populated

/-- A browser that was populated or closed is not pending again. -/
theorem phase_ne_pending (effect : Effect source browser query answer after)
    (past : browser.phase ≠ .pending) : after.phase ≠ .pending := by
  cases effect with
  | refused | shared | observed => exact past
  | failed reading pending | filled reading pending => exact absurd pending past
  | released | idle => exact nofun

end Effect

namespace Trace

variable {source : Source} {browser last : Browser} {steps : List Step}

theorem fetches_eq (trace : Trace source browser steps last) :
    last.fetches = browser.fetches + steps.countP (·.failsToPopulate) +
      steps.countP (·.populates) := by
  induction trace with
  | nil => simp
  | @cons browser last query steps rest inductionHypothesis =>
      have fetched := (effect_answer source browser query).fetches_eq
      change (browser.step source query).after.fetches = browser.fetches +
        (browser.step source query).failsToPopulate.toNat +
        (browser.step source query).populates.toNat at fetched
      rw [inductionHypothesis, fetched]
      cases failed : (browser.step source query).failsToPopulate <;>
        cases populated : (browser.step source query).populates <;>
        simp [failed, populated] <;> omega

theorem eq_of_emptied (trace : Trace source browser steps last)
    (emptied : browser.holdings = ⟨none, none⟩) : last = browser := by
  apply trace.preserves (P := fun reached => reached = browser) _ rfl
  intro before query answer after effect same
  rw [same] at effect
  exact effect.eq_of_emptied emptied

/-- A browser is closed exactly if it was from the start or a step closed it. -/
theorem phase_eq_closed_iff (trace : Trace source browser steps last) :
    last.phase = .closed ↔ browser.phase = .closed ∨ ∃ step ∈ steps, step.query = .close := by
  induction trace with
  | nil => simp
  | @cons browser last query steps rest inductionHypothesis =>
      have first : (browser.step source query).after.phase = .closed ↔
          browser.phase = .closed ∨ query = .close :=
        (effect_answer source browser query).phase_eq_closed_iff
      rw [inductionHypothesis, first, or_assoc]
      simp [step]

theorem phase_ne_closed (trace : Trace source browser steps last)
    (others : ∀ step ∈ steps, step.query ≠ .close) (unclosed : browser.phase ≠ .closed) :
    last.phase ≠ .closed := by
  rw [ne_eq, trace.phase_eq_closed_iff, not_or]
  refine ⟨unclosed, ?_⟩
  rintro ⟨step, member, close⟩
  exact others step member close

theorem not_populates (trace : Trace source browser steps last) (past : browser.phase ≠ .pending)
    {step : Step} (member : step ∈ steps) : step.populates = false := by
  obtain ⟨stillPast, effect⟩ := trace.effect_of_mem (P := fun browser => browser.phase ≠ .pending)
    Effect.phase_ne_pending past member
  apply Bool.eq_false_iff.mpr
  intro populated
  simp only [Step.populates, Bool.and_eq_true, Bool.not_eq_true'] at populated
  exact stillPast (effect.pending_of_populated populated.2 populated.1)

/-- A run populates the browser at most once. -/
theorem countP_populates_le_one (trace : Trace source browser steps last) :
    steps.countP (·.populates) ≤ 1 := by
  induction trace with
  | nil => simp
  | @cons browser last query steps rest inductionHypothesis =>
      cases populated : (browser.step source query).populates with
      | false => simpa [populated] using inductionHypothesis
      | true =>
          have past : (browser.step source query).after.phase ≠ .pending := by
            intro pending
            simp [Step.populates, Holdings.isPopulated_of_pending pending] at populated
          have none : steps.countP (·.populates) = 0 := by
            apply List.countP_eq_zero.mpr
            intro step member
            simp [rest.not_populates past member]
          simp [populated, none]

theorem countP_populates (trace : Trace source browser steps last) :
    steps.countP (·.populates) = if steps.any (·.populates) then 1 else 0 := by
  have once := trace.countP_populates_le_one
  cases populated : steps.any (·.populates) with
  | false =>
      have none : steps.countP (·.populates) = 0 := by
        simpa [List.countP_eq_zero] using populated
      simp [none]
  | true =>
      have some : 0 < steps.countP (·.populates) := by
        simpa [List.countP_pos_iff] using populated
      simp only [if_true]
      omega

end Trace

theorem acquire_of_create {source : Source} {browser : Browser}
    (created : create source = .ok browser) :
    source.acquire = .ok () ∧ browser = .new () := by
  unfold create at created
  cases acquired : source.acquire with
  | error error => simp [acquired] at created
  | ok => simpa [acquired] using created.symm

end Browser

open Browser

/-- The native calls of a program that was run with a new browser, and of the drop after it. -/
structure NativeCalls (source : Source) (outcome : Program.Outcome) : Prop where
  /-- A step fetches at most once, and only while the browser is open and unpopulated. -/
  fetches_once : ∀ step ∈ outcome.steps, step.after.fetches = step.before.fetches ∨
    step.before.phase = .pending ∧ step.after.fetches = step.before.fetches + 1
  /-- At most one fetch succeeds, and none follows it. -/
  fetched_last : outcome.browser.events.Pairwise fun earlier later =>
    earlier = .fetched → later.isFetch = false
  /-- The fetches are the populations that failed and the one that succeeded, if any did. -/
  fetches_eq : outcome.browser.fetches = outcome.steps.countP (·.failsToPopulate) +
    if outcome.steps.any (·.populates) then 1 else 0
  /-- After a close nothing is held, and nothing at all is called. -/
  unchanged_after_close : ∀ before step after, outcome.steps = before ++ step :: after →
    step.query = .close → step.after.holdings = ⟨none, none⟩ ∧ outcome.browser = step.after ∧
      (outcome.browser.drop source).events = step.after.events
  /-- The first close calls the release and nothing else. -/
  released_at_close : ∀ before step after, outcome.steps = before ++ step :: after →
    step.query = .close → (∀ earlier ∈ before, earlier.query ≠ .close) →
      step.before.releases = 0 ∧ step.after.events = step.before.events ++ [releasing source]
  /-- Without a close it is the drop that calls the release. -/
  released_at_drop : (∀ step ∈ outcome.steps, step.query ≠ .close) →
    outcome.browser.releases = 0 ∧
      (outcome.browser.drop source).events = outcome.browser.events ++ [releasing source]
  releases_le_one : outcome.browser.releases ≤ 1
  releases_dropped : (outcome.browser.drop source).releases = 1
  fetches_dropped : (outcome.browser.drop source).fetches = outcome.browser.fetches

theorem nativeCalls_run (source : Source) (program : Program) :
    NativeCalls source (program.run source (.new ())) := by
  have trace := program.run_trace source (.new ())
  have account := Account.of_trace trace (.created source)
  generalize program.run source (.new ()) = outcome at trace account
  have dropped : Account source (outcome.browser.drop source) :=
    Account.effect (effect_close source outcome.browser) account
  constructor
  case fetches_once =>
    intro step member
    have effect := (trace.effect_of_mem (P := fun _ => True) (fun _ _ => trivial) trivial member).2
    exact effect.fetches_once
  case fetched_last => exact account.fetched_last
  case fetches_eq =>
    have fetched := trace.fetches_eq
    have new : fetches (.new ()) = 0 := rfl
    rw [new, Nat.zero_add, trace.countP_populates] at fetched
    exact fetched
  case unchanged_after_close =>
    intro before step after equality close
    rw [equality] at trace
    obtain ⟨-, taken, further⟩ := trace.split_at
    rw [close] at taken
    have emptied : step.after.holdings = ⟨none, none⟩ := by
      rw [taken]
      exact holdings_close source step.before
    have same := further.eq_of_emptied emptied
    exact ⟨emptied, same, by rw [same, drop, close_of_emptied source emptied]⟩
  case released_at_close =>
    intro before step after equality close first
    rw [equality] at trace
    obtain ⟨front, taken, -⟩ := trace.split_at
    rw [close] at taken
    have unclosed := front.phase_ne_closed first nofun
    have closing : step.after = step.before.close source := by
      rw [taken]
      rfl
    rw [closing, close_of_unclosed source unclosed]
    exact ⟨(Account.of_trace front (.created source)).releases_eq_zero unclosed, rfl⟩
  case released_at_drop =>
    intro others
    have unclosed := trace.phase_ne_closed others nofun
    rw [drop, close_of_unclosed source unclosed]
    exact ⟨account.releases_eq_zero unclosed, rfl⟩
  case releases_le_one =>
    rw [account.releases_eq]
    split <;> simp
  case releases_dropped =>
    rw [dropped.releases_eq, drop, holdings_close]
    rfl
  case fetches_dropped =>
    by_cases closed : outcome.browser.phase = .closed
    · simp [drop, close_of_closed source closed, fetches]
    · simp [drop, close_of_unclosed source closed, fetches, releasing_isFetch]

/-- Each session acquires once, fetches as often as its program tries to populate the browser and
releases once what it acquired. A release that fails is reported and closes the browser as well. -/
theorem session_native_calls (source : Source) (program : Program) :
    let events := (Session.run source program).events
    events.countP Event.isAcquire = 1 ∧
      (∀ error, source.acquire = .error error → events = [.acquireFailed error]) ∧
      (∀ browser, Browser.create source = .ok browser →
        events = ((program.run source browser).browser.drop source).events ∧
        NativeCalls source (program.run source browser)) ∧
      ∀ error, source.release = .error error →
        (releasing source).logLines =
          [⟨.warn, "Failed to release native interface handle", [("error", error.message)]⟩] := by
  refine ⟨?_, ?_, ?_, ?_⟩
  · cases created : create source with
    | error error =>
        simp only [Session.run, created]
        unfold acquisition
        split <;> rfl
    | ok browser =>
        have new := (acquire_of_create created).2
        have account := Account.of_trace (program.run_trace source browser) (new ▸ .created source)
        have dropped := Account.effect (effect_close source _) account
        simpa [Session.run, created, acquires, drop] using dropped.acquires_eq_one
  · intro error failed
    simp [Session.run, create, acquisition, failed]
  · intro browser created
    refine ⟨by simp [Session.run, created], ?_⟩
    rw [(acquire_of_create created).2]
    exact nativeCalls_run source program
  · intro error failed
    simp [releasing, failed, Event.logLines]

/-- A source whose first fetch and whose release fail. -/
def Source.flaky : Source where
  acquire := .ok ()
  fetch number :=
    if number = 0 then .error (.platform "busy")
    else .ok [⟨1, "lo", 0, none, none, none, []⟩, ⟨2, "eth0", 0, none, none, none, []⟩]
  release := .error (.platform "gone")

/-- Reads in vain, then visits all interfaces with visits that close the browser and read again. -/
def Program.busy : Program :=
  .ask .size fun _ =>
    .forEach (fun _ _ => .ask .close fun _ => .ask .list fun _ => .stop true) fun _ =>
      .ask .isEmpty fun _ => .stop true

theorem busy_native_calls :
    let outcome := Program.busy.run .flaky (.new ())
    Browser.create .flaky = .ok (.new ()) ∧ outcome.steps.length = 7 ∧
      outcome.browser.fetches = 2 ∧ NativeCalls .flaky outcome ∧
      (releasing .flaky).logLines =
        [⟨.warn, "Failed to release native interface handle",
          [("error", "Platform error: gone")]⟩] := by
  have calls := session_native_calls .flaky .busy
  exact ⟨rfl, rfl, rfl, (calls.2.2.1 _ rfl).2, calls.2.2.2 _ rfl⟩

end NetInterface
