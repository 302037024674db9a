import NetInterface.Proofs.Browser.Reentrancy

/-!
What the reads of a run have in common.

The population of a browser is always the one that is made from the first listing that its source
yields, because the account of a browser leaves room for no other. `run_one_view` says that every
read of a run, also inside visits, fails or answers from that population.
-/

namespace NetInterface

/-- The population is made from the first listing that the source yields. -/
def Source.IsFirst (source : Source) (population : Population) : Prop :=
  ∃ number listing, source.FailsBefore number ∧ source.fetch number = .ok listing ∧
    population = .ofListing number listing

namespace Source

variable {source : Source}

theorem FailsBefore.not_ok {number earlier : Nat} {listing : Listing}
    (failing : source.FailsBefore number) (fetched : source.fetch earlier = .ok listing) :
    number ≤ earlier := by
  apply Nat.le_of_not_lt
  intro bound
  obtain ⟨error, failed⟩ := failing earlier bound
  cases fetched.symm.trans failed

theorem IsFirst.unique {first second : Population} (isFirst : source.IsFirst first)
    (isSecond : source.IsFirst second) : first = second := by
  obtain ⟨number, listing, failing, fetched, rfl⟩ := isFirst
  obtain ⟨number', listing', failing', fetched', rfl⟩ := isSecond
  obtain rfl := Nat.le_antisymm (failing.not_ok fetched') (failing'.not_ok fetched)
  cases fetched.symm.trans fetched'
  rfl

theorem not_isFirst_of_failing (failing : ∀ number, source.FailsBefore number)
    (population : Population) : ¬ source.IsFirst population := by
  rintro ⟨number, listing, -, fetched, -⟩
  exact Nat.not_succ_le_self number ((failing (number + 1)).not_ok fetched)

end Source

namespace Query

variable {query : Query} {say : Population → Answer}

theorem observing_of_reading (reading : query.reading? = some say) : query.observing? = none := by
  cases query <;> cases reading <;> rfl

/-- Only a list answers with a population, and with the one that it reads. -/
theorem reading_eq_listed (reading : query.reading? = some say) {population other : Population}
    (listed : say population = .listed other) : other = population := by
  cases query <;> cases reading <;> cases listed
  rfl

theorem observing_ne_listed {say : Holdings → Answer} (observing : query.observing? = some say)
    (holdings : Holdings) (population : Population) : say holdings ≠ .listed population := by
  cases query <;> cases observing <;> simp

end Query

namespace Browser

variable {source : Source} {browser after : Browser} {query : Query} {answer : Answer}

theorem Account.of_populated {population : Population} (account : Account source browser)
    (populated : browser.phase = .populated population) :
    source.IsFirst population ∧ browser.fetches = population.fetch + 1 := by
  cases account with
  | pending => cases populated
  | closed => cases populated
  | @populated number listing failing fetched count =>
      cases populated
      refine ⟨⟨number, listing, failing, fetched, rfl⟩, ?_⟩
      have attempted := source.countP_attempts Event.isFetch (fun _ => rfl) number
      have populating := countP_populating Event.isFetch (fun _ => rfl) (fun _ => rfl) listing count
      simp [fetches, Population.ofListing, attempted, populating, Event.isFetch]

/-- A read fails or answers from the first population, the fetch of which was the last one. -/
theorem Effect.answer_of_reading (effect : Effect source browser query answer after)
    (account : Account source browser) {say : Population → Answer}
    (reading : query.reading? = some say) :
    (∃ error, answer = .failed error) ∨
      ∃ population, source.IsFirst population ∧ answer = say population ∧
        after.fetches = population.fetch + 1 := by
  cases effect with
  | refused | failed => exact .inl ⟨_, rfl⟩
  | @shared query told population known populated =>
      cases reading.symm.trans known
      obtain ⟨first, fetches⟩ := account.of_populated populated
      exact .inr ⟨population, first, rfl, fetches⟩
  | @filled query told listing known pending fetched =>
      cases reading.symm.trans known
      have first : source.IsFirst (.ofListing browser.fetches listing) :=
        ⟨_, listing, (account.of_pending pending).1, fetched, rfl⟩
      exact .inr ⟨_, first, rfl, fetches_fill browser listing⟩
  | observed observing => cases (Query.observing_of_reading reading).symm.trans observing
  | released | idle => cases reading

theorem Effect.isFirst_of_listed {population : Population}
    (effect : Effect source browser query (.listed population) after)
    (account : Account source browser) : source.IsFirst population := by
  generalize listed : Answer.listed population = answer at effect
  cases effect with
  | refused | failed | released | idle => cases listed
  | shared known populated =>
      obtain rfl := Query.reading_eq_listed known listed.symm
      exact (account.of_populated populated).1
  | filled known pending fetched =>
      obtain rfl := Query.reading_eq_listed known listed.symm
      exact ⟨_, _, (account.of_pending pending).1, fetched, rfl⟩
  | observed observing =>
      exact absurd listed.symm (Query.observing_ne_listed observing browser.holdings population)

end Browser

/-- An answer is among the answers or among those that were given to visits, at any depth. -/
inductive Answer.Within (answer : Answer) : List Answer → Prop
  | here {answers : List Answer} (member : answer ∈ answers) : Within answer answers
  | inside {answers inner : List Answer} {completed : Bool} {visits : List Visit}
      {interface : Interface} (member : .visited completed visits ∈ answers)
      (visit : (interface, inner) ∈ visits) (within : Within answer inner) :
      Within answer answers

namespace Answer.Within

variable {answer : Answer} {answers others : List Answer}

theorem mono (within : Within answer answers) (subset : answers ⊆ others) :
    Within answer others := by
  cases within with
  | here member => exact .here (subset member)
  | inside member visit within => exact .inside (subset member) visit within

theorem cons_cases {first : Answer} (within : Within answer (first :: answers)) :
    answer = first ∨
      (∃ completed visits, first = .visited completed visits ∧
        Within answer (visits.flatMap (·.2))) ∨
      Within answer answers := by
  cases within with
  | here member =>
      rcases List.mem_cons.mp member with same | member
      · exact .inl same
      · exact .inr (.inr (.here member))
  | @inside inner _ completed visits interface member visit within =>
      rcases List.mem_cons.mp member with same | member
      · refine .inr (.inl ⟨completed, visits, same.symm, within.mono ?_⟩)
        intro each member
        exact List.mem_flatMap.mpr ⟨_, visit, member⟩
      · exact .inr (.inr (.inside member visit within))

end Answer.Within

/-- Every visit of all interfaces, at any depth, goes through a first part of a population that is
listed among the answers laid out. -/
theorem Unnested.listed_of_within {answers others : List Answer}
    (unnested : Unnested answers others) {completed : Bool} {visits : List Visit}
    (within : Answer.Within (.visited completed visits) answers) :
    ∃ population, .listed population ∈ others ∧
      visits.map (·.1) <+: population.snapshot.toList ∧
      (completed = true → visits.map (·.1) = population.snapshot.toList) := by
  induction unnested with
  | nil =>
      cases within with
      | here member | inside member => cases member
  | plain unvisited rest inductionHypothesis =>
      rcases within.cons_cases with same | ⟨completed, visits, same, -⟩ | within
      · exact absurd same.symm (unvisited _ _)
      · exact absurd same (unvisited _ _)
      · obtain ⟨population, member, visited⟩ := inductionHypothesis within
        exact ⟨population, List.mem_cons_of_mem _ member, visited⟩
  | @visited population _ _ in_order complete _ _ _ _ _ nestedHypothesis restHypothesis =>
      rcases within.cons_cases with same | ⟨_, _, same, within⟩ | within
      · cases same
        exact ⟨population, List.mem_cons_self, in_order, complete⟩
      · cases same
        obtain ⟨population, member, visited⟩ := nestedHypothesis within
        exact ⟨population, by simp [member], visited⟩
      · obtain ⟨population, member, visited⟩ := restHypothesis within
        exact ⟨population, by simp [member], visited⟩

/-- What a run shows of the interfaces is what the population shows. -/
structure OneView (population : Population) (outcome : Program.Outcome) : Prop where
  /-- A read that succeeds says what it is to say of the population, which was fetched last. -/
  reads : ∀ step ∈ outcome.steps, ∀ say, step.query.reading? = some say →
    (∃ error, step.answer = .failed error) ∨
      step.answer = say population ∧ step.after.fetches = population.fetch + 1
  /-- All lists are one. -/
  lists : ∀ step ∈ outcome.steps, ∀ other, step.answer = .listed other → other = population
  named : ∀ step ∈ outcome.steps, ∀ name interface, step.query = .named name →
    step.answer = .found (some interface) →
      ∃ position, population.snapshot.findName? name = some position ∧
        population.snapshot.toList[position]? = some interface
  numbered : ∀ step ∈ outcome.steps, ∀ index interface, step.query = .numbered index →
    step.answer = .found (some interface) →
      ∃ position, population.snapshot.findIndex? index = some position ∧
        population.snapshot.toList[position]? = some interface
  /-- The visits of interfaces, at any depth, go through the list from its start. -/
  visits : ∀ completed visits, Answer.Within (.visited completed visits) outcome.answers →
    visits.map (·.1) <+: population.snapshot.toList ∧
      (completed = true → visits.map (·.1) = population.snapshot.toList)

open Browser

theorem oneView_run {source : Source} {population : Population}
    (first : source.IsFirst population) (program : Program) :
    OneView population (program.run source (.new ())) := by
  have trace := program.run_trace source (.new ())
  have unnested := program.unnested_run source (.new ())
  generalize program.run source (.new ()) = outcome at trace unnested
  have effects {step : Step} (member : step ∈ outcome.steps) :=
    trace.effect_of_mem Account.effect (.created source) member
  have reads : ∀ step ∈ outcome.steps, ∀ say, step.query.reading? = some say →
      (∃ error, step.answer = .failed error) ∨
        step.answer = say population ∧ step.after.fetches = population.fetch + 1 := by
    intro step member say reading
    obtain ⟨account, effect⟩ := effects member
    rcases effect.answer_of_reading account reading with failed | ⟨other, isFirst, rest⟩
    · exact .inl failed
    · rw [isFirst.unique first] at rest
      exact .inr rest
  have lists : ∀ step ∈ outcome.steps, ∀ other, step.answer = .listed other →
      other = population := by
    intro step member other listed
    obtain ⟨account, effect⟩ := effects member
    rw [listed] at effect
    exact (effect.isFirst_of_listed account).unique first
  refine ⟨reads, lists, ?named, ?numbered, ?visits⟩
  case named =>
    intro step member name interface query found
    rcases reads step member _ (by rw [query]; rfl) with ⟨error, failed⟩ | ⟨answered, -⟩
    · cases found.symm.trans failed
    · exact Snapshot.named?_eq_some.mp (Answer.found.inj (answered.symm.trans found))
  case numbered =>
    intro step member index interface query found
    rcases reads step member _ (by rw [query]; rfl) with ⟨error, failed⟩ | ⟨answered, -⟩
    · cases found.symm.trans failed
    · exact Snapshot.numbered?_eq_some.mp (Answer.found.inj (answered.symm.trans found))
  case visits =>
    intro completed visits within
    obtain ⟨other, member, visited⟩ := unnested.listed_of_within within
    obtain ⟨step, member, listed⟩ := List.mem_map.mp member
    rw [lists step member other listed] at visited
    exact visited

end NetInterface
