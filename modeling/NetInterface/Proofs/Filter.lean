import NetInterface.Filter

/-!
What the verdict of a filter depends on.

A chain is told by the filters that it holds. Their order and repetition do not count, two
negations cancel each other, and this is so for the chains at any depth of a filter: filters that
differ in no more than that are `Alike` and accept the same interfaces (`accepts_of_alike`). A
chain that is given one more filter accepts what follows from the verdicts of the two.
-/

namespace NetInterface

namespace Filter

/-- The filters are the same but for the order and repetition of what their chains hold and but for
double negations, at any depth. -/
inductive Alike : Filter → Filter → Prop
  | refl (filter : Filter) : Alike filter filter
  | symm {filter other : Filter} (alike : Alike filter other) : Alike other filter
  | trans {filter middle other : Filter} (alike : Alike filter middle)
      (further : Alike middle other) : Alike filter other
  | held {includes excludes others otherExcludes : List Filter}
      (included : ∀ filter, filter ∈ includes ↔ filter ∈ others)
      (excluded : ∀ filter, filter ∈ excludes ↔ filter ∈ otherExcludes) :
      Alike (.chain includes excludes) (.chain others otherExcludes)
  | twice (filter : Filter) : Alike (.negation (.negation filter)) filter
  | negation {filter other : Filter} (alike : Alike filter other) :
      Alike (.negation filter) (.negation other)
  | insideIncludes (before after excludes : List Filter) {filter other : Filter}
      (alike : Alike filter other) :
      Alike (.chain (before ++ filter :: after) excludes)
        (.chain (before ++ other :: after) excludes)
  | insideExcludes (includes before after : List Filter) {filter other : Filter}
      (alike : Alike filter other) :
      Alike (.chain includes (before ++ filter :: after))
        (.chain includes (before ++ other :: after))

variable {interface : Interface} {filters others : List Filter}

theorem accepts_chain (interface : Interface) (includes excludes : List Filter) :
    accepts interface (.chain includes excludes) =
      (!excludes.any (accepts interface) &&
        (includes.isEmpty || includes.any (accepts interface))) :=
  FilterChain.accepts_eq ⟨includes, excludes⟩ interface

theorem any_accepts_of_held (same : ∀ filter, filter ∈ filters ↔ filter ∈ others) :
    filters.any (accepts interface) = others.any (accepts interface) := by
  rw [Bool.eq_iff_iff, List.any_eq_true, List.any_eq_true]
  exact exists_congr fun filter => and_congr_left' (same filter)

theorem isEmpty_of_held (same : ∀ filter, filter ∈ filters ↔ filter ∈ others) :
    filters.isEmpty = others.isEmpty := by
  rw [Bool.eq_iff_iff, List.isEmpty_iff, List.isEmpty_iff, List.eq_nil_iff_forall_not_mem,
    List.eq_nil_iff_forall_not_mem]
  exact forall_congr' fun filter => not_congr (same filter)

theorem any_accepts_of_accepts {filter other : Filter} (before after : List Filter)
    (same : accepts interface filter = accepts interface other) :
    (before ++ filter :: after).any (accepts interface) =
      (before ++ other :: after).any (accepts interface) := by
  rw [List.any_append, List.any_append, List.any_cons, List.any_cons, same]

/-- What a verdict does not depend on: a replacement is judged like what it stands for. -/
theorem accepts_of_alike {filter other : Filter} (alike : Alike filter other)
    (interface : Interface) : accepts interface filter = accepts interface other := by
  induction alike with
  | refl filter => rfl
  | symm _ inductionHypothesis => exact inductionHypothesis.symm
  | trans _ _ first second => exact first.trans second
  | held included excluded =>
      rw [accepts_chain, accepts_chain, any_accepts_of_held included,
        any_accepts_of_held excluded, isEmpty_of_held included]
  | twice filter => simp [accepts]
  | negation _ inductionHypothesis => rw [accepts, accepts, inductionHypothesis]
  | insideIncludes before after excludes _ inductionHypothesis =>
      have filled (filter : Filter) : (before ++ filter :: after).isEmpty = false := by simp
      rw [accepts_chain, accepts_chain, filled, filled,
        any_accepts_of_accepts before after inductionHypothesis]
  | insideExcludes includes before after _ inductionHypothesis =>
      rw [accepts_chain, accepts_chain,
        any_accepts_of_accepts before after inductionHypothesis]

end Filter

namespace FilterChain

theorem accepts_excluding (chain : FilterChain) (filter : Filter) (interface : Interface) :
    (chain.excluding filter).accepts interface =
      (chain.accepts interface && !filter.accepts interface) := by
  rw [accepts_eq, accepts_eq, excluding, List.any_append, List.any_cons, List.any_nil,
    Bool.or_false, Bool.not_or, Bool.and_assoc, Bool.and_assoc]
  congr 1
  exact Bool.and_comm _ _

/-- An include that is not the first one lets in what it accepts, unless an exclude accepts it
too. -/
theorem accepts_including {chain : FilterChain} (including : chain.includes ≠ [])
    (filter : Filter) (interface : Interface) :
    (chain.including filter).accepts interface =
      (chain.accepts interface ||
        filter.accepts interface && !chain.excludes.any (Filter.accepts interface)) := by
  have selective : chain.includes.isEmpty = false := by simpa using including
  have stillSelective : (chain.includes ++ [filter]).isEmpty = false := by simp
  rw [accepts_eq, accepts_eq, FilterChain.including, stillSelective, selective, List.any_append,
    List.any_cons, List.any_nil, Bool.or_false, Bool.false_or, Bool.false_or,
    Bool.and_or_distrib_left]
  congr 1
  exact Bool.and_comm _ _

/-- The verdict of a filter depends on the filters that its chains hold and not on their order or
repetition, nor on double negations, at any depth. One more exclude takes away what it accepts, or
what it does not accept if it is negated; one more include adds what it accepts and no exclude
does. -/
theorem verdict_of_held :
    (∀ filter other : Filter, filter.Alike other → ∀ interface,
      filter.accepts interface = other.accepts interface) ∧
    (∀ (filter : Filter) interface,
      filter.negation.negation.accepts interface = filter.accepts interface) ∧
    ∀ (chain : FilterChain) (filter : Filter) interface,
      ((chain.excluding filter).accepts interface = true ↔
        chain.accepts interface = true ∧ filter.accepts interface = false) ∧
      ((chain.excluding filter.negation).accepts interface = true ↔
        chain.accepts interface = true ∧ filter.accepts interface = true) ∧
      (chain.includes ≠ [] →
        ((chain.including filter).accepts interface = true ↔
          chain.accepts interface = true ∨ filter.accepts interface = true ∧
            ∀ exclude ∈ chain.excludes, exclude.accepts interface = false)) := by
  refine ⟨fun _ _ => Filter.accepts_of_alike, ?_, ?_⟩
  · intro filter interface
    exact Filter.accepts_of_alike (.twice filter) interface
  · intro chain filter interface
    refine ⟨?_, ?_, ?_⟩
    · rw [accepts_excluding, Bool.and_eq_true, Bool.not_eq_true']
    · rw [accepts_excluding, Filter.accepts, Bool.not_not, Bool.and_eq_true]
    · intro including
      rw [accepts_including including, Bool.or_eq_true, Bool.and_eq_true, Bool.not_eq_true',
        List.any_eq_false]
      simp only [Bool.not_eq_true]

/-- The inner chain holds the same two filters in another order and one of them twice, and an
exclude is negated twice. An interface that is up gets in by one more include, which the exclude
does not accept. -/
theorem shuffled_chain_of_held :
    let up : Filter := .flags [.up]
    let loopback : Filter := .flags [.loopback]
    let docker : Filter := .name "^docker0$" (· == "docker0")
    let filter : Filter := .chain [.negation (.chain [up, loopback] [])] [docker]
    let other : Filter :=
      .chain [.negation (.chain [loopback, up, loopback] [])] [docker.negation.negation]
    let chain : FilterChain := ⟨[loopback], [docker]⟩
    let interface : Interface := { Interface.bare 2 "eth0" with flags := 0x1 }
    filter.Alike other ∧ filter.accepts interface = other.accepts interface ∧
      chain.includes ≠ [] ∧ (chain.including up).accepts interface = true ∧
      (chain.excluding loopback.negation).accepts interface = false := by
  intro up loopback docker filter other chain interface
  have inner : Filter.Alike (.chain [up, loopback] []) (.chain [loopback, up, loopback] []) :=
    .held (by simp [or_comm]) (by simp)
  have alike : filter.Alike other :=
    (Filter.Alike.insideIncludes [] [] _ inner.negation).trans
      (Filter.Alike.insideExcludes _ [] [] (.symm (.twice docker)))
  have laws := verdict_of_held.2.2 chain
  refine ⟨alike, verdict_of_held.1 filter other alike interface, by simp [chain], ?_, ?_⟩
  · apply ((laws up interface).2.2 (by simp [chain])).mpr
    exact .inr ⟨by decide, by decide⟩
  · rw [← Bool.not_eq_true, (laws loopback interface).2.1]
    decide

end FilterChain

end NetInterface
