import NetInterface.Interface.Basic

/-!
Filters over interfaces.

A filter tests the name or the flags of an interface, negates another filter, or is a chain. A
chain accepts an interface that none of its excludes matches and that, if it has includes, at least
one of them matches.
-/

namespace NetInterface

/-- A name pattern that cannot be read, with what is wrong with it. -/
structure InvalidPattern where
  pattern : String
  detail : String
deriving DecidableEq, Repr

inductive Filter where
  /-- A pattern and the names that it matches. -/
  | name (pattern : String) (isMatch : String → Bool)
  | flags (wanted : List InterfaceFlag)
  | negation (filter : Filter)
  | chain (includes excludes : List Filter)

/-- How the text of a pattern becomes a test of names, or else what is wrong with it. -/
abbrev PatternReader := String → Except String (String → Bool)

namespace Filter

def ofPattern (read : PatternReader) (pattern : String) : Except InvalidPattern Filter :=
  match read pattern with
  | .ok isMatch => .ok (.name pattern isMatch)
  | .error detail => .error ⟨pattern, detail⟩

mutual

def accepts (interface : Interface) : Filter → Bool
  | .name _ isMatch => isMatch interface.name
  | .flags wanted => wanted.any interface.hasFlag
  | .negation filter => !accepts interface filter
  | .chain includes excludes =>
      !acceptsAny interface excludes && (includes.isEmpty || acceptsAny interface includes)

def acceptsAny (interface : Interface) : List Filter → Bool
  | [] => false
  | filter :: filters => accepts interface filter || acceptsAny interface filters

end

@[simp]
theorem acceptsAny_eq_any (interface : Interface) (filters : List Filter) :
    acceptsAny interface filters = filters.any (accepts interface) := by
  induction filters with
  | nil => rfl
  | cons filter filters inductionHypothesis => simp [acceptsAny, inductionHypothesis]

end Filter

structure FilterChain where
  includes : List Filter
  excludes : List Filter

namespace FilterChain

def empty : FilterChain :=
  ⟨[], []⟩

def isEmpty (chain : FilterChain) : Bool :=
  chain.includes.isEmpty && chain.excludes.isEmpty

def including (chain : FilterChain) (filter : Filter) : FilterChain :=
  { chain with includes := chain.includes ++ [filter] }

def excluding (chain : FilterChain) (filter : Filter) : FilterChain :=
  { chain with excludes := chain.excludes ++ [filter] }

def toFilter (chain : FilterChain) : Filter :=
  .chain chain.includes chain.excludes

def accepts (chain : FilterChain) (interface : Interface) : Bool :=
  chain.toFilter.accepts interface

theorem accepts_eq (chain : FilterChain) (interface : Interface) :
    chain.accepts interface =
      (!chain.excludes.any (Filter.accepts interface) &&
        (chain.includes.isEmpty || chain.includes.any (Filter.accepts interface))) := by
  simp [accepts, toFilter, Filter.accepts]

/-- The sizes of a chain, which say all that is shown of it. -/
def inspect (chain : FilterChain) : String :=
  "FilterChain \x7b include_count: " ++ toString chain.includes.length ++ ", exclude_count: " ++
    toString chain.excludes.length ++ " \x7d"

end FilterChain

end NetInterface
