import NetInterface.Pattern.Meaning
import NetInterface.Proofs.Attempts
import NetInterface.Settings.Merge

/-!
Which interfaces the merged settings show.

`Selects` says it from the two sources alone: a restriction counts if either source sets it, and the
patterns of a direction are those of the command line or, if it gives none, those of the file. The
filter that is made of the sources accepts exactly these interfaces (`merge_selects`).
-/

namespace NetInterface

namespace PatternReader

/-- The pattern can be read and matches the name. -/
def Matches (read : PatternReader) (pattern name : String) : Prop :=
  ∃ isMatch, read pattern = .ok isMatch ∧ isMatch name = true

instance (read : PatternReader) (pattern name : String) : Decidable (read.Matches pattern name) :=
  match known : read pattern with
  | .ok isMatch => decidable_of_iff (isMatch name = true) (by simp [Matches, known])
  | .error _ => .isFalse (by simp [Matches, known])

end PatternReader

namespace Filter

theorem ofPattern_eq_ok_iff {read : PatternReader} {pattern : String} {filter : Filter} :
    ofPattern read pattern = .ok filter ↔
      ∃ isMatch, read pattern = .ok isMatch ∧ filter = .name pattern isMatch := by
  unfold ofPattern
  cases read pattern with
  | error detail => simp
  | ok isMatch => simp [eq_comm]

theorem accepts_of_ofPattern {read : PatternReader} {pattern : String} {filter : Filter}
    (compiled : ofPattern read pattern = .ok filter) (interface : Interface) :
    accepts interface filter = true ↔ read.Matches pattern interface.name := by
  obtain ⟨isMatch, known, rfl⟩ := ofPattern_eq_ok_iff.mp compiled
  simp [accepts, PatternReader.Matches, known]

/-- One of the filters accepts an interface if one of their patterns matches its name. -/
theorem any_accepts_of_ofPattern {read : PatternReader} {patterns : List String}
    {filters : List Filter}
    (compiled : List.Forall₂ (fun pattern filter => ofPattern read pattern = .ok filter)
      patterns filters) (interface : Interface) :
    filters.any (accepts interface) = true ↔
      ∃ pattern ∈ patterns, read.Matches pattern interface.name := by
  induction compiled with
  | nil => simp
  | cons first rest inductionHypothesis =>
      simp [List.any_cons, Bool.or_eq_true, accepts_of_ofPattern first, inductionHypothesis]

end Filter

namespace Settings

variable {read : PatternReader} {arguments : Arguments} {file : Option FileSettings}

/-- The patterns of one direction that count: those that are given or, if there are none, those of
the file. -/
def patternsInForce : List String → Option (List String) → List String
  | [], none => []
  | [], some stated => stated
  | pattern :: patterns, _ => pattern :: patterns

def SkipsLoopback (arguments : Arguments) (file : Option FileSettings) : Prop :=
  arguments.skipLoopback = true ∨ ∃ stated ∈ file, stated.skipLoopback = true

def WantsUp (arguments : Arguments) (file : Option FileSettings) : Prop :=
  arguments.upOnly = true ∨ ∃ stated ∈ file, stated.upOnly = true

/-- A restriction bars the interface, whatever its name is. -/
def Bars (arguments : Arguments) (file : Option FileSettings) (interface : Interface) : Prop :=
  (interface.isLoopback = true ∧ SkipsLoopback arguments file) ∨
    (interface.isUp = false ∧ WantsUp arguments file)

/-- The interface is one that the two sources together ask for. -/
structure Selects (read : PatternReader) (arguments : Arguments) (file : Option FileSettings)
    (interface : Interface) : Prop where
  loopback : interface.isLoopback = false ∨ ¬ SkipsLoopback arguments file
  up : interface.isUp = true ∨ ¬ WantsUp arguments file
  unexcluded : ∀ pattern ∈ patternsInForce arguments.excludes (file.map (·.excludes)),
    ¬ read.Matches pattern interface.name
  included : patternsInForce arguments.includes (file.map (·.includes)) = [] ∨
    ∃ pattern ∈ patternsInForce arguments.includes (file.map (·.includes)),
      read.Matches pattern interface.name

instance : Decidable (SkipsLoopback arguments file) :=
  inferInstanceAs (Decidable (_ ∨ ∃ _ ∈ file, _))

instance : Decidable (WantsUp arguments file) :=
  inferInstanceAs (Decidable (_ ∨ ∃ _ ∈ file, _))

instance (interface : Interface) : Decidable (Selects read arguments file interface) :=
  decidable_of_iff (_ ∧ _ ∧ _ ∧ _)
    ⟨fun ⟨loopback, up, unexcluded, included⟩ => ⟨loopback, up, unexcluded, included⟩,
      fun selected => ⟨selected.loopback, selected.up, selected.unexcluded, selected.included⟩⟩

theorem not_bars_iff {interface : Interface} :
    ¬ Bars arguments file interface ↔
      (interface.isLoopback = false ∨ ¬ SkipsLoopback arguments file) ∧
        (interface.isUp = true ∨ ¬ WantsUp arguments file) := by
  rw [Bars, not_or, not_and_or, not_and_or, Bool.not_eq_true, Bool.not_eq_false]

theorem mergePatterns_eq (given : List String) (file : Option FileSettings)
    (stated : FileSettings → List String) (unstated : stated .empty = []) :
    mergePatterns given (stated (file.getD .empty)) = patternsInForce given (file.map stated) := by
  cases given with
  | cons pattern patterns => rfl
  | nil =>
      cases file with
      | none => exact unstated
      | some content => rfl

/-- A restriction holds in the settings of a file, or in the empty ones if there is no file. -/
theorem getD_eq_true_iff (stated : FileSettings → Bool) (unset : stated .empty = false) :
    stated (file.getD .empty) = true ↔ ∃ content ∈ file, stated content = true := by
  cases file with
  | none => simp [unset]
  | some content => simp

theorem any_restrictions (interface : Interface) :
    (restrictions arguments (file.getD .empty)).any (Filter.accepts interface) = true ↔
      Bars arguments file interface := by
  have loopback : SkipsLoopback arguments file ↔
      (arguments.skipLoopback || (file.getD .empty).skipLoopback) = true := by
    rw [Bool.or_eq_true, getD_eq_true_iff (·.skipLoopback) rfl, SkipsLoopback]
  have up : WantsUp arguments file ↔
      (arguments.upOnly || (file.getD .empty).upOnly) = true := by
    rw [Bool.or_eq_true, getD_eq_true_iff (·.upOnly) rfl, WantsUp]
  have isLoopback : Filter.accepts interface (.flags [.loopback]) = interface.isLoopback := by
    simp [Filter.accepts, Interface.isLoopback]
  have isDown : Filter.accepts interface (.negation (.flags [.up])) = !interface.isUp := by
    simp [Filter.accepts, Interface.isUp]
  rw [Bars, loopback, up, restrictions, List.any_append, Bool.or_eq_true]
  split <;> split <;> simp_all

/-- The chain of merged settings: the restrictions, and the filters of the patterns in force. -/
structure Chains (read : PatternReader) (arguments : Arguments) (file : Option FileSettings)
    (chain : FilterChain) (excluding : List Filter) : Prop where
  excludes : chain.excludes = restrictions arguments (file.getD .empty) ++ excluding
  excluding : (patternsInForce arguments.excludes (file.map (·.excludes))).mapM
    (Filter.ofPattern read) = .ok excluding
  includes : (patternsInForce arguments.includes (file.map (·.includes))).mapM
    (Filter.ofPattern read) = .ok chain.includes

theorem chains_of_merge {settings : Settings} (merged : merge read arguments file = .ok settings) :
    ∃ excluding, Chains read arguments file settings.filter excluding := by
  obtain ⟨format, -, merged⟩ := bind_eq_ok_iff.mp merged
  obtain ⟨chain, filtered, merged⟩ := bind_eq_ok_iff.mp merged
  obtain ⟨includes, included, chained⟩ := bind_eq_ok_iff.mp (mapError_eq_ok_iff.mp filtered)
  obtain ⟨excluding, excluded, chained⟩ := bind_eq_ok_iff.mp chained
  cases merged
  cases chained
  rw [mergePatterns_eq arguments.includes file (·.includes) rfl] at included
  rw [mergePatterns_eq arguments.excludes file (·.excludes) rfl] at excluded
  exact ⟨excluding, rfl, excluded, included⟩

/-- The chain accepts what its restrictions and patterns leave over. -/
theorem Chains.accepts_iff {chain : FilterChain} {excluding : List Filter}
    (chains : Chains read arguments file chain excluding) (interface : Interface) :
    chain.accepts interface = true ↔ Selects read arguments file interface := by
  have barred : (restrictions arguments (file.getD .empty)).any (Filter.accepts interface) = true ↔
      Bars arguments file interface := any_restrictions interface
  have excluded := Filter.any_accepts_of_ofPattern (mapM_eq_ok_iff.mp chains.excluding) interface
  have included := Filter.any_accepts_of_ofPattern (mapM_eq_ok_iff.mp chains.includes) interface
  have empty : chain.includes.isEmpty = true ↔
      patternsInForce arguments.includes (file.map (·.includes)) = [] := by
    rw [List.isEmpty_iff, ← List.length_eq_zero_iff,
      ← (mapM_eq_ok_iff.mp chains.includes).length_eq, List.length_eq_zero_iff]
  rw [FilterChain.accepts_eq, chains.excludes, List.any_append, Bool.and_eq_true,
    Bool.not_eq_true', Bool.or_eq_false_iff, ← Bool.not_eq_true, ← Bool.not_eq_true, barred,
    excluded, Bool.or_eq_true, empty, included]
  constructor
  · rintro ⟨⟨unbarred, unexcluded⟩, included⟩
    obtain ⟨loopback, up⟩ := not_bars_iff.mp unbarred
    exact ⟨loopback, up, fun pattern member matched => unexcluded ⟨pattern, member, matched⟩,
      included⟩
  · intro selected
    refine ⟨⟨not_bars_iff.mpr ⟨selected.loopback, selected.up⟩, ?_⟩, selected.included⟩
    rintro ⟨pattern, member, matched⟩
    exact selected.unexcluded pattern member matched

/-- The merged filter accepts the interfaces that the sources ask for together. No includes bring
back an interface that a restriction bars, and the patterns of one direction on the command line
leave the other direction as it is. -/
theorem merge_selects {settings : Settings} (merged : merge read arguments file = .ok settings) :
    (∀ interface, settings.filter.accepts interface = true ↔
        Selects read arguments file interface) ∧
      (∀ interface, Bars arguments file interface →
        ∀ includes other, merge read { arguments with includes } file = .ok other →
          other.filter.accepts interface = false) ∧
      (∀ includes other, merge read { arguments with includes } file = .ok other →
        other.filter.excludes = settings.filter.excludes) ∧
      (∀ excludes other, merge read { arguments with excludes } file = .ok other →
        other.filter.includes = settings.filter.includes) := by
  obtain ⟨excluding, chains⟩ := chains_of_merge merged
  refine ⟨chains.accepts_iff, ?_, ?_, ?_⟩
  · intro interface bars includes other mergedOther
    obtain ⟨_, otherChains⟩ := chains_of_merge mergedOther
    rw [← Bool.not_eq_true, otherChains.accepts_iff]
    intro selected
    exact not_bars_iff.mpr ⟨selected.loopback, selected.up⟩ bars
  · intro includes other mergedOther
    obtain ⟨others, otherChains⟩ := chains_of_merge mergedOther
    have same : others = excluding :=
      Except.ok.inj (otherChains.excluding.symm.trans chains.excluding)
    rw [chains.excludes, otherChains.excludes, same]
    rfl
  · intro excludes other mergedOther
    obtain ⟨_, otherChains⟩ := chains_of_merge mergedOther
    exact Except.ok.inj (otherChains.includes.symm.trans chains.includes)

/-- The command line asks for `lo` and all Ethernet interfaces and skips loopback, the file asks for
wireless interfaces, leaves out the names with a one at the end and wants interfaces that are up. -/
theorem layered_merge_selects :
    let arguments : Arguments :=
      ⟨none, none, none, false, ["^lo$", "^eth"], [], true, false, none, false⟩
    let file : FileSettings := ⟨none, ["^wlan"], ["1$"], false, true⟩
    let named (name : String) (flags : UInt32) : Interface := { Interface.bare 1 name with flags }
    ∃ settings, merge Pattern.read arguments (some file) = .ok settings ∧
      [named "lo" 0x9, named "eth0" 0x1, named "eth1" 0x1, named "eth2" 0x0,
        named "wlan0" 0x1].filter settings.filter.accepts = [named "eth0" 0x1] := by
  intro arguments file named
  have succeeds : (merge Pattern.read arguments (some file)).toOption.isSome = true := by
    decide +kernel
  cases merged : merge Pattern.read arguments (some file) with
  | error error => simp [merged, Except.toOption] at succeeds
  | ok settings =>
      refine ⟨settings, rfl, ?_⟩
      have accepts : settings.filter.accepts = fun interface =>
          decide (Selects Pattern.read arguments (some file) interface) := by
        funext interface
        rw [Bool.eq_iff_iff, decide_eq_true_iff]
        exact (merge_selects merged).1 interface
      rw [accepts]
      decide +kernel

end Settings

end NetInterface
