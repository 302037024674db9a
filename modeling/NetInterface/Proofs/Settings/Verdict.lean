import NetInterface.Proofs.Settings.EffectiveFilter

/-!
When merging settings fails, and which values of the file do not matter.

Unless the command line names a format, a format that the file misnames is reported before anything
else, and then the first pattern in force that cannot be read, includes before excludes (`Verdict`).
Values of the file that the command line overrides may be valid or not: files that differ in them
alone merge to the same settings or fail alike.
-/

namespace NetInterface

namespace PatternReader

/-- The first of the patterns that cannot be read. -/
def firstInvalid? (read : PatternReader) (patterns : List String) : Option String :=
  patterns.find? fun pattern => !(read pattern).isOk

end PatternReader

namespace Filter

variable {read : PatternReader}

theorem ofPattern_eq_error_iff {pattern : String} {error : InvalidPattern} :
    ofPattern read pattern = .error error ↔
      error.pattern = pattern ∧ read error.pattern = .error error.detail := by
  obtain ⟨other, detail⟩ := error
  unfold ofPattern
  constructor
  · intro failed
    split at failed
    · cases failed
    · next reason unread =>
      cases failed
      exact ⟨rfl, unread⟩
  · rintro ⟨rfl, unread⟩
    simp only at unread
    rw [unread]

/-- Patterns are read up to the first one that cannot be read. -/
theorem mapM_ofPattern_eq_error_iff {patterns : List String} {error : InvalidPattern} :
    patterns.mapM (ofPattern read) = .error error ↔
      read.firstInvalid? patterns = some error.pattern ∧
        read error.pattern = .error error.detail := by
  unfold PatternReader.firstInvalid?
  induction patterns with
  | nil => simp [pure, Except.pure]
  | cons pattern patterns inductionHypothesis =>
      rw [List.mapM_cons, bind_eq_error_iff, ofPattern_eq_error_iff, List.find?_cons]
      cases known : read pattern with
      | error detail =>
          have unread (filter : Filter) : ofPattern read pattern ≠ .ok filter := by
            simp [ofPattern_eq_ok_iff, known]
          simp [unread, Except.isOk, Except.toBool, eq_comm]
      | ok isMatch =>
          have first : ofPattern read pattern = .ok (.name pattern isMatch) :=
            ofPattern_eq_ok_iff.mpr ⟨isMatch, known, rfl⟩
          have valid : ¬ (error.pattern = pattern ∧ read error.pattern = .error error.detail) := by
            rintro ⟨rfl, unread⟩
            rw [known] at unread
            cases unread
          simp [first, valid, Except.isOk, Except.toBool, bind_eq_error_iff, inductionHypothesis,
            pure, Except.pure]

theorem mapM_ofPattern_eq_ok {patterns : List String}
    (valid : read.firstInvalid? patterns = none) :
    ∃ filters, patterns.mapM (ofPattern read) = .ok filters := by
  cases compiled : patterns.mapM (ofPattern read) with
  | ok filters => exact ⟨filters, rfl⟩
  | error error =>
      have invalid := (mapM_ofPattern_eq_error_iff.mp compiled).1
      rw [valid] at invalid
      cases invalid

end Filter

namespace OutputFormat

/-- The text names the format in some mix of letter cases. -/
def IsNamed (text : String) : OutputFormat → Prop
  | .text => lowerCase text = "text".toList ∨ lowerCase text = "plain".toList
  | .json => lowerCase text = "json".toList

instance (text : String) : (format : OutputFormat) → Decidable (IsNamed text format)
  | .text => inferInstanceAs
      (Decidable (lowerCase text = "text".toList ∨ lowerCase text = "plain".toList))
  | .json => inferInstanceAs (Decidable (lowerCase text = "json".toList))

theorem parse_eq_ok_iff {text : String} {format : OutputFormat} :
    parse text = .ok format ↔ IsNamed text format := by
  unfold parse names
  by_cases isText : "text".toList = lowerCase text
  · rw [List.find?_cons_of_pos (by simpa using isText)]
    cases format <;> simp [IsNamed, ← isText]
  rw [List.find?_cons_of_neg (by simpa using isText)]
  by_cases isPlain : "plain".toList = lowerCase text
  · rw [List.find?_cons_of_pos (by simpa using isPlain)]
    cases format <;> simp [IsNamed, ← isPlain]
  rw [List.find?_cons_of_neg (by simpa using isPlain)]
  by_cases isJson : "json".toList = lowerCase text
  · rw [List.find?_cons_of_pos (by simpa using isJson)]
    cases format <;> simp [IsNamed, ← isJson]
  rw [List.find?_cons_of_neg (by simpa using isJson), List.find?_nil]
  have other {word : String} (differs : ¬ word.toList = lowerCase text) :
      ¬ lowerCase text = word.toList := fun same => differs same.symm
  cases format with
  | text => simp only [IsNamed, other isText, other isPlain, reduceCtorEq, or_self]
  | json => simp only [IsNamed, other isJson, reduceCtorEq]

theorem parse_eq_error_iff {text : String} {error : InvalidFormat} :
    parse text = .error error ↔ error.value = text ∧ ∀ format, ¬ IsNamed text format := by
  simp only [← parse_eq_ok_iff]
  obtain ⟨value⟩ := error
  unfold parse
  cases names.find? (·.1.toList = lowerCase text) with
  | none => simp [eq_comm]
  | some name => simp

end OutputFormat

namespace Settings

/-- The command line names no format, and the file one that there is not. -/
structure Misnames (arguments : Arguments) (file : Option FileSettings) (text : String) :
    Prop where
  json : arguments.json = false
  format : arguments.format = none
  stated : file.bind (·.format) = some text
  unknown : ∀ format, ¬ OutputFormat.IsNamed text format

/-- The format is that of the command line, else the one that the file names, else the text. -/
def FormatInForce (arguments : Arguments) (file : Option FileSettings) (format : OutputFormat) :
    Prop :=
  match arguments.explicitFormat, file.bind (·.format) with
  | some given, _ => format = given
  | none, some text => OutputFormat.IsNamed text format
  | none, none => format = .text

/-- All patterns in force in the order in which they are read. -/
def patternsRead (arguments : Arguments) (file : Option FileSettings) : List String :=
  patternsInForce arguments.includes (file.map (·.includes)) ++
    patternsInForce arguments.excludes (file.map (·.excludes))

/-- What merging comes to: the misnamed format, else the first invalid pattern, else settings. -/
structure Verdict (read : PatternReader) (arguments : Arguments) (file : Option FileSettings) :
    Prop where
  invalidFormat : ∀ error, merge read arguments file = .error (.invalidFormat error) ↔
    Misnames arguments file error.value
  invalidPattern : ∀ error, merge read arguments file = .error (.invalidPattern error) ↔
    (∀ text, ¬ Misnames arguments file text) ∧
      read.firstInvalid? (patternsRead arguments file) = some error.pattern ∧
        read error.pattern = .error error.detail
  succeeds : (∀ text, ¬ Misnames arguments file text) →
    read.firstInvalid? (patternsRead arguments file) = none →
      ∃ settings, merge read arguments file = .ok settings ∧
        FormatInForce arguments file settings.format

/-- The two files differ only in values that the command line overrides. -/
structure AgreeBeyond (arguments : Arguments) (file other : FileSettings) : Prop where
  format : arguments.explicitFormat = none → file.format = other.format
  includes : arguments.includes = [] → file.includes = other.includes
  excludes : arguments.excludes = [] → file.excludes = other.excludes
  skipLoopback : arguments.skipLoopback = false → file.skipLoopback = other.skipLoopback
  upOnly : arguments.upOnly = false → file.upOnly = other.upOnly

/-- Every value of the file is the default one, stated or not. -/
structure IsDefault (file : FileSettings) : Prop where
  format : ∀ text ∈ file.format, OutputFormat.IsNamed text .text
  includes : file.includes = []
  excludes : file.excludes = []
  skipLoopback : file.skipLoopback = false
  upOnly : file.upOnly = false

variable {read : PatternReader} {arguments : Arguments}

theorem explicitFormat_eq_none_iff :
    arguments.explicitFormat = none ↔ arguments.json = false ∧ arguments.format = none := by
  unfold Arguments.explicitFormat
  cases arguments.json <;> simp

section

variable {file : Option FileSettings}

theorem mergeFormat_eq :
    mergeFormat arguments (file.getD .empty) =
      match arguments.explicitFormat, file.bind (·.format) with
      | some given, _ => .ok given
      | none, some text => OutputFormat.parse text
      | none, none => .ok .text := by
  unfold mergeFormat
  cases arguments.explicitFormat with
  | some given => cases file <;> rfl
  | none => cases file <;> rfl

theorem mergeFormat_eq_ok_iff {format : OutputFormat} :
    mergeFormat arguments (file.getD .empty) = .ok format ↔
      FormatInForce arguments file format := by
  rw [mergeFormat_eq, FormatInForce]
  cases arguments.explicitFormat with
  | some given => simp [eq_comm]
  | none =>
      cases file.bind (·.format) with
      | some text => exact OutputFormat.parse_eq_ok_iff
      | none => simp [eq_comm]

theorem mergeFormat_eq_error_iff {error : InvalidFormat} :
    mergeFormat arguments (file.getD .empty) = .error error ↔
      Misnames arguments file error.value := by
  rw [mergeFormat_eq]
  constructor
  · intro failed
    split at failed
    · cases failed
    · next text explicit stated =>
      obtain ⟨json, format⟩ := explicitFormat_eq_none_iff.mp explicit
      obtain ⟨same, unknown⟩ := OutputFormat.parse_eq_error_iff.mp failed
      exact ⟨json, format, same ▸ stated, same ▸ unknown⟩
    · cases failed
  · rintro ⟨json, format, stated, unknown⟩
    rw [explicitFormat_eq_none_iff.mpr ⟨json, format⟩, stated]
    exact OutputFormat.parse_eq_error_iff.mpr ⟨rfl, unknown⟩

theorem exists_mergeFormat_eq_ok (named : ∀ text, ¬ Misnames arguments file text) :
    ∃ format, mergeFormat arguments (file.getD .empty) = .ok format := by
  cases merged : mergeFormat arguments (file.getD .empty) with
  | ok format => exact ⟨format, rfl⟩
  | error error => exact absurd (mergeFormat_eq_error_iff.mp merged) (named error.value)

/-- Includes are read before excludes, as if they were one list. -/
theorem mergeFilter_eq_error_iff {error : InvalidPattern} :
    mergeFilter read arguments (file.getD .empty) = .error error ↔
      (patternsRead arguments file).mapM (Filter.ofPattern read) = .error error := by
  rw [mergeFilter, mergePatterns_eq arguments.includes file (·.includes) rfl,
    mergePatterns_eq arguments.excludes file (·.excludes) rfl, patternsRead, List.mapM_append]
  simp only [bind_eq_error_iff, pure, Except.pure, reduceCtorEq, and_false, exists_false, or_false]

theorem exists_mergeFilter_eq_ok
    (valid : read.firstInvalid? (patternsRead arguments file) = none) :
    ∃ chain, mergeFilter read arguments (file.getD .empty) = .ok chain := by
  cases merged : mergeFilter read arguments (file.getD .empty) with
  | ok chain => exact ⟨chain, rfl⟩
  | error error =>
      obtain ⟨filters, compiled⟩ := Filter.mapM_ofPattern_eq_ok valid
      rw [mergeFilter_eq_error_iff.mp merged] at compiled
      cases compiled

theorem verdict (read : PatternReader) (arguments : Arguments) (file : Option FileSettings) :
    Verdict read arguments file := by
  constructor
  case invalidFormat =>
    intro error
    rw [← mergeFormat_eq_error_iff, merge]
    simp [bind_eq_error_iff, mapError_eq_error_iff, pure, Except.pure]
  case invalidPattern =>
    intro error
    have named : (∃ format, mergeFormat arguments (file.getD .empty) = .ok format) ↔
        ∀ text, ¬ Misnames arguments file text := by
      refine ⟨?_, exists_mergeFormat_eq_ok⟩
      rintro ⟨format, merged⟩ text misnamed
      have failed : mergeFormat arguments (file.getD .empty) = .error ⟨text⟩ :=
        mergeFormat_eq_error_iff.mpr misnamed
      rw [merged] at failed
      cases failed
    rw [← named, ← Filter.mapM_ofPattern_eq_error_iff, ← mergeFilter_eq_error_iff, merge]
    simp [bind_eq_error_iff, mapError_eq_error_iff, mapError_eq_ok_iff, pure, Except.pure]
  case succeeds =>
    intro named valid
    obtain ⟨format, formatted⟩ := exists_mergeFormat_eq_ok named
    obtain ⟨chain, filtered⟩ := exists_mergeFilter_eq_ok valid
    refine ⟨⟨arguments.target.map Target.parse, format, chain, arguments.verbose⟩, ?_,
      mergeFormat_eq_ok_iff.mp formatted⟩
    rw [merge, formatted, filtered]
    rfl

end

/-- Merging reads of a file no more than what the command line leaves to it. -/
theorem merge_congr {file other : Option FileSettings}
    (agree : AgreeBeyond arguments (file.getD .empty) (other.getD .empty)) :
    merge read arguments file = merge read arguments other := by
  have format : mergeFormat arguments (file.getD .empty) =
      mergeFormat arguments (other.getD .empty) := by
    unfold mergeFormat
    cases explicit : arguments.explicitFormat with
    | some given => rfl
    | none => rw [agree.format explicit]
  have patterns {given stated others : List String} (same : given = [] → stated = others) :
      mergePatterns given stated = mergePatterns given others := by
    cases given with
    | nil => exact same rfl
    | cons pattern patterns => rfl
  have either {given stated others : Bool} (same : given = false → stated = others) :
      (given || stated) = (given || others) := by
    cases given with
    | true => rfl
    | false => exact same rfl
  have filter : mergeFilter read arguments (file.getD .empty) =
      mergeFilter read arguments (other.getD .empty) := by
    rw [mergeFilter, mergeFilter, patterns agree.includes, patterns agree.excludes, restrictions,
      restrictions, either agree.skipLoopback, either agree.upOnly]
  rw [merge, merge, format, filter]

theorem merge_of_isDefault {file : FileSettings} (default : IsDefault file) :
    merge read arguments (some file) = merge read arguments none := by
  obtain ⟨format, includes, excludes, skipLoopback, upOnly⟩ := file
  obtain ⟨named, rfl, rfl, rfl, rfl⟩ := default
  cases format with
  | none => rfl
  | some text =>
      have formatted : mergeFormat arguments ⟨some text, [], [], false, false⟩ =
          mergeFormat arguments .empty := by
        unfold mergeFormat
        cases arguments.explicitFormat with
        | some given => rfl
        | none => exact OutputFormat.parse_eq_ok_iff.mpr (named text rfl)
      simp only [merge, Option.getD_some, Option.getD_none, formatted]
      rfl

/-- Merging fails with a misnamed format first and with the first invalid pattern in force next, and
succeeds otherwise. Values that the command line overrides change neither the error nor the
settings, and a file of defaults is like none. -/
theorem merge_verdict (read : PatternReader) (arguments : Arguments) :
    (∀ file, Verdict read arguments file) ∧
      (∀ file other, AgreeBeyond arguments file other →
        merge read arguments (some file) = merge read arguments (some other)) ∧
      ∀ file, IsDefault file → merge read arguments (some file) = merge read arguments none := by
  refine ⟨verdict read arguments, ?_, fun _ => merge_of_isDefault⟩
  intro file other agree
  exact merge_congr agree

/-- The command line asks for JSON and for Ethernet interfaces, so the unknown format and the
invalid include of the file do not count, but the second of its excludes does. -/
theorem overridden_merge_verdict :
    let given : Arguments :=
      ⟨none, none, none, true, ["^eth"], [], false, false, none, false⟩
    let bare : Arguments := ⟨none, none, none, false, [], [], false, false, none, false⟩
    let file : FileSettings := ⟨some "xml", ["("], ["^lo$", "[", "("], true, false⟩
    (∃ detail, merge Pattern.read given (some file) = .error (.invalidPattern ⟨"[", detail⟩)) ∧
      merge Pattern.read given (some file) =
        merge Pattern.read given (some { file with format := none, includes := ["^wlan"] }) ∧
      merge Pattern.read bare (some file) = .error (.invalidFormat ⟨"xml"⟩) ∧
      merge Pattern.read bare (some { FileSettings.empty with format := some "Plain" }) =
        merge Pattern.read bare none := by
  intro given bare file
  obtain ⟨verdict, overridden, -⟩ := merge_verdict Pattern.read given
  obtain ⟨bareVerdict, -, default⟩ := merge_verdict Pattern.read bare
  refine ⟨?_, ?_, ?_, ?_⟩
  · have invalid : PatternReader.firstInvalid? Pattern.read (patternsRead given (some file)) =
        some "[" := by decide +kernel
    have unread : (Pattern.read "[").isOk = false := by decide +kernel
    have named (text : String) : ¬ Misnames given (some file) text := by
      intro misnamed
      cases misnamed.json
    cases known : Pattern.read "[" with
    | ok isMatch =>
        rw [known] at unread
        cases unread
    | error detail =>
        exact ⟨detail, ((verdict _).invalidPattern ⟨"[", detail⟩).mpr ⟨named, invalid, known⟩⟩
  · apply overridden
    constructor <;> decide
  · apply ((bareVerdict _).invalidFormat ⟨"xml"⟩).mpr
    refine ⟨rfl, rfl, rfl, ?_⟩
    intro format
    cases format <;> decide
  · apply default
    exact ⟨by decide, rfl, rfl, rfl, rfl⟩

end Settings

end NetInterface
