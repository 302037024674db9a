import NetInterface.Pattern.Meaning
import NetInterface.Proofs.File.Components
import NetInterface.Proofs.File.Writing
import NetInterface.Proofs.Text.Utf8
import NetInterface.Settings.Load

/-!
Which file the settings come from.

`Counts` names the path of the file that counts, and `Outcome` says what comes of it by what stands
there. Loading asks a tree for nothing else: whether the user has a file, if none is named, and what
the path that counts leads to. So trees that answer these questions alike give the same settings
(`load_counted`).
-/

namespace NetInterface

open Text

/-! ### Reading a file -/

/-- The text of what stands at a place, if it is the file of a text. -/
def FileNode.Kind.text : FileNode.Kind → Except FileError String
  | .directory => .error (.system .isDirectory)
  | .file octets =>
      match Utf8.text? octets with
      | some text => .ok text
      | none => .error .notText

namespace FileTree

variable {tree : FileTree} {path : Path}

/-- What stands where a path leads, or why it leads nowhere. -/
def reached (tree : FileTree) (path : Path) : Except FileError FileNode.Kind :=
  (tree.find path).map FileNode.kind

theorem isFile_eq_true_iff :
    tree.isFile path = true ↔ ∃ octets, tree.reached path = .ok (.file octets) := by
  unfold isFile reached
  cases tree.find path with
  | error error => simp [Except.map]
  | ok node => cases node <;> simp [Except.map, FileNode.kind]

/-- A tree is read for what stands where the path leads only. -/
theorem readText_eq : tree.readText path = tree.reached path >>= FileNode.Kind.text := by
  unfold readText reached
  cases tree.find path with
  | error error => rfl
  | ok node => cases node <;> rfl

end FileTree

namespace Settings

variable {read : PatternReader} {environment : Environment} {home : Path} {arguments : Arguments}
  {path : Path}

/-! ### The file that counts -/

/-- The path of the file that counts, with the home directory in place of a tilde: the path on the
command line, or else that of the file of the user, if there is one. -/
inductive Counts (environment : Environment) (home : Path) (arguments : Arguments) : Path → Prop
  | named {path : Path} (named : arguments.settingsFile = some path) :
      Counts environment home arguments (path.expandHome home)
  | user {octets : List UInt8} (unnamed : arguments.settingsFile = none)
      (present : environment.tree.reached (.userSettings home environment.configHome) =
        .ok (.file octets)) :
      Counts environment home arguments
        ((Path.userSettings home environment.configHome).expandHome home)

/-- What comes of the path that counts, by what it leads to. -/
inductive Outcome (read : PatternReader) (arguments : Arguments) (path : Path) :
    Except FileError FileNode.Kind → Except ConfigurationError Settings → Prop
  | unreached (reason : FileError) :
      Outcome read arguments path (.error reason) (.error (.unreadable path reason))
  | directory :
      Outcome read arguments path (.ok .directory)
        (.error (.unreadable path (.system .isDirectory)))
  | notText {octets : List UInt8} (malformed : Utf8.text? octets = none) :
      Outcome read arguments path (.ok (.file octets)) (.error (.unreadable path .notText))
  | fault {octets : List UInt8} {text : String} {fault : FileFault}
      (written : Utf8.text? octets = some text) (faulty : FileSettings.parse text = .error fault) :
      Outcome read arguments path (.ok (.file octets)) (.error (.fault fault))
  | merged {octets : List UInt8} {text : String} {file : FileSettings}
      (written : Utf8.text? octets = some text) (parsed : FileSettings.parse text = .ok file) :
      Outcome read arguments path (.ok (.file octets))
        ((merge read arguments (some file)).mapError .merge)

/-- A file that is read without fault gives the settings of its content. -/
theorem Outcome.eq_merge {octets : List UInt8} {text : String} {file : FileSettings}
    {result : Except ConfigurationError Settings}
    (outcome : Outcome read arguments path (.ok (.file octets)) result)
    (written : Utf8.text? octets = some text) (parsed : FileSettings.parse text = .ok file) :
    result = (merge read arguments (some file)).mapError .merge := by
  cases outcome with
  | notText malformed =>
      rw [written] at malformed
      cases malformed
  | fault other faulty =>
      cases written.symm.trans other
      cases parsed.symm.trans faulty
  | merged other further =>
      cases written.symm.trans other
      cases parsed.symm.trans further
      rfl

theorem expand_of_known (known : environment.home = some home) (path : Path) :
    environment.expand path = path.expandHome home := by
  rw [Environment.expand, known]

theorem settingsFile?_of_named (named : arguments.settingsFile = some path) :
    environment.settingsFile? arguments = some path := by
  rw [Environment.settingsFile?, named]
  rfl

theorem settingsFile?_of_unnamed (known : environment.home = some home)
    (unnamed : arguments.settingsFile = none) :
    environment.settingsFile? arguments =
      if environment.tree.isFile (.userSettings home environment.configHome) then
        some (.userSettings home environment.configHome)
      else none := by
  have user : environment.userSettings? = some (.userSettings home environment.configHome) := by
    rw [Environment.userSettings?, known]
  rw [Environment.settingsFile?, unnamed, user, Option.filter_some]
  simp only [Option.orElse_eq_orElse, Option.orElse_none]

theorem counts_iff (known : environment.home = some home) :
    Counts environment home arguments path ↔
      ∃ named, environment.settingsFile? arguments = some named ∧
        environment.expand named = path := by
  constructor
  · intro counts
    cases counts with
    | named named => exact ⟨_, settingsFile?_of_named named, expand_of_known known _⟩
    | user unnamed present =>
        refine ⟨_, ?_, expand_of_known known _⟩
        rw [settingsFile?_of_unnamed known unnamed,
          if_pos (FileTree.isFile_eq_true_iff.mpr ⟨_, present⟩)]
  · rintro ⟨named, found, rfl⟩
    rw [expand_of_known known]
    cases given : arguments.settingsFile with
    | some other =>
        rw [settingsFile?_of_named given] at found
        cases found
        exact .named given
    | none =>
        rw [settingsFile?_of_unnamed known given] at found
        split at found
        · next isFile =>
          obtain ⟨octets, present⟩ := FileTree.isFile_eq_true_iff.mp isFile
          cases found
          exact .user given present
        · cases found

/-! ### Loading -/

theorem load_of_settingsFile? (found : environment.settingsFile? arguments = some path) :
    load read environment arguments =
      FileSettings.load environment path >>= fun file =>
        (merge read arguments (some file)).mapError .merge := by
  rw [load, found, Option.mapM_some]
  cases FileSettings.load environment path <;> rfl

theorem load_of_no_settingsFile (missing : environment.settingsFile? arguments = none) :
    load read environment arguments = (merge read arguments none).mapError .merge := by
  rw [load, missing]
  rfl

/-- The file that counts decides by what stands where its path leads. -/
theorem outcome_of_settingsFile? (found : environment.settingsFile? arguments = some path) :
    Outcome read arguments (environment.expand path)
      (environment.tree.reached (environment.expand path)) (load read environment arguments) := by
  rw [load_of_settingsFile? found, FileSettings.load, FileTree.readText_eq]
  cases environment.tree.reached (environment.expand path) with
  | error reason => exact .unreached reason
  | ok kind =>
      cases kind with
      | directory => exact .directory
      | file octets =>
          cases written : Utf8.text? octets with
          | none =>
              have unread : (FileNode.Kind.file octets).text = .error .notText := by
                rw [FileNode.Kind.text, written]
              simp only [bind, Except.bind, unread]
              exact .notText written
          | some text =>
              have readable : (FileNode.Kind.file octets).text = .ok text := by
                rw [FileNode.Kind.text, written]
              simp only [bind, Except.bind, readable, Except.mapError]
              cases parsed : FileSettings.parse text with
              | error fault => exact .fault written parsed
              | ok file => exact .merged written parsed

/-- A tree that answers like another one gives the same settings. -/
theorem load_congr (known : environment.home = some home) {tree : FileTree}
    (user : arguments.settingsFile = none →
      tree.isFile (.userSettings home environment.configHome) =
        environment.tree.isFile (.userSettings home environment.configHome))
    (used : ∀ path, Counts environment home arguments path →
      tree.reached path = environment.tree.reached path) :
    load read { environment with tree } arguments = load read environment arguments := by
  have same : ({ environment with tree } : Environment).settingsFile? arguments =
      environment.settingsFile? arguments := by
    cases given : arguments.settingsFile with
    | some path => rw [settingsFile?_of_named given, settingsFile?_of_named given]
    | none =>
        have knownThere : ({ environment with tree } : Environment).home = some home := known
        rw [settingsFile?_of_unnamed known given, settingsFile?_of_unnamed knownThere given,
          user given]
  cases found : environment.settingsFile? arguments with
  | none => rw [load_of_no_settingsFile found, load_of_no_settingsFile (same.trans found)]
  | some path =>
      have reached := used _ ((counts_iff known).mpr ⟨path, found, rfl⟩)
      have expanded : ({ environment with tree } : Environment).expand path =
        environment.expand path := rfl
      rw [load_of_settingsFile? found, load_of_settingsFile? (same.trans found), FileSettings.load,
        FileSettings.load, expanded, FileTree.readText_eq, FileTree.readText_eq, reached]

/-- With a known home directory the settings come from the file that counts, or from the command
line alone if there is none. Trees that agree on the path of this file, and on whether the user has
a file if none is named, give the same settings. A path is expanded by its components. The path of
the file of the user goes through the same expansion, which leaves it as it is unless the home
directory itself begins with a tilde. -/
theorem load_counted (read : PatternReader) {environment : Environment} {home : Path}
    (known : environment.home = some home) (arguments : Arguments) :
    (∀ path, Counts environment home arguments path →
      Outcome read arguments path (environment.tree.reached path)
        (load read environment arguments)) ∧
    ((∀ path, ¬ Counts environment home arguments path) →
      load read environment arguments = (merge read arguments none).mapError .merge) ∧
    (∀ tree : FileTree,
      (arguments.settingsFile = none →
        tree.isFile (.userSettings home environment.configHome) =
          environment.tree.isFile (.userSettings home environment.configHome)) →
      (∀ path, Counts environment home arguments path →
        tree.reached path = environment.tree.reached path) →
      load read { environment with tree } arguments = load read environment arguments) ∧
    (∀ path : Path,
      (path.components.head? ≠ some (.name "~") → path.expandHome home = path) ∧
      (path.components.head? = some (.name "~") →
        (path.expandHome home).components = home.components ++ path.components.tail ∧
          (path.expandHome home).isAbsolute = home.isAbsolute)) ∧
    (home.components.head? ≠ some (.name "~") →
      (Path.userSettings home environment.configHome).expandHome home =
        .userSettings home environment.configHome) := by
  refine ⟨?_, ?_, fun tree => load_congr known, fun path => ⟨?_, ?_⟩, Path.expandHome_userSettings⟩
  · intro path counts
    obtain ⟨named, found, rfl⟩ := (counts_iff known).mp counts
    exact outcome_of_settingsFile? found
  · intro uncounted
    apply load_of_no_settingsFile
    apply Option.eq_none_iff_forall_ne_some.mpr
    intro named found
    exact uncounted _ ((counts_iff known).mpr ⟨named, found, rfl⟩)
  · exact Path.expandHome_of_head?_ne home
  · intro tilde
    exact ⟨Path.components_expandHome tilde home, Path.isAbsolute_expandHome tilde home⟩

/-- The user has a file that asks for JSON. It counts as long as no other path is named, whatever
else the tree holds; a directory that is named counts and cannot be read. -/
theorem named_directory_load_counted :
    let folder (entries : List (String × FileNode)) : FileNode :=
      .directory [("home", .directory [("ana", .directory
        (("x.toml", .directory []) :: (".config", .directory [("ifbrowse", .directory
          [("ifbrowse.toml", .file (Utf8.octets "[output]\nformat = \"json\"\n"))])]) ::
            entries))])]
    let environment : Environment := ⟨some ⟨"/home/ana"⟩, none, ⟨folder [], ["home"]⟩⟩
    let other : FileTree := ⟨folder [("y", .file [])], []⟩
    let bare : Arguments := ⟨none, none, none, false, [], [], false, false, none, false⟩
    let given : Arguments := { bare with settingsFile := some ⟨"~//./x.toml/"⟩ }
    load Pattern.read environment given =
        .error (.unreadable ⟨"/home/ana/x.toml"⟩ (.system .isDirectory)) ∧
      (load Pattern.read environment bare).map (·.format) = .ok .json ∧
      load Pattern.read { environment with tree := other } bare =
        load Pattern.read environment bare := by
  intro folder environment other bare given
  have known : environment.home = some ⟨"/home/ana"⟩ := rfl
  obtain ⟨named, -, -, -, -⟩ := load_counted Pattern.read known given
  obtain ⟨user, -, alike, -, fixed⟩ := load_counted Pattern.read known bare
  refine ⟨?_, ?_, ?_⟩
  · have outcome := named _ (.named rfl)
    have expanded : Path.expandHome ⟨"~//./x.toml/"⟩ ⟨"/home/ana"⟩ = ⟨"/home/ana/x.toml"⟩ := by
      decide +kernel
    have there : environment.tree.reached ⟨"/home/ana/x.toml"⟩ = .ok .directory := by
      decide +kernel
    rw [expanded, there] at outcome
    generalize load Pattern.read environment given = result at outcome ⊢
    cases outcome
    rfl
  · have present : environment.tree.reached (.userSettings ⟨"/home/ana"⟩ none) =
        .ok (.file (Utf8.octets "[output]\nformat = \"json\"\n")) := by
      decide +kernel
    have outcome := user _ (.user rfl present)
    have written : Utf8.text? (Utf8.octets "[output]\nformat = \"json\"\n") =
        some "[output]\nformat = \"json\"\n" :=
      Utf8.text?_octets _
    have parsed : FileSettings.parse "[output]\nformat = \"json\"\n" =
        .ok { FileSettings.empty with format := some "json" } := by
      decide +kernel
    rw [fixed (by decide +kernel), present] at outcome
    rw [outcome.eq_merge written parsed]
    decide +kernel
  · apply alike
    · intro _
      decide +kernel
    · rintro path (⟨⟨⟩⟩ | -)
      decide +kernel

end Settings

end NetInterface
