import NetInterface.Proofs.Settings.Loading
import NetInterface.Proofs.Toml.Comments

/-!
The template of a configuration file.

Apart from comments the template has two headers and one assignment, which gives a field its
default. So it reads as a file that sets nothing (`parse_template`), and to load it from where it
was written is to load no file at all.
-/

namespace NetInterface

open Text

namespace FileSettings

theorem template_eq_terminated : template = terminated templateLines := rfl

/-- The lines of the template that are neither blank nor comments. -/
theorem filter_templateLines :
    templateLines.filter (fun line => !Toml.isQuiet line.toList) =
      ["[output]", "[filter]", "skip_loopback = false"] := by
  decide +kernel

theorem statements_template :
    Toml.Statements ⟨[], []⟩
      ((templateLines.filter fun line => !Toml.isQuiet line.toList).map String.toList)
      ⟨[("output", .table .defined []),
        ("filter", .table .defined [("skip_loopback", .value (.boolean false))])], ["filter"]⟩ := by
  let output : Toml.Builder := ⟨[("output", .table .defined [])], ["output"]⟩
  let filter : Toml.Builder :=
    ⟨[("output", .table .defined []), ("filter", .table .defined [])], ["filter"]⟩
  rw [filter_templateLines]
  simp only [List.map_cons, List.map_nil, String.reduceToList]
  apply @Toml.Statements.next _ output _ _ _ rfl fun _ => rfl
  apply @Toml.Statements.next _ filter _ _ _ rfl fun _ => rfl
  exact .next rfl (fun _ => rfl) .none

/-- The template sets nothing. -/
theorem parse_template : parse template = .ok .empty := by
  have unmarked : (terminated templateLines).toList.head? ≠ some '\uFEFF' := by
    rw [templateLines, toList_terminated_cons]
    decide +kernel
  rw [parse, template_eq_terminated, Toml.parse_of_statements unmarked statements_template]
  rfl

theorem written_of_writeTemplate {environment : Environment} {path : Path}
    {tree : FileTree} (written : writeTemplate environment path = .ok tree) :
    environment.tree.Written (environment.expand path) (Utf8.octets template) tree :=
  FileTree.written_of_write (mapError_eq_ok_iff.mp written)

end FileSettings

namespace Settings

/-- To name the path that the template was written to gives the settings, or the error, of the
command line alone. Writing changes nothing but the file that the path leads to, and where it fails
the error names the path as it was expanded. -/
theorem load_written_template (read : PatternReader) (environment : Environment) (path : Path)
    (arguments : Arguments) :
    (∀ tree, FileSettings.writeTemplate environment path = .ok tree →
      environment.tree.Written (environment.expand path) (Utf8.octets FileSettings.template) tree ∧
      load read { environment with tree } { arguments with settingsFile := some path } =
        (merge read arguments none).mapError .merge) ∧
    ∀ error, FileSettings.writeTemplate environment path = .error error →
      ∃ reason, error = .unwritable (environment.expand path) reason := by
  constructor
  · intro tree succeeded
    have written := FileSettings.written_of_writeTemplate succeeded
    refine ⟨written, ?_⟩
    have reached : tree.reached (environment.expand path) =
        .ok (.file (Utf8.octets FileSettings.template)) := by
      rw [FileTree.reached, written.reaches]
      rfl
    have found : ({ environment with tree } : Environment).settingsFile?
        { arguments with settingsFile := some path } = some path :=
      settingsFile?_of_named rfl
    have outcome := @outcome_of_settingsFile? read _ _ _ found
    have expanded : ({ environment with tree } : Environment).expand path =
      environment.expand path := rfl
    rw [expanded, reached] at outcome
    exact outcome.eq_merge (Utf8.text?_octets _) FileSettings.parse_template
  · intro error failed
    obtain ⟨reason, -, same⟩ := mapError_eq_error_iff.mp failed
    exact ⟨reason, same.symm⟩

/-- The template is written below the home directory. The same path on the command line leaves the
format, the include and the exclude that the other options ask for, and a directory is no path to
write it to. -/
theorem home_load_written_template :
    let environment : Environment :=
      ⟨some ⟨"/home/ana"⟩, none, ⟨.directory [("home", .directory [("ana", .directory [])])], []⟩⟩
    let given : Arguments := ⟨none, none, none, true, ["^eth"], [], true, false, none, false⟩
    (∃ tree, FileSettings.writeTemplate environment ⟨"~//ifbrowse.toml"⟩ = .ok tree ∧
      (load Pattern.read { environment with tree }
          { given with settingsFile := some ⟨"~//ifbrowse.toml"⟩ }).map
        (fun settings => (settings.format, settings.filter.includes.length,
          settings.filter.excludes.length)) = .ok (.json, 1, 1)) ∧
      ∃ reason, FileSettings.writeTemplate environment ⟨"~/"⟩ =
        .error (.unwritable ⟨"/home/ana/"⟩ reason) := by
  intro environment given
  constructor
  · cases attempt : FileSettings.writeTemplate environment ⟨"~//ifbrowse.toml"⟩ with
    | error error =>
        have done : (FileSettings.writeTemplate environment ⟨"~//ifbrowse.toml"⟩).isOk = true := by
          decide +kernel
        rw [attempt] at done
        cases done
    | ok tree =>
        obtain ⟨-, loaded⟩ :=
          (load_written_template Pattern.read environment _ given).1 tree attempt
        refine ⟨tree, rfl, ?_⟩
        rw [loaded]
        decide +kernel
  · cases attempt : FileSettings.writeTemplate environment ⟨"~/"⟩ with
    | error error =>
        obtain ⟨reason, rfl⟩ :=
          (load_written_template Pattern.read environment _ given).2 error attempt
        exact ⟨reason, rfl⟩
    | ok tree =>
        have undone : (FileSettings.writeTemplate environment ⟨"~/"⟩).isOk = false := by
          decide +kernel
        rw [attempt] at undone
        cases undone

end Settings

end NetInterface
