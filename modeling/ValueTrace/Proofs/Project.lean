import ValueTrace.Debuggee.Launch
import ValueTrace.Host.Sandbox
import ValueTrace.Project
import ValueTrace.Proofs.Path.Names

/-!
# Which file is run

A request names the file to run and a working directory, both as the tracer reads them.  The
interpreter reads the name of the file from the working directory, though, so a name that is not
absolute leads to the file that was asked for only if the working directory is the directory of the
tracer (`TraceRequest.runs_iff`).  A relative file in another directory is looked for in that
directory once more, below itself (`relative_file_runs_below_itself`).

## Main definitions

* `ProgramCall.script?` : the file that an interpreter runs.
* `TraceRequest.Runs` : a request runs the file at a path.
* `Project.mainName` : the main file that a directory's manifest names.

## Main results

* `TraceRequest.runs_iff` : the requests that run what they name.
* `runs_asked_file` : what is run for a file, and for a file of a project.
-/

namespace ValueTrace

/-! ### The file that is run -/

/-- The file that a call makes an interpreter run, for a caller in the given directory: the argument
after the flag, read from the directory that the call runs in. -/
def ProgramCall.script? (call : ProgramCall) (here : FilePath) : Option FilePath :=
  call.arguments[1]?.map (call.directory.elim here here.join).join

/-- A request makes the interpreter run the file to which a path leads from the given directory. -/
def TraceRequest.Runs (r : TraceRequest) (settings : LauncherSettings) (here p : FilePath) : Prop :=
  ∃ script, (settings.call ⟨r.entry, r.workingDir⟩).script? here = some script ∧
    script.names = (here.join p).names

namespace FilePath

theorem isAbsolute_join (p q : FilePath) :
    (p.join q).isAbsolute = (p.isAbsolute || q.isAbsolute) := by
  obtain ⟨bytes⟩ := p
  rw [join]
  cases hq : q.isAbsolute with
  | true => simp [hq]
  | false =>
    cases bytes with
    | nil => simpa [isAbsolute] using hq
    | cons b bytes =>
      rw [if_neg Bool.false_ne_true]
      split_ifs <;> simp [isAbsolute]

/-- To follow a relative path without names is to stay. -/
theorem names_join_eq_self_iff {here dir : FilePath} (h : dir.isAbsolute = false) :
    (here.join dir).names = here.names ↔ dir.names = [] := by
  simp [names_join, h]

end FilePath

namespace TraceRequest

variable {settings : LauncherSettings} {here : FilePath}

/-- A request runs the file that it names if the name is absolute or is read where it was given. -/
theorem runs_iff {r : TraceRequest} :
    r.Runs settings here r.entry ↔
      r.entry.isAbsolute = true ∨ (here.join r.workingDir).names = here.names := by
  have hscript : r.Runs settings here r.entry ↔
      ((here.join r.workingDir).join r.entry).names = (here.join r.entry).names := by
    simp [Runs, ProgramCall.script?, LauncherSettings.call]
  rw [hscript, FilePath.names_join, FilePath.names_join here r.entry]
  cases r.entry.isAbsolute <;> simp

theorem names_workingDir_ofTarget {target : FilePath} (h : target.isAbsolute = false)
    (line : UInt32) :
    (ofTarget target line).workingDir.isAbsolute = false ∧
      (ofTarget target line).workingDir.names = target.names.dropLast := by
  have hparent := FilePath.names_parent h
  rw [ofTarget]
  cases hp : target.parent? with
  | none =>
    rw [hp] at hparent
    exact hparent
  | some parent =>
    rw [hp] at hparent
    dsimp only
    split_ifs with hempty
    · obtain ⟨bytes⟩ := parent
      obtain rfl := List.isEmpty_iff.1 hempty
      exact hparent
    · exact hparent

/-- A file is run from its own directory if it is given by an absolute path or by its name only. -/
theorem ofTarget_runs_iff {target : FilePath} {line : UInt32} :
    (ofTarget target line).Runs settings here target ↔
      target.isAbsolute = true ∨ target.names.length ≤ 1 := by
  have hruns : (ofTarget target line).Runs settings here target ↔ target.isAbsolute = true ∨
      (here.join (ofTarget target line).workingDir).names = here.names := runs_iff
  rw [hruns]
  cases habsolute : target.isAbsolute with
  | true => simp
  | false =>
    obtain ⟨hrelative, hnames⟩ := names_workingDir_ofTarget habsolute line
    rw [FilePath.names_join_eq_self_iff hrelative, hnames, ← List.length_eq_zero_iff,
      List.length_dropLast, Nat.sub_eq_zero_iff_le]

end TraceRequest

/-! ### Files of projects -/

namespace Project

variable {s : Sandbox} {dir file : FilePath}

/-- The main file that the manifest of a directory names, if there is one and it names one. -/
def mainName (tree : FileTree) (dir : FilePath) : Except ProjectError (Option String) :=
  if tree.isFile (manifest dir) then
    match (tree.readBytes (manifest dir)).bind FileError.ofBytes with
    | .error e => .error (.unreadable (manifest dir) e)
    | .ok text =>
      match Json.decodeText manifestMain text with
      | .error _ => .error (.malformed (manifest dir))
      | .ok name => .ok (name.filter fun name => !name.isEmpty)
  else .ok none

/-- A step that only looks at the system goes on with what it saw. -/
theorem run_bind_of_look {α β : Type} {look : StateM Sandbox α} {a : α}
    (h : look.run s = (a, s)) (next : α → StateM Sandbox β) :
    (look >>= next).run s = (next a).run s := by
  rw [StateT.run_bind, h]
  rfl

theorem isFile_run (p : FilePath) : (Sandbox.host.isFile p).run s = (s.tree.isFile p, s) := rfl

theorem readText_run (p : FilePath) :
    (Sandbox.host.readText p).run s = ((s.tree.readBytes p).bind FileError.ofBytes, s) := by
  have hread : (Sandbox.host.readBytes p).run s = (s.tree.readBytes p, s) := rfl
  rw [Host.readText, run_bind_of_look hread]
  cases s.tree.readBytes p <;> rfl

theorem main?_run (dir : FilePath) :
    (main? Sandbox.host dir).run s =
      ((mainName s.tree dir).map (Option.map fun name => dir.join (.ofText name)), s) := by
  rw [main?, run_bind_of_look (isFile_run _), mainName]
  cases s.tree.isFile (manifest dir) with
  | false => rfl
  | true =>
    rw [if_pos rfl, if_pos rfl, run_bind_of_look (readText_run _)]
    cases (s.tree.readBytes (manifest dir)).bind FileError.ofBytes with
    | error e => rfl
    | ok text =>
      change (mainOfText dir text, s) = _
      rw [mainOfText]
      dsimp only
      cases Json.decodeText manifestMain text <;> rfl

/-- The request for a file of a project, without a file to run. -/
theorem request_run (file : FilePath) (line : UInt32) (cwd : Option FilePath) :
    (request Sandbox.host file line none cwd).run s =
      (if s.tree.isFile file then
        (mainName s.tree (cwd.getD s.tree.current)).map fun name =>
          ⟨file, (name.map fun name => (cwd.getD s.tree.current).join (.ofText name)).getD file,
            cwd.getD s.tree.current, line⟩
      else .error (.noFile file), s) := by
  rw [request, run_bind_of_look (isFile_run _)]
  cases s.tree.isFile file with
  | false => rfl
  | true =>
    rw [if_pos rfl, if_pos rfl]
    have hmain (dir : FilePath)
        {next : Except ProjectError (Option FilePath) →
          StateM Sandbox (Except ProjectError TraceRequest)}
        (herror : ∀ e, next (.error e) = pure (.error e))
        (hname : ∀ main, next (.ok main) = pure (.ok ⟨file, main.getD file, dir, line⟩)) :
        (main? Sandbox.host dir >>= next).run s =
          ((mainName s.tree dir).map fun name =>
            ⟨file, (name.map fun name => dir.join (.ofText name)).getD file, dir, line⟩, s) := by
      rw [run_bind_of_look (main?_run dir)]
      cases mainName s.tree dir with
      | error e =>
        change (next (.error e)).run s = _
        rw [herror]
        rfl
      | ok name =>
        change (next (.ok (name.map _))).run s = _
        rw [hname]
        rfl
    cases cwd with
    | none =>
      have hcurrent : Sandbox.host.currentDirectory.run s = (s.tree.current, s) := rfl
      rw [run_bind_of_look hcurrent]
      exact hmain s.tree.current (fun _ => rfl) fun main => by cases main <;> rfl
    | some dir =>
      dsimp only
      rw [pure_bind]
      exact hmain dir (fun _ => rfl) fun main => by cases main <;> rfl

end Project

/-- A file that is traced by itself is run if and only if it is given by an absolute path or by its
name only.  In a project, when no file to run is given, there is a request if and only if the file
is one and the manifest of the working directory, if there is one, can be read.  The main file that
the manifest names is run if and only if the working directory or the name is absolute, or the
working directory is the directory of the tracer; and if none is named, the traced file is run if
and only if it is given by an absolute path or the working directory is that of the tracer. -/
theorem runs_asked_file (settings : LauncherSettings) (s : Sandbox) (file : FilePath)
    (line : UInt32) (cwd : Option FilePath) :
    let here := s.tree.current
    let dir := cwd.getD here
    let answer := ((Project.request Sandbox.host file line none cwd).run s).1
    ((TraceRequest.ofTarget file line).Runs settings here file ↔
      file.isAbsolute = true ∨ file.names.length ≤ 1) ∧
    (s.tree.isFile file = false → answer = .error (.noFile file)) ∧
    (s.tree.isFile file = true →
      (∀ e, Project.mainName s.tree dir = .error e → answer = .error e) ∧
      (∀ name, Project.mainName s.tree dir = .ok (some name) →
        ∃ r, answer = .ok r ∧ (r.Runs settings here (dir.join (.ofText name)) ↔
          dir.isAbsolute = true ∨ (FilePath.ofText name).isAbsolute = true ∨ dir.names = [])) ∧
      (Project.mainName s.tree dir = .ok none →
        ∃ r, answer = .ok r ∧ (r.Runs settings here file ↔
          file.isAbsolute = true ∨ (here.join dir).names = here.names))) := by
  intro here dir answer
  have hanswer : answer = if s.tree.isFile file then
      (Project.mainName s.tree dir).map fun name =>
        ⟨file, (name.map fun name => dir.join (.ofText name)).getD file, dir, line⟩
      else .error (.noFile file) :=
    congrArg Prod.fst (Project.request_run file line cwd)
  refine ⟨TraceRequest.ofTarget_runs_iff, fun hfile => ?_, fun hfile => ⟨fun e hmain => ?_,
    fun name hmain => ?_, fun hmain => ?_⟩⟩
  · rw [hanswer, hfile]
    rfl
  · rw [hanswer, hfile, hmain]
    rfl
  · refine ⟨⟨file, dir.join (.ofText name), dir, line⟩, by rw [hanswer, hfile, hmain]; rfl, ?_⟩
    refine TraceRequest.runs_iff.trans ?_
    dsimp only
    rw [FilePath.isAbsolute_join]
    cases hdir : dir.isAbsolute with
    | true => simp
    | false => simp [FilePath.names_join_eq_self_iff hdir]
  · exact ⟨⟨file, file, dir, line⟩, by rw [hanswer, hfile, hmain]; rfl, TraceRequest.runs_iff⟩

/-- The manifest of a project whose main file is `index.js`. -/
def sampleManifest : String := "\x7b\"main\":\"index.js\"\x7d"

/-- A project with a main file and a module, seen from its directory. -/
def sampleProject : Sandbox where
  tree := {
    files := [
      ((FilePath.ofText "/p/package.json").names, Text.utf8Bytes sampleManifest),
      ((FilePath.ofText "/p/index.js").names, []),
      ((FilePath.ofText "/p/lib/util.js").names, [])]
    directories := []
    current := .ofText "/p" }
  «variables» := []
  scripts := []
  calls := []

theorem mainName_sampleProject :
    Project.mainName sampleProject.tree (.ofText "/p") = .ok (some "index.js") := by
  have hfile : sampleProject.tree.isFile (Project.manifest (.ofText "/p")) = true := by decide
  have hbytes : sampleProject.tree.readBytes (Project.manifest (.ofText "/p")) =
      .ok (Text.utf8Bytes sampleManifest) := rfl
  have htext : Text.ofUtf8? (Text.utf8Bytes sampleManifest) = some sampleManifest := by
    decide +kernel
  have hmain : Json.decodeText Project.manifestMain sampleManifest = .ok (some "index.js") := rfl
  rw [Project.mainName, if_pos hfile, hbytes]
  simp [Except.bind, FileError.ofBytes, htext, hmain, Option.filter]

/-- The main file of a project is run for a module of the project. -/
theorem runs_asked_file_sample :
    sampleProject.tree.isFile (.ofText "lib/util.js") = true ∧
    Project.mainName sampleProject.tree (.ofText "/p") = .ok (some "index.js") ∧
    ∃ r, ((Project.request Sandbox.host (.ofText "lib/util.js") 0 none none).run sampleProject).1 =
        .ok r ∧
      r.Runs LauncherSettings.default (.ofText "/p") (.ofText "/p/index.js") := by
  have hfile : sampleProject.tree.isFile (.ofText "lib/util.js") = true := by decide
  obtain ⟨-, -, hproject⟩ :=
    runs_asked_file LauncherSettings.default sampleProject (.ofText "lib/util.js") 0 none
  obtain ⟨r, hr, hruns⟩ := (hproject hfile).2.1 _ mainName_sampleProject
  exact ⟨hfile, mainName_sampleProject, r, hr, hruns.2 (Or.inl (by decide))⟩

/-- A file that is given by a relative path with a directory is looked for in this directory below
itself, where there is none. -/
theorem relative_file_runs_below_itself :
    sampleProject.tree.isFile (.ofText "lib/util.js") = true ∧
    (TraceRequest.ofTarget (.ofText "lib/util.js") 0).workingDir = .ofText "lib" ∧
    (LauncherSettings.default.call ⟨.ofText "lib/util.js", .ofText "lib"⟩).script? (.ofText "/p") =
      some (.ofText "/p/lib/lib/util.js") ∧
    sampleProject.tree.isFile (.ofText "/p/lib/lib/util.js") = false ∧
    ¬ (TraceRequest.ofTarget (.ofText "lib/util.js") 0).Runs LauncherSettings.default
      (.ofText "/p") (.ofText "lib/util.js") := by
  refine ⟨by decide, by decide, by decide, by decide, ?_⟩
  rw [TraceRequest.ofTarget_runs_iff]
  decide

end ValueTrace
