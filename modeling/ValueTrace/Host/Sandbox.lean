import ValueTrace.Host
import ValueTrace.Json.Basic

/-!
# Sandboxes

A system in memory: a directory tree, variables of the environment, and scripts that stand for
programs.  A program is looked up the way a system does it.  A name with a slash is a path; any
other name is looked for in the directories of `PATH`, where a file that is no program counts as one
that may not be run.  Scripts call tools of the system, so they are mute where `PATH` leads to none.

## Main definitions

* `Script` : what a program writes and how it ends.
* `Sandbox` : the system.
* `Sandbox.start` : a program started.
* `Sandbox.host` : the operations of the system.
-/

namespace ValueTrace

/-- How a process that exits with a code ends: of the code, eight bits are kept. -/
def ExitStatus.ofCode (code : Nat) : ExitStatus := .code (code % 256)

/-- How a process that sends itself a signal and would then exit with a code ends: most signals end
it, a few are ignored, those that halt it leave it there, and numbers beyond are no signals. -/
def ExitStatus.ofSignal? (signal code : Nat) : Option ExitStatus :=
  if signal = 0 ∨ 64 < signal ∨ signal ∈ [17, 18, 23, 28] then some (.ofCode code)
  else if signal ∈ [19, 20, 21, 22] then none
  else some (.signal signal)

/-- What a program writes and how it ends. -/
structure Script where
  output : List UInt8
  diagnostics : List UInt8
  /-- Without a status, the program does not end. -/
  status : Option ExitStatus

/-- A system in memory. -/
structure Sandbox where
  tree : FileTree
  «variables» : List (String × String)
  /-- The files that are programs. -/
  scripts : List (FileNames × Script)
  /-- The arguments that each program was called with, the last call first. -/
  calls : List (FileNames × List FilePath)

/-- Whether something that a call hands over holds the byte that ends texts. -/
def ProgramCall.holdsNul (call : ProgramCall) : Bool :=
  call.program.contains '\x00' || call.arguments.any (·.bytes.contains 0)
    || call.directory.any (·.bytes.contains 0)

namespace Sandbox

/-- The directories in which programs are looked for. -/
def searchPath (s : Sandbox) : List String :=
  ((Json.findMember "PATH" s.variables).getD "/usr/local/bin:/usr/bin:/bin").splitOn ":"

/-- Whether the tools of the system can be found. -/
def hasTools (s : Sandbox) : Bool :=
  s.searchPath.any fun dir => (FilePath.ofText dir).isAbsolute
    && (FilePath.ofText dir).names ∈ [FilePath.ofText "bin", .ofText "usr/bin"].map FilePath.names

/-- The script of the file that a path leads to. -/
def scriptAt (s : Sandbox) (path : FilePath) : Except FileError (FileNames × Script) :=
  match s.tree.resolve path with
  | .error e => .error e
  | .ok (place, _) =>
    match s.scripts.find? fun p => p.1 = place with
    | some found => .ok found
    | none => .error .permissionDenied

/-- The first script among some paths.  Without one, a file that may not be run is the reason, if
there was such a file. -/
def firstScript (s : Sandbox) (denied : Bool) :
    List FilePath → Except FileError (FileNames × Script)
  | [] => .error (if denied then .permissionDenied else .notFound)
  | path :: rest =>
    match s.scriptAt path with
    | .ok found => .ok found
    | .error .permissionDenied => s.firstScript true rest
    | .error .notFound | .error .notDirectory => s.firstScript denied rest
    | .error e => .error e

/-- The script that the name of a program leads to. -/
def findScript (s : Sandbox) (program : String) : Except FileError (FileNames × Script) :=
  if program.isEmpty then .error .notFound
  else if program.contains '/' then s.scriptAt (.ofText program)
  else if 255 < (Text.utf8Bytes program).length then .error .nameTooLong
  else
    s.firstScript false (s.searchPath.map fun dir =>
      (FilePath.ofText dir).join (.ofText program))

/-- The system as it is for a process in a directory. -/
def enter (s : Sandbox) (directory : Option FilePath) : Except FileError Sandbox :=
  match directory with
  | none => .ok s
  | some dir =>
    match s.tree.resolve dir with
    | .error e => .error e
    | .ok (_, .file) => .error .notDirectory
    | .ok (place, .directory) =>
      .ok { s with tree.current := ⟨FilePath.slash :: FilePath.joinSlash place⟩ }

/-- Starts a program. -/
def start (s : Sandbox) (call : ProgramCall) : Except FileError (Script × Sandbox) :=
  if call.holdsNul then .error .nulInCall
  else do
    let (place, script) ← (← s.enter call.directory).findScript call.program
    if s.hasTools then
      return (script, { s with calls := (place, call.arguments) :: s.calls })
    else return ({ script with output := [], diagnostics := [] }, s)

/-- The arguments that the program at some names was last called with. -/
def lastCall (s : Sandbox) (place : FileNames) : Option (List FilePath) :=
  (s.calls.find? fun c => c.1 = place).map Prod.snd

/-- The operations of the system. -/
def host : Host (StateM Sandbox) where
  probe p := return (← get).tree.probe p
  readBytes p := return (← get).tree.readBytes p
  currentDirectory := return (← get).tree.current
  canonical? p := return (← get).tree.canonical? p
  createDirectories p := do
    match (← get).tree.createDirectories p with
    | .error e => return .error e
    | .ok tree =>
      modify fun s => { s with tree }
      return .ok ()
  getVariable name := return Json.findMember name (← get).variables
  run call := do
    match (← get).start call with
    | .error e => return .error e
    | .ok (script, s) =>
      set s
      return .ok ⟨script.status.getD (.code 0), script.output, script.diagnostics⟩

end Sandbox

end ValueTrace
