import ValueTrace.CommandLine.Run
import ValueTrace.Coordinator.Conduct
import ValueTrace.Debuggee.Launch

/-!
# The command line

Runs the command line on the files of the system.  Programs are not started from here and nothing
is connected to, so a source needs a syntax tree that was made before, and a trace ends where its
debuggee would be started.

## Main definitions

* `main` : the program.
-/

namespace ValueTrace.CommandLine

/-- Why nothing is started from here. -/
def notStarted : FileError := .other "programs are not started here"

/-- The failure that an error of the system is. -/
def fileError (e : IO.Error) : FileError :=
  match e with
  | .noFileOrDirectory .. => .notFound
  | .inappropriateType _ 20 _ => .notDirectory
  | .inappropriateType _ 21 _ => .isDirectory
  | .permissionDenied .. => .permissionDenied
  | .alreadyExists .. => .alreadyExists
  | e => .other (toString e)

/-- Does something with the name of a path, if the system can have such a name. -/
def withName {α : Type} (p : FilePath) (act : String → IO α) : IO (Except FileError α) := do
  if p.bytes.contains 0 then return .error .nulInPath
  match Text.ofUtf8? p.bytes with
  | some name =>
    if name.isEmpty then return .error .notFound
    try
      return .ok (← act name)
    catch e => return .error (fileError e)
  | none => return .error .notFound

/-- The kind of what a path leads to. -/
def probeFile (p : FilePath) : IO (Except FileError FileKind) :=
  withName p fun name => do
    match (← ((← IO.currentDir) / name).metadata).type with
    | .dir => return .directory
    | _ => return .file

/-- The bytes of a file. -/
def readFileBytes (p : FilePath) : IO (Except FileError (List UInt8)) := do
  match ← probeFile p with
  | .ok .directory => return .error .isDirectory
  | _ => withName p fun name => return (← IO.FS.readBinFile name).toList

/-- The system that the program runs on. -/
def system : Host IO where
  probe := probeFile
  readBytes := readFileBytes
  currentDirectory := return .ofText (← IO.currentDir).toString
  canonical? p := do
    match ← withName p fun name => return (← IO.FS.realPath name).toString with
    | .ok name => return some (.ofText name)
    | .error _ => return none
  createDirectories p := withName p fun name => IO.FS.createDirAll name
  getVariable name := IO.getEnv name
  run _ := return .error notStarted

/-- What a run gets from the system. -/
def surroundings (launcher : LauncherSettings) (parser : Parser) : Coordinator.Surroundings IO where
  parse := parser.parse system
  resolve := system.resolve
  launch _ := return .error (.spawn launcher.nodeBinary notStarted)
  connect _ endpoint := return .error (.connect endpoint notStarted.message)
  listen _ _ := return .hangUp
  shutDown _ _ := return ()

/-- Lets a run move until it is over. -/
partial def conduct (around : Coordinator.Surroundings IO) (c : Coordinator)
    (id : Coordinator.RunId) : IO (Option Coordinator.Outcome) := do
  match c.run? id with
  | some r =>
    if r.stage.isDone then return c.outcome? id
    else conduct around (← Coordinator.attend around c r) id
  | none => return none

/-- Traces a request on the system. -/
def systemTracer : Tracer IO := fun settings launcher parser request => do
  let (c, id) := (Coordinator.start settings).call request
  return (← conduct (surroundings launcher parser) c id).getD (.error .superseded)

/-- The text that tells a user of a failure. -/
def Failure.text (f : Failure) : String :=
  match f.cause with
  | some cause => "Error: " ++ f.headline ++ "\n\nCaused by:\n    " ++ cause
  | none => "Error: " ++ f.headline

end ValueTrace.CommandLine

open ValueTrace.CommandLine in
/-- The program. -/
def main (args : List String) : IO UInt32 := do
  let outcome ← run system systemTracer args
  IO.print outcome.output
  match outcome.failure with
  | some failure => IO.eprintln failure.text
  | none =>
    if outcome.exitCode = 2 then IO.eprintln ("Usage: " ++ Topic.program.usage)
    if outcome.exitCode = 101 then IO.eprintln "attempt to add with overflow"
  return UInt32.ofNat outcome.exitCode
