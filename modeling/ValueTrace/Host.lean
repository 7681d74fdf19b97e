import ValueTrace.Files.Snapshot

/-!
# The host

What tracing needs of the system it runs on: files, variables of the environment, and programs that
are run to their end.  The operations run in any monad, so the same code serves a directory tree in
memory and a real system.

## Main definitions

* `ExitStatus`, `ExitStatus.text` : how a program ended.
* `ProgramCall`, `ProgramOutput` : a program to run and what it wrote.
* `Host` : the operations, with `Host.readText` and `Host.isFile`.
-/

namespace ValueTrace

/-- How a program ended. -/
inductive ExitStatus where
  | code (n : Nat)
  | signal (n : Nat)
deriving DecidableEq, Repr

namespace ExitStatus

/-- Whether the program succeeded. -/
def isSuccess (s : ExitStatus) : Bool := s = .code 0

/-- The names of signals, the first one with number 1. -/
def signalNames : List String :=
  ["SIGHUP", "SIGINT", "SIGQUIT", "SIGILL", "SIGTRAP", "SIGABRT", "SIGBUS", "SIGFPE", "SIGKILL",
   "SIGUSR1", "SIGSEGV", "SIGUSR2", "SIGPIPE", "SIGALRM", "SIGTERM", "SIGSTKFLT", "SIGCHLD",
   "SIGCONT", "SIGSTOP", "SIGTSTP", "SIGTTIN", "SIGTTOU", "SIGURG", "SIGXCPU", "SIGXFSZ",
   "SIGVTALRM", "SIGPROF", "SIGWINCH", "SIGIO", "SIGPWR", "SIGSYS"]

/-- The name of a signal in brackets, if it has one. -/
def signalSuffix (n : Nat) : String :=
  match n with
  | 0 => ""
  | n + 1 =>
    match signalNames[n]? with
    | some name => " (" ++ name ++ ")"
    | none => ""

/-- The wording of a status. -/
def text : ExitStatus → String
  | .code n => "exit status: " ++ toString n
  | .signal n => "signal: " ++ toString n ++ signalSuffix n

end ExitStatus

/-- A program to run. -/
structure ProgramCall where
  program : String
  arguments : List FilePath
  /-- The directory it runs in; without one, the current directory. -/
  directory : Option FilePath
deriving DecidableEq, Repr

/-- What a program wrote and how it ended. -/
structure ProgramOutput where
  status : ExitStatus
  output : List UInt8
  diagnostics : List UInt8

/-- The operations of a system. -/
structure Host (m : Type → Type) where
  /-- The kind of what a path leads to. -/
  probe : FilePath → m (Except FileError FileKind)
  /-- The bytes of a file. -/
  readBytes : FilePath → m (Except FileError (List UInt8))
  /-- Where paths that are not absolute begin. -/
  currentDirectory : m FilePath
  /-- The absolute path without detours of something that exists. -/
  canonical? : FilePath → m (Option FilePath)
  /-- Creates a directory and those on the way to it. -/
  createDirectories : FilePath → m (Except FileError Unit)
  /-- A variable of the environment. -/
  getVariable : String → m (Option String)
  /-- Runs a program to its end. -/
  run : ProgramCall → m (Except FileError ProgramOutput)

namespace Host

variable {m : Type → Type} [Monad m]

/-- The text of a file. -/
def readText (host : Host m) (path : FilePath) : m (Except FileError String) := do
  match ← host.readBytes path with
  | .error e => return .error e
  | .ok bytes => return FileError.ofBytes bytes

/-- Whether a path leads to a file. -/
def isFile (host : Host m) (path : FilePath) : m Bool := do
  return (← host.probe path) matches .ok .file

/-- The absolute form of a path: without detours if it leads somewhere, else as it is written. -/
def resolve (host : Host m) (path : FilePath) : m FilePath := do
  match ← host.canonical? path with
  | some resolved => return resolved
  | none => return (path.absolute? (← host.currentDirectory)).getD path

end Host

end ValueTrace
