import ValueTrace.Debuggee.Endpoint
import ValueTrace.Host
import ValueTrace.Settings

/-!
# Debuggees

How a debuggee is started, halted before its first statement, and how it is stopped.  A debuggee
that was started is ours until it exits or is killed.

## Main definitions

* `LaunchError`, `LaunchError.message` : why a debuggee has no inspector.
* `LaunchSpec`, `LauncherSettings.call` : what is run.
* `LauncherSettings.outcome` : whether a started program is a debuggee.
* `Debuggee`, with `waitExit`, `terminate` and `shutDown`.
-/

namespace ValueTrace

/-- Why a debuggee has no inspector. -/
inductive LaunchError where
  | spawn (program : String) (error : FileError)
  /-- The diagnostic output ended without naming an endpoint. -/
  | noEndpoint
  | timeout (bound : Duration)
deriving DecidableEq, Repr

/-- The wording of a failure. -/
def LaunchError.message : LaunchError → String
  | .spawn program error => "failed to spawn " ++ program ++ ": " ++ error.message
  | .noEndpoint =>
    "debuggee exited or closed its output without reporting an inspector endpoint"
  | .timeout bound => "debuggee did not report an inspector endpoint within " ++ bound.text

/-- What to run as a debuggee. -/
structure LaunchSpec where
  entry : FilePath
  workingDir : FilePath
deriving DecidableEq, Repr

/-- A running debuggee, or an inspector that was running already. -/
structure Debuggee where
  endpoint : String
  /-- Whether there is a process that is ours to stop. -/
  owned : Bool
  grace : Duration
deriving DecidableEq, Repr

/-- The program that runs a debuggee: the flag that halts it, its file and its arguments. -/
def LauncherSettings.call (s : LauncherSettings) (spec : LaunchSpec) : ProgramCall :=
  ⟨s.nodeBinary, [.ofText s.inspectFlag, spec.entry] ++ s.scriptArgs.map .ofText,
    some spec.workingDir⟩

/-- The debuggee that a started program turns out to be, given the diagnostic output up to its end
or up to the time at which it must have named its endpoint. -/
def LauncherSettings.outcome (s : LauncherSettings) (output : List UInt8) (ended : Bool) :
    Except LaunchError Debuggee :=
  match Endpoint.scan output ended with
  | .found endpoint => .ok ⟨endpoint, true, s.exitGrace⟩
  | .absent => .error .noEndpoint
  | .waiting => .error (.timeout s.launchTimeout)

namespace Debuggee

/-- An inspector that is not ours to stop. -/
def attached (endpoint : String) : Debuggee := ⟨endpoint, false, ⟨0⟩⟩

/-- Waits for the process, which exits in time with the given status or not at all. -/
def waitExit (d : Debuggee) (exit : Option ExitStatus) : Debuggee × Option ExitStatus :=
  if d.owned then
    match exit with
    | some status => ({ d with owned := false }, some status)
    | none => (d, none)
  else (d, none)

/-- Kills the process. -/
def terminate (d : Debuggee) : Debuggee := { d with owned := false }

/-- Stops the debuggee.  Gracefully means that it may exit by itself within its grace. -/
def shutDown (d : Debuggee) (graceful : Bool) (exit : Option ExitStatus) : Debuggee :=
  if graceful then
    match d.waitExit exit with
    | (d, some _) => d
    | (d, none) => d.terminate
  else d.terminate

end Debuggee

end ValueTrace
