import ValueTrace.Debuggee.Launch
import ValueTrace.Session.Result
import ValueTrace.Stepping.Engine

/-!
# Runs of the coordinator

A run of the coordinator answers one request: it takes the only slot, waits for the run that held
it before, and then parses the source, starts the debuggee, connects to it, steps it, lets it
settle, and takes everything down again.  A stage names what the run waits for.  Parsing, starting,
connecting, stepping and settling end early when the run is cancelled; the other waits do not.

## Main definitions

* `Stage`, `Run` : a run and how far it has come.
* `Answer` : what a wait may get.
* `Act` : what a run does that others can see.
-/

namespace ValueTrace.Coordinator

open Inspector (Connection TransportError)
open Stepping (Engine)

/-- The number of a run. -/
abbrev RunId := Nat

/-- The result of a run. -/
abbrev Outcome := Except SessionError TraceResult

/-- How far a run has come. -/
inductive Stage where
  /-- About to take the slot. -/
  | arriving
  /-- About to cancel the run that held the slot. -/
  | superseding (previous : RunId)
  /-- Waiting for the run that held the slot. -/
  | queued (previous : RunId)
  /-- Waiting for the syntax tree, which may not have been asked for yet. -/
  | parsing (started : Bool)
  /-- Waiting for the absolute path of the source. -/
  | resolving (program : Program)
  /-- Waiting for the debuggee, which may not have been asked for yet. -/
  | launching (program : Program) (session : Session) (started : Bool)
  /-- Waiting for the connection, which may not have been asked for yet. -/
  | connecting (program : Program) (session : Session) (debuggee : Debuggee) (started : Bool)
  /-- Stepping the debuggee.  An engine that is awake takes further steps before anything else is
  looked at. -/
  | stepping (engine : Engine) (debuggee : Debuggee) (awake : Bool)
  /-- Waiting for what the debuggee may still say. -/
  | settling (engine : Engine) (debuggee : Debuggee) (pauses : Nat)
  /-- Waiting for the end of the connection. -/
  | closing (connection : Connection) (debuggee : Debuggee) (outcome : Outcome)
  /-- Waiting for the end of the debuggee. -/
  | stopping (debuggee : Debuggee) (outcome : Outcome)
  | finished (outcome : Outcome)
  /-- The caller has walked away. -/
  | dropped

namespace Stage

/-- Whether the run is over, for whatever reason. -/
def isDone : Stage → Bool
  | .finished _ => true
  | .dropped => true
  | _ => false

/-- Whether the run is at a wait, where its caller may walk away. -/
def isSuspended : Stage → Bool
  | .queued _ => true
  | .parsing started => started
  | .resolving _ => true
  | .launching _ _ started => started
  | .connecting _ _ _ started => started
  | .stepping _ _ awake => !awake
  | .settling .. => true
  | .closing .. => true
  | .stopping .. => true
  | _ => false

end Stage

/-- A request with its run. -/
structure Run where
  id : RunId
  request : TraceRequest
  cancelled : Bool
  stage : Stage

/-- What a debuggee is started with. -/
def Run.launchSpec (r : Run) : LaunchSpec := ⟨r.request.entry, r.request.workingDir⟩

/-- What a wait may get. -/
inductive Answer where
  | parsed (result : Except ParseError Program)
  | resolved (path : FilePath)
  | launched (result : Except LaunchError Debuggee)
  | connected (result : Except TransportError Unit)
  /-- The time of the wait is over. -/
  | elapsed
  | closed
  | stopped

/-- What a run does that others can see. -/
inductive Act where
  | takesSlot
  | parses
  | launches (spec : LaunchSpec)
  /-- The debuggee is there. -/
  | owns (endpoint : String)
  | connects (endpoint : String)
  /-- The connection is there. -/
  | opens
  | closes
  | stops (graceful : Bool)
  /-- The run is over, and the slot is free if it was still its own. -/
  | ends
deriving DecidableEq, Repr

end ValueTrace.Coordinator
