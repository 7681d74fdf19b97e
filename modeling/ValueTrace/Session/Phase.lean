/-!
# Phases of a session and states of its engine

A session moves through its phases in one direction only and ends terminated or failed.  The
engine that steps the debuggee has finer states and moves along fixed edges; from every state that
is not final it may also fail.

## Main definitions

* `Phase`, `Phase.canAdvanceTo` : the phases and their order.
* `EngineState`, `EngineState.canTransitionTo` : the states and their edges.
* `EngineState.phase?` : the phase that is entered together with a state.
-/

namespace ValueTrace

/-- The phases of a session. -/
inductive Phase where
  /-- Nothing has been sent. -/
  | idle
  /-- The debugger is being configured. -/
  | configuring
  /-- A pause has been evaluated. -/
  | tracing
  /-- The debuggee ended. -/
  | terminated
  /-- An error ended the session. -/
  | failed
deriving DecidableEq, Repr

namespace Phase

/-- The name of a phase in messages. -/
def name : Phase → String
  | .idle => "Idle"
  | .configuring => "Configuring"
  | .tracing => "Tracing"
  | .terminated => "Terminated"
  | .failed => "Failed"

/-- All phases. -/
def all : List Phase := [.idle, .configuring, .tracing, .terminated, .failed]

/-- How far a phase is along. -/
def rank : Phase → Nat
  | .idle => 0
  | .configuring => 1
  | .tracing => 2
  | .terminated => 3
  | .failed => 3

/-- Whether the session is over. -/
def isTerminal : Phase → Bool
  | .terminated => true
  | .failed => true
  | _ => false

/-- Whether a session may go from one phase to another: it may stay, or move on unless it is
over. -/
def canAdvanceTo (phase next : Phase) : Bool :=
  phase = next || !phase.isTerminal && phase.rank ≤ next.rank

end Phase

/-- The states of the engine. -/
inductive EngineState where
  /-- Not started. -/
  | idle
  /-- Enabling the debugger and setting the breakpoint. -/
  | configuring
  /-- The debuggee runs and has not paused yet. -/
  | waitingForInitialPause
  /-- Evaluating the tracked expressions at a pause. -/
  | evaluating
  /-- Resuming the debuggee. -/
  | resuming
  /-- Waiting for the next pause or the end of the debuggee. -/
  | waitingForPause
  /-- The debuggee ended. -/
  | terminated
  /-- An error ended the run. -/
  | failed
deriving DecidableEq, Repr

namespace EngineState

/-- The name of a state in messages. -/
def name : EngineState → String
  | .idle => "Idle"
  | .configuring => "Configuring"
  | .waitingForInitialPause => "WaitingForInitialPause"
  | .evaluating => "Evaluating"
  | .resuming => "Resuming"
  | .waitingForPause => "WaitingForPause"
  | .terminated => "Terminated"
  | .failed => "Failed"

/-- All states. -/
def all : List EngineState :=
  [.idle, .configuring, .waitingForInitialPause, .evaluating, .resuming, .waitingForPause,
    .terminated, .failed]

/-- Whether the run is over. -/
def isTerminal : EngineState → Bool
  | .terminated => true
  | .failed => true
  | _ => false

/-- Whether the engine may go from one state to another. -/
def canTransitionTo : EngineState → EngineState → Bool
  | state, .failed => !state.isTerminal
  | .idle, .configuring => true
  | .configuring, .waitingForInitialPause => true
  | .waitingForInitialPause, .evaluating => true
  | .waitingForInitialPause, .resuming => true
  | .waitingForInitialPause, .terminated => true
  | .evaluating, .resuming => true
  | .resuming, .waitingForPause => true
  | .waitingForPause, .evaluating => true
  | .waitingForPause, .terminated => true
  | _, _ => false

/-- The phase that the session enters together with a state. -/
def phase? : EngineState → Option Phase
  | .configuring => some .configuring
  | .evaluating => some .tracing
  | .terminated => some .terminated
  | .failed => some .failed
  | _ => none

end EngineState

end ValueTrace
