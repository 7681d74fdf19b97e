import ValueTrace.Inspector.Registry
import ValueTrace.Inspector.Payload
import ValueTrace.Session.Pause

/-!
# Points of a stepping run

A run of the engine is a sequence of small steps, each with at most one effect on the connection,
so that frames may arrive between any two of them.  A point says which step is next; the points at
which the run may have to wait are those that await a reply, the acknowledgement of a resume, or the
next event of the debuggee.

## Main definitions

* `EventWaiters` : the waiters for what the debuggee does next.
* `Errand` : what a request is for.
* `Point` : where a run is.
-/

namespace ValueTrace.Stepping

open Inspector (Method PausedEvent RequestId SubscriptionId)

/-- The waiters for the next pause and for the end of the debuggee. -/
structure EventWaiters where
  paused : SubscriptionId
  ended : SubscriptionId
deriving DecidableEq, Repr

/-- What a request of the engine is for. -/
inductive Errand where
  /-- Enabling the debugger, while a waiter expects the news of a context. -/
  | enableDebugger (created : SubscriptionId)
  /-- Enabling the runtime, which announces the contexts there are. -/
  | enableRuntime (created : SubscriptionId)
  | setPauseOnExceptions
  | setBreakpoint
  /-- Letting the debuggee run for the first time. -/
  | release (next : EventWaiters)
  /-- Evaluating an expression at a pause, with others to follow. -/
  | evaluate (pause : Pause) (expression : String) (rest : List String)
  /-- Letting the debuggee run on. -/
  | resume (resumed : SubscriptionId) (next : EventWaiters)
deriving DecidableEq, Repr

/-- The inspector method of a request. -/
def Errand.method : Errand → Method
  | .enableDebugger _ => .debuggerEnable
  | .enableRuntime _ => .runtimeEnable
  | .setPauseOnExceptions => .setPauseOnExceptions
  | .setBreakpoint => .setBreakpointByUrl
  | .release _ => .runIfWaitingForDebugger
  | .evaluate .. => .evaluateOnCallFrame
  | .resume .. => .resume

/-- Where a run of the engine is. -/
inductive Point where
  /-- No run has begun. -/
  | unstarted
  /-- About to observe what the debuggee says, with the methods to come. -/
  | observing (methods : List Method)
  /-- About to wait for the news of a context. -/
  | expectingContext
  /-- About to make a request. -/
  | asking (errand : Errand)
  /-- Waiting for the answer to a request. -/
  | awaitingReply (errand : Errand) (call : RequestId)
  /-- About to look for the news of a context. -/
  | readingContext (created : SubscriptionId)
  /-- About to end the wait for the news of a context. -/
  | releasingContext (created : SubscriptionId)
  /-- About to leave the configuration. -/
  | configured
  /-- About to wait for the first pause. -/
  | expectingFirstPause
  /-- About to wait for the end of the debuggee before its first pause. -/
  | expectingFirstEnd (paused : SubscriptionId)
  /-- Waiting for the next pause or the end of the debuggee. -/
  | awaitingEvent (first : Bool) (next : EventWaiters)
  /-- About to end the waits for an event, the later one first. -/
  | releasingEvent (waiters : List SubscriptionId) (event : PausedEvent)
  /-- The debuggee has halted. -/
  | halted (first : Bool) (event : PausedEvent)
  /-- About to look for expressions at a pause. -/
  | discovering (pause : Pause)
  /-- About to resume. -/
  | resuming
  /-- About to wait for the acknowledgement of a resume. -/
  | expectingResumed
  /-- About to wait for the next pause. -/
  | expectingPause (resumed : SubscriptionId)
  /-- About to wait for the end of the debuggee. -/
  | expectingEnd (resumed paused : SubscriptionId)
  /-- Waiting for the acknowledgement of a resume. -/
  | awaitingResumed (resumed : SubscriptionId) (next : EventWaiters)
  /-- About to end the wait for the acknowledgement. -/
  | releasingResumed (resumed : SubscriptionId) (next : EventWaiters)
  /-- The debuggee runs on. -/
  | resumed (next : EventWaiters)
  /-- The outcome is certain; waiters and observers are given back one by one. -/
  | unwinding (outcome : Except SessionError Nat)
  | finished (outcome : Except SessionError Nat)
  /-- The caller has walked away. -/
  | abandoned

end ValueTrace.Stepping
