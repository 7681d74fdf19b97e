import ValueTrace.Inspector.Connection
import ValueTrace.Scope.Analysis
import ValueTrace.Session.Basic
import ValueTrace.Settings
import ValueTrace.Stepping.Point

/-!
# The stepping engine

The engine drives a debuggee from its configuration to its end: it sets the breakpoint, lets the
debuggee run, and at every pause evaluates the tracked expressions and resumes.  The expressions are
looked for once, at the first pause that is evaluated.  Any error ends the run, and the session
forgets what it recorded; an evaluation that the debuggee refuses is no error.

Waiters are given back when they go out of scope, the latest first, and observers at the end.

While the engine takes its steps, frames arrive, time passes and the inspector may hang up, in any
order.  A run is what a sequence of such events makes of an engine.

## Main definitions

* `Engine` : a run of the engine on a session and a connection.
* `Engine.step` : the next small step; a run that has to wait stays where it is.
* `Engine.elapse` : the time of the present wait is over.
* `Engine.timer?` : how long the present wait may last.
* `Event`, `Engine.apply`, `Engine.run` : what can happen, and what a sequence of events does.
-/

namespace ValueTrace.Stepping

open Inspector
open Json (Value)

/-- The engine with everything it works on. -/
structure Engine where
  settings : EngineSettings
  program : Program
  connection : Connection
  session : Session
  state : EngineState
  breakpointId : Option String
  /-- The number of pauses at which expressions were evaluated. -/
  pauses : Nat
  /-- The pauses that were read, in order. -/
  halts : List PausedEvent
  /-- The observers of the run that are not given back yet, in order. -/
  observers : List SubscriptionId
  /-- The waiters of the run that are not given back yet, the latest first. -/
  waiters : List SubscriptionId
  point : Point

/-- What ends a wait for the debuggee. -/
inductive Happening where
  | paused (event : PausedEvent)
  | ended

/-- Whether a frame says that a context has ended.  News that cannot be read counts, and all news
counts while no context is known. -/
def endsContext (context : Option Int) (m : Inbound) : Bool :=
  match m with
  | .response _ => false
  | .notification n =>
    n.method = Method.executionContextDestroyed.name &&
      match context, n.decode contextDestroyed with
      | some expected, .ok id => id = expected
      | _, _ => true

/-- The pause that a frame reports. -/
def pausedEvent (m : Inbound) : Except SessionError PausedEvent :=
  match m with
  | .response _ => .error (.unexpected "pause waiter matched a response")
  | .notification n =>
    (n.decode PausedEvent.decoder).mapError fun e =>
      .unexpected ("malformed pause notification: " ++ e.message)

/-- The value recorded for the answer to an evaluation.  An answer that refuses the evaluation or
cannot be read counts as undetermined; without an answer there is no value. -/
def evaluationRecord (outcome : Except TransportError Value) : Except TransportError ValueRecord :=
  match outcome.bind (decodeResult Evaluation.decoder Method.evaluateOnCallFrame.name) with
  | .ok evaluation => .ok evaluation.record
  | .error (.protocol ..) => .ok .undetermined
  | .error (.decode ..) => .ok .undetermined
  | .error e => .error e

namespace Engine

/-- An engine that has not run. -/
def start (settings : EngineSettings) (program : Program) (connection : Connection)
    (session : Session) : Engine :=
  ⟨settings, program, connection, session, .idle, none, 0, [], [], [], .unstarted⟩

/-- Begins a run. -/
def begin (e : Engine) : Engine :=
  { e with point := .observing [.scriptParsed, .consoleApiCalled, .exceptionThrown] }

/-- The outcome of a run that is over. -/
def outcome? (e : Engine) : Option (Except SessionError Nat) :=
  match e.point with
  | .finished outcome => some outcome
  | _ => none

/-! ### Parts of steps -/

/-- Goes on at a point. -/
def goTo (e : Engine) (point : Point) : Engine := { e with point }

/-- Ends the run with an error. -/
def fail (e : Engine) (error : SessionError) : Engine := e.goTo (.unwinding (.error error))

/-- Enters a state together with the phase of the session that belongs to it, and goes on at a
point. -/
def enter (e : Engine) (next : EngineState) (point : Point) : Engine :=
  if e.state.canTransitionTo next then
    match next.phase? with
    | none => { e with state := next, point }
    | some phase =>
      match e.session.advance phase with
      | .ok session => { e with state := next, session, point }
      | .error error => { e with state := next }.fail error
  else e.fail (.invalidTransition e.state next)

/-- Starts to wait for a frame, and goes on at a point. -/
def expect (e : Engine) (accepts : Inbound → Bool) (point : SubscriptionId → Point) : Engine :=
  let (connection, id) := e.connection.subscribe accepts
  { e with connection, waiters := id :: e.waiters, point := point id }

/-- Gives back a waiter, and goes on at a point. -/
def giveBack (e : Engine) (id : SubscriptionId) (point : Point) : Engine :=
  { e with connection := e.connection.release id, waiters := e.waiters.erase id, point }

/-- The parameters of a request. -/
def params (e : Engine) : Errand → Option Value
  | .setPauseOnExceptions => some (pauseOnExceptionsParams e.settings.pauseOnExceptions)
  | .setBreakpoint =>
    let b := e.session.breakpoint
    some (breakpointParams b.line b.url b.column)
  | .evaluate pause expression _ => some (evaluationParams pause.callFrameId expression true true)
  | _ => none

/-- Makes a request, and waits for its answer. -/
def ask (e : Engine) (errand : Errand) : Engine :=
  let (connection, call) := e.connection.send errand.method.name (e.params errand)
  { e with connection, point := .awaitingReply errand call }

/-- Goes on with the expressions that are still to be evaluated at a pause.  After the last one the
pause counts. -/
def evaluateNext (e : Engine) (pause : Pause) (expressions : List String) : Engine :=
  match expressions with
  | expression :: rest => e.goTo (.asking (.evaluate pause expression rest))
  | [] => { e with pauses := e.pauses + 1, point := .resuming }

/-- Looks for the expressions to track, unless that was done at an earlier pause. -/
def discover (e : Engine) (pause : Pause) : Engine :=
  if e.session.isDiscovered then e
  else
    let found := e.program.candidates pause.scopeStart e.session.breakpoint.line
    { e with session := e.session.setCandidates found }

/-- Takes the context that a frame announces, if it can be read. -/
def noteContext (e : Engine) (m : Inbound) : Engine :=
  match m with
  | .response _ => e
  | .notification n =>
    match n.decode contextCreated with
    | .ok context => { e with session := e.session.withContext context.id }
    | .error _ => e

/-- Whether a pause is the one at which the debuggee starts, which is not evaluated. -/
def skips (e : Engine) (first : Bool) (pause : Pause) : Bool :=
  first && e.settings.skipEntryPause && !pause.hits e.breakpointId

/-- Handles a pause. -/
def handleHalt (e : Engine) (first : Bool) (event : PausedEvent) : Engine :=
  match Pause.ofEvent? event with
  | .error error => e.fail error
  | .ok pause =>
    if e.skips first pause then e.goTo .resuming else e.enter .evaluating (.discovering pause)

/-- Goes on with the outcome of a request. -/
def handleReply (e : Engine) (errand : Errand) (outcome : Except TransportError Value) : Engine :=
  match errand, outcome with
  | .enableDebugger created, .ok _ => e.goTo (.asking (.enableRuntime created))
  | .enableRuntime created, .ok _ => e.goTo (.readingContext created)
  | .setPauseOnExceptions, .ok _ => e.goTo (.asking .setBreakpoint)
  | .setBreakpoint, .ok result =>
    match decodeResult BreakpointResult.decoder Method.setBreakpointByUrl.name result with
    | .ok breakpoint => { e with breakpointId := some breakpoint.id, point := .configured }
    | .error error => e.fail (.configuration .setBreakpointByUrl error)
  | .release next, .ok _ => e.goTo (.awaitingEvent true next)
  | .resume resumed next, .ok _ => e.goTo (.awaitingResumed resumed next)
  | .resume _ _, .error error => e.fail (.transport error)
  | .evaluate pause expression rest, outcome =>
    match evaluationRecord outcome with
    | .ok record =>
      { e with session := e.session.record expression record }.evaluateNext pause rest
    | .error error => e.fail (.transport error)
  | errand, .error error => e.fail (.configuration errand.method error)

/-- What has happened to the debuggee, if anything has.  A pause comes before an end.  When the
connection has ended before a pause, an end that was heard of still counts. -/
def happening? (e : Engine) (next : EventWaiters) : Option (Except SessionError Happening) :=
  match e.connection.receipt next.paused, e.connection.receipt next.ended with
  | .frame m, _ => some ((pausedEvent m).map .paused)
  | .closed, .frame _ => some (.ok .ended)
  | .closed, _ => some (.error (.transport .closed))
  | .waiting, .frame _ => some (.ok .ended)
  | .waiting, .closed => some (.error (.transport .closed))
  | .waiting, .waiting => none

/-- Goes on with what has happened to the debuggee.  The waiters for the first event stay until the
end of the run. -/
def handleHappening (e : Engine) (first : Bool) (next : EventWaiters)
    (happening : Except SessionError Happening) : Engine :=
  match happening with
  | .error error => e.fail error
  | .ok .ended => e.enter .terminated (.unwinding (.ok e.pauses))
  | .ok (.paused event) =>
    let e := { e with halts := e.halts ++ [event] }
    if first then e.goTo (.halted true event)
    else e.goTo (.releasingEvent [next.ended, next.paused] event)

/-- The end of a run: an error makes engine and session fail. -/
def conclude (e : Engine) (outcome : Except SessionError Nat) : Engine :=
  match outcome with
  | .ok _ => e.goTo (.finished outcome)
  | .error _ =>
    { e with state := if e.state.isTerminal then e.state else .failed,
             session := e.session.fail, point := .finished outcome }

/-- Gives back the latest waiter, or else the first observer, or else ends the run. -/
def unwind (e : Engine) (outcome : Except SessionError Nat) : Engine :=
  match e.waiters, e.observers with
  | id :: waiters, _ => { e with connection := e.connection.release id, waiters }
  | [], id :: observers => { e with connection := e.connection.release id, observers }
  | [], [] => e.conclude outcome

/-! ### Steps -/

/-- Reads the answer to a request, if there is one. -/
def stepReply (e : Engine) (errand : Errand) (call : RequestId) : Engine :=
  let connection := e.connection.readAnswer call
  match connection.outcome? call with
  | some outcome => { e with connection }.handleReply errand outcome
  | none => e

/-- Looks for the acknowledgement of a resume. -/
def stepResumed (e : Engine) (resumed : SubscriptionId) (next : EventWaiters) : Engine :=
  match e.connection.receipt resumed with
  | .frame _ => e.goTo (.releasingResumed resumed next)
  | .closed => e.fail (.transport .closed)
  | .waiting => e

/-- Looks for what has happened to the debuggee. -/
def stepEvent (e : Engine) (first : Bool) (next : EventWaiters) : Engine :=
  match e.happening? next with
  | some happening => e.handleHappening first next happening
  | none => e

/-- The next small step of a run.  A run that has to wait, or that is over, stays as it is. -/
def step (e : Engine) : Engine :=
  match e.point with
  | .unstarted | .finished _ | .abandoned => e
  | .observing (method :: rest) =>
    let (connection, id) := e.connection.observe method.name
    { e with connection, observers := e.observers ++ [id], point := .observing rest }
  | .observing [] => e.enter .configuring .expectingContext
  | .expectingContext =>
    e.expect (methodIs Method.executionContextCreated.name) fun created =>
      .asking (.enableDebugger created)
  | .asking errand => e.ask errand
  | .awaitingReply errand call => e.stepReply errand call
  | .readingContext created =>
    match e.connection.receipt created with
    | .frame m => (e.noteContext m).goTo (.releasingContext created)
    | _ => e.goTo (.releasingContext created)
  | .releasingContext created => e.giveBack created (.asking .setPauseOnExceptions)
  | .configured => e.enter .waitingForInitialPause .expectingFirstPause
  | .expectingFirstPause => e.expect (methodIs Method.paused.name) .expectingFirstEnd
  | .expectingFirstEnd paused =>
    e.expect (endsContext e.session.contextId) fun ended => .asking (.release ⟨paused, ended⟩)
  | .awaitingEvent first next => e.stepEvent first next
  | .releasingEvent (id :: rest) event => e.giveBack id (.releasingEvent rest event)
  | .releasingEvent [] event => e.goTo (.halted false event)
  | .halted first event => e.handleHalt first event
  | .discovering pause =>
    let e := e.discover pause
    e.evaluateNext pause e.session.tracked.expressions
  | .resuming => e.enter .resuming .expectingResumed
  | .expectingResumed => e.expect (methodIs Method.resumed.name) .expectingPause
  | .expectingPause resumed => e.expect (methodIs Method.paused.name) (.expectingEnd resumed)
  | .expectingEnd resumed paused =>
    e.expect (endsContext e.session.contextId) fun ended =>
      .asking (.resume resumed ⟨paused, ended⟩)
  | .awaitingResumed resumed next => e.stepResumed resumed next
  | .releasingResumed resumed next => e.giveBack resumed (.resumed next)
  | .resumed next => e.enter .waitingForPause (.awaitingEvent false next)
  | .unwinding outcome => e.unwind outcome

/-- How long the present wait may last, if it ends by itself. -/
def timer? (e : Engine) : Option Duration :=
  match e.point with
  | .awaitingReply _ _ => e.connection.requestBound
  | .awaitingEvent _ _ => e.settings.pauseTimeout
  | _ => none

/-- The time of the present wait is over.  What has come in time still counts; a wait without a
timer goes on. -/
def elapse (e : Engine) : Engine :=
  match e.point with
  | .awaitingReply errand call =>
    let connection := e.connection.expire call
    match connection.outcome? call with
    | some outcome => { e with connection }.handleReply errand outcome
    | none => e
  | .awaitingEvent first next =>
    match e.settings.pauseTimeout, e.happening? next with
    | some _, some happening => e.handleHappening first next happening
    | some bound, none => e.fail (.pauseTimeout bound)
    | none, _ => e
  | _ => e

/-- Whether the next step has to wait for a frame or for the end of the connection. -/
def isBlocked (e : Engine) : Bool :=
  match e.point with
  | .awaitingReply _ call => ((e.connection.readAnswer call).outcome? call).isNone
  | .awaitingResumed resumed _ => (e.connection.receipt resumed).isWaiting
  | .awaitingEvent _ next => (e.happening? next).isNone
  | _ => false

/-- The caller of a run walks away: a request is abandoned and the waiters are given back.  The
observers stay. -/
def abandon (e : Engine) : Engine :=
  let connection := match e.point with
    | .awaitingReply _ call => e.connection.abandon call
    | _ => e.connection
  { e with connection := e.waiters.foldl Connection.release connection, waiters := [],
           point := .abandoned }

end Engine

/-! ### Runs -/

/-- What can happen during a run. -/
inductive Event where
  /-- The engine takes a step. -/
  | step
  /-- A text arrives from the inspector. -/
  | frame (text : String)
  /-- The time of the present wait is over. -/
  | elapse
  /-- The connection ends. -/
  | hangUp
deriving DecidableEq, Repr

namespace Engine

/-- What an event does. -/
def apply (e : Engine) : Event → Engine
  | .step => e.step
  | .frame text => { e with connection := e.connection.receive text }
  | .elapse => e.elapse
  | .hangUp => { e with connection := e.connection.hangUp }

/-- What a sequence of events does. -/
def run (e : Engine) (events : List Event) : Engine := events.foldl apply e

end Engine

end ValueTrace.Stepping
