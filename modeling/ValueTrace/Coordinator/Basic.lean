import ValueTrace.Coordinator.Run

/-!
# The coordinator

Runs are traced one at a time.  A new run takes the slot at once, cancels the run that held it and
waits until that one has taken everything down.  Runs advance when they are polled; a poll brings
the answer to the wait of the run, or nothing.

A cancelled run looks at its cancellation before it looks at an answer, so it starts nothing more.
Whatever was started is taken down in the opposite order: first the connection, then the debuggee,
which may end by itself only if there is a result.  Only then is the slot given back.

## Main definitions

* `Coordinator` : the runs, the slot and what was done.
* `Coordinator.poll` : a run advances.
* `Coordinator.call`, `cancelActive`, `drop` : what callers do.
* `Coordinator.apply`, `Coordinator.run` : sequences of all of these.
-/

namespace ValueTrace

open Coordinator
open Inspector (Connection)
open Stepping (Engine)

/-- The runs, the slot and what was done. -/
structure Coordinator where
  settings : EngineSettings
  runs : List Run
  /-- The latest number given to a run. -/
  lastRun : RunId
  /-- The run that holds the slot. -/
  active : Option RunId
  /-- What the runs did, in order. -/
  history : List (RunId × Act)

namespace Coordinator

/-- A coordinator without runs. -/
def start (settings : EngineSettings) : Coordinator := ⟨settings, [], 0, none, []⟩

/-- Whether a run holds the slot. -/
def isActive (c : Coordinator) : Bool := c.active.isSome

/-- The run with a number. -/
def run? (c : Coordinator) (id : RunId) : Option Run := c.runs.find? fun r => r.id = id

/-- Whether a run is over.  A run that never was counts as over. -/
def isDone (c : Coordinator) (id : RunId) : Bool :=
  match c.run? id with
  | some r => r.stage.isDone
  | none => true

/-- The result of a run that is over. -/
def outcome? (c : Coordinator) (id : RunId) : Option Outcome :=
  match (c.run? id).map Run.stage with
  | some (.finished outcome) => some outcome
  | _ => none

/-! ### Parts of events -/

/-- Changes the run with a number. -/
def updateRun (c : Coordinator) (id : RunId) (f : Run → Run) : Coordinator :=
  { c with runs := c.runs.map fun r => if r.id = id then f r else r }

/-- Moves a run to a stage. -/
def moveTo (c : Coordinator) (id : RunId) (stage : Stage) : Coordinator :=
  c.updateRun id fun r => { r with stage }

/-- Notes what a run does. -/
def note (c : Coordinator) (id : RunId) (act : Act) : Coordinator :=
  { c with history := c.history ++ [(id, act)] }

/-- Cancels a run. -/
def cancel (c : Coordinator) (id : RunId) : Coordinator :=
  c.updateRun id fun r => { r with cancelled := true }

/-- A run is over: the slot is free if it was still its own, and those who wait for it learn of
it. -/
def leave (c : Coordinator) (id : RunId) (stage : Stage) : Coordinator :=
  let freed := { c with active := if c.active = some id then none else c.active }
  (freed.moveTo id stage).note id .ends

/-- A run is over with a result. -/
def conclude (c : Coordinator) (id : RunId) (outcome : Outcome) : Coordinator :=
  c.leave id (.finished outcome)

/-- Whether a result is there. -/
def hasResult (outcome : Outcome) : Bool :=
  match outcome with
  | .ok _ => true
  | .error _ => false

/-! ### Polls -/

/-- A run takes the slot. -/
def pollArriving (c : Coordinator) (id : RunId) : Coordinator :=
  let taken := { c with active := some id }.note id .takesSlot
  match c.active with
  | some previous => taken.moveTo id (.superseding previous)
  | none => taken.moveTo id (.parsing false)

/-- A run waits for its syntax tree.  A source that the parser rejects has an empty trace. -/
def pollParsing (c : Coordinator) (r : Run) (started : Bool) (answer : Option Answer) :
    Coordinator :=
  if r.cancelled then c.conclude r.id (.error .superseded)
  else
    let asked := if started then c else c.note r.id .parses
    match answer with
    | some (.parsed (.ok program)) => asked.moveTo r.id (.resolving program)
    | some (.parsed (.error (.rejected _ _))) => asked.conclude r.id (.ok .empty)
    | some (.parsed (.error e)) => asked.conclude r.id (.error (.parser e))
    | _ => asked.moveTo r.id (.parsing true)

/-- A run waits for the path of its source, and makes its session. -/
def pollResolving (c : Coordinator) (r : Run) (program : Program) (answer : Option Answer) :
    Coordinator :=
  match answer with
  | some (.resolved path) =>
    let session := Session.start r.id path r.request.workingDir r.request.line
    c.moveTo r.id (.launching program session false)
  | _ => c

/-- A run waits for its debuggee. -/
def pollLaunching (c : Coordinator) (r : Run) (program : Program) (session : Session)
    (started : Bool) (answer : Option Answer) : Coordinator :=
  if r.cancelled then c.conclude r.id (.error .superseded)
  else
    let asked := if started then c else c.note r.id (.launches r.launchSpec)
    match answer with
    | some (.launched (.ok debuggee)) =>
      (asked.note r.id (.owns debuggee.endpoint)).moveTo r.id
        (.connecting program session debuggee false)
    | some (.launched (.error e)) => asked.conclude r.id (.error (.launch e))
    | _ => asked.moveTo r.id (.launching program session true)

/-- A run waits for its connection. -/
def pollConnecting (c : Coordinator) (r : Run) (program : Program) (session : Session)
    (debuggee : Debuggee) (started : Bool) (answer : Option Answer) : Coordinator :=
  if r.cancelled then c.moveTo r.id (.stopping debuggee (.error .superseded))
  else
    let asked := if started then c else c.note r.id (.connects debuggee.endpoint)
    match answer with
    | some (.connected (.ok ())) =>
      let connection := Connection.opened c.settings.requestBound
      let engine := (Engine.start c.settings program connection session).begin
      (asked.note r.id .opens).moveTo r.id (.stepping engine debuggee false)
    | some (.connected (.error e)) =>
      asked.moveTo r.id (.stopping debuggee (.error (.transport e)))
    | _ => asked.moveTo r.id (.connecting program session debuggee true)

/-- The engine of a run takes a step.  It stays awake as long as it need not wait. -/
def pollStepping (c : Coordinator) (r : Run) (engine : Engine) (debuggee : Debuggee)
    (awake : Bool) (answer : Option Answer) : Coordinator :=
  if r.cancelled && !awake then
    c.moveTo r.id (.closing engine.abandon.connection debuggee (.error .superseded))
  else
    let engine :=
      match answer with
      | some .elapsed => engine.elapse
      | _ => engine.step
    match engine.outcome? with
    | some (.ok pauses) => c.moveTo r.id (.settling engine debuggee pauses)
    | some (.error e) => c.moveTo r.id (.closing engine.connection debuggee (.error e))
    | none => c.moveTo r.id (.stepping engine debuggee !engine.isBlocked)

/-- A run waits for what the debuggee may still say, unless it is not to wait at all. -/
def pollSettling (c : Coordinator) (r : Run) (engine : Engine) (debuggee : Debuggee)
    (pauses : Nat) (answer : Option Answer) : Coordinator :=
  let settled :=
    c.moveTo r.id
      (.closing engine.connection debuggee (.ok (TraceResult.ofSession engine.session pauses)))
  if c.settings.settleDelay.isZero then settled
  else if r.cancelled then
    c.moveTo r.id (.closing engine.connection debuggee (.error .superseded))
  else if engine.connection.isClosed then settled
  else
    match answer with
    | some .elapsed => settled
    | _ => c

/-- A run waits for the end of its connection. -/
def pollClosing (c : Coordinator) (r : Run) (connection : Connection) (debuggee : Debuggee)
    (outcome : Outcome) (answer : Option Answer) : Coordinator :=
  let closed := (c.note r.id .closes).moveTo r.id (.stopping debuggee outcome)
  if connection.isClosed then closed
  else
    match answer with
    | some .closed => closed
    | _ => c

/-- A run waits for the end of its debuggee. -/
def pollStopping (c : Coordinator) (r : Run) (outcome : Outcome) (answer : Option Answer) :
    Coordinator :=
  match answer with
  | some .stopped => (c.note r.id (.stops (hasResult outcome))).conclude r.id outcome
  | _ => c

/-- A run advances, if the answer is one that it waits for or if it need not wait. -/
def pollRun (c : Coordinator) (r : Run) (answer : Option Answer) : Coordinator :=
  match r.stage with
  | .arriving => c.pollArriving r.id
  | .superseding previous => (c.cancel previous).moveTo r.id (.queued previous)
  | .queued previous => if c.isDone previous then c.moveTo r.id (.parsing false) else c
  | .parsing started => c.pollParsing r started answer
  | .resolving program => c.pollResolving r program answer
  | .launching program session started => c.pollLaunching r program session started answer
  | .connecting program session debuggee started =>
    c.pollConnecting r program session debuggee started answer
  | .stepping engine debuggee awake => c.pollStepping r engine debuggee awake answer
  | .settling engine debuggee pauses => c.pollSettling r engine debuggee pauses answer
  | .closing connection debuggee outcome => c.pollClosing r connection debuggee outcome answer
  | .stopping _ outcome => c.pollStopping r outcome answer
  | .finished _ => c
  | .dropped => c

/-- The run with a number advances. -/
def poll (c : Coordinator) (id : RunId) (answer : Option Answer) : Coordinator :=
  match c.run? id with
  | some r => c.pollRun r answer
  | none => c

/-! ### Callers and inspectors -/

/-- A caller asks for a trace. -/
def call (c : Coordinator) (request : TraceRequest) : Coordinator × RunId :=
  let id := c.lastRun + 1
  ({ c with lastRun := id, runs := c.runs ++ [⟨id, request, false, .arriving⟩] }, id)

/-- Cancels the run that holds the slot, and says whether there is one. -/
def cancelActive (c : Coordinator) : Coordinator × Bool :=
  match c.active with
  | some id => (c.cancel id, true)
  | none => (c, false)

/-- The caller of a run walks away while the run waits.  What the run owns goes with it. -/
def drop (c : Coordinator) (id : RunId) : Coordinator :=
  match c.run? id with
  | some r => if r.stage.isSuspended then c.leave id .dropped else c
  | none => c

/-- Does something to the connection of a run, if it has one. -/
def onConnection (f : Connection → Connection) (r : Run) : Run :=
  match r.stage with
  | .stepping engine debuggee awake =>
    { r with stage := .stepping { engine with connection := f engine.connection } debuggee awake }
  | .settling engine debuggee pauses =>
    { r with stage := .settling { engine with connection := f engine.connection } debuggee pauses }
  | .closing connection debuggee outcome =>
    { r with stage := .closing (f connection) debuggee outcome }
  | _ => r

/-! ### Histories -/

/-- Everything that can happen to a coordinator. -/
inductive Event where
  | call (request : TraceRequest)
  | poll (run : RunId) (answer : Option Answer)
  /-- A text arrives from the inspector of a run. -/
  | frame (run : RunId) (text : String)
  /-- The connection of a run ends. -/
  | hangUp (run : RunId)
  | cancelActive
  | drop (run : RunId)

/-- What an event does. -/
def apply (c : Coordinator) : Event → Coordinator
  | .call request => (c.call request).1
  | .poll id answer => c.poll id answer
  | .frame id text => c.updateRun id (onConnection fun connection => connection.receive text)
  | .hangUp id => c.updateRun id (onConnection Connection.hangUp)
  | .cancelActive => c.cancelActive.1
  | .drop id => c.drop id

/-- What a sequence of events does. -/
def run (c : Coordinator) (events : List Event) : Coordinator := events.foldl apply c

end Coordinator

end ValueTrace
