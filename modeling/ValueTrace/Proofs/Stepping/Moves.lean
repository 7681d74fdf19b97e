import ValueTrace.Stepping.Engine

/-!
# The moves of an engine

Whatever the engine does by itself is one of a few kinds of moves, each with an explicit result: it
enters a state, begins or ends a wait, makes a request, goes on with an answer, with a pause or
with an end, fails, or gives back what it holds.  A step is a move (`Engine.move_step`), unless the
run has to wait or is over, and then it changes nothing; and so is the end of a wait's time
(`Engine.elapse_cases`).

## Main definitions

* `Point.isAtRest` : whether no step is to be taken.
* `Entry` : when a state is entered.
* `Expectation`, `Return` : when a wait begins and ends.
* `Answered` : the outcome of a request is there.
* `Trouble` : what ends a run with an error.
* `Move` : what an engine does by itself.
-/

namespace ValueTrace.Stepping

open Inspector
open Json (Value)

/-- The point that follows when a request has succeeded, if its result does not matter. -/
def Errand.next? : Errand → Option Point
  | .enableDebugger created => some (.asking (.enableRuntime created))
  | .enableRuntime created => some (.readingContext created)
  | .setPauseOnExceptions => some (.asking .setBreakpoint)
  | .release next => some (.awaitingEvent true next)
  | .resume resumed next => some (.awaitingResumed resumed next)
  | .setBreakpoint | .evaluate .. => none

/-- Whether the failure of a request is one of the configuration. -/
def Errand.isConfiguration : Errand → Bool
  | .evaluate .. | .resume .. => false
  | _ => true

/-- Whether a run is at a point where no step is to be taken. -/
def Point.isAtRest : Point → Bool
  | .unstarted | .finished _ | .abandoned => true
  | _ => false

/-- The session enters the phase that belongs to a state. -/
def enterPhase (session : Session) (next : EngineState) : Session :=
  match next.phase? with
  | none => session
  | some phase => { session with phase }

/-- Whether the engine and its session may enter a state. -/
def Engine.allows (e : Engine) (next : EngineState) : Bool :=
  e.state.canTransitionTo next &&
    match next.phase? with
    | none => true
    | some phase => e.session.phase.canAdvanceTo phase

/-- Where the engine is about to enter a state, and where it goes on then. -/
inductive Entry (e : Engine) : EngineState → Point → Prop
  | configuring (hp : e.point = .observing []) : Entry e .configuring .expectingContext
  | waitingForInitialPause (hp : e.point = .configured) :
      Entry e .waitingForInitialPause .expectingFirstPause
  | evaluating {first event pause} (hp : e.point = .halted first event)
      (hpause : Pause.ofEvent? event = .ok pause) (hskip : e.skips first pause = false) :
      Entry e .evaluating (.discovering pause)
  | resuming (hp : e.point = .resuming) : Entry e .resuming .expectingResumed
  | waitingForPause {next} (hp : e.point = .resumed next) :
      Entry e .waitingForPause (.awaitingEvent false next)
  | terminated {first next} (hp : e.point = .awaitingEvent first next)
      (hhappening : e.happening? next = some (.ok .ended)) :
      Entry e .terminated (.unwinding (.ok e.pauses))

/-- Where the engine is about to wait for a frame, and where it goes on then. -/
inductive Expectation (e : Engine) : (Inbound → Bool) → (SubscriptionId → Point) → Prop
  | context (hp : e.point = .expectingContext) :
      Expectation e (methodIs Method.executionContextCreated.name) fun created =>
        .asking (.enableDebugger created)
  | firstPause (hp : e.point = .expectingFirstPause) :
      Expectation e (methodIs Method.paused.name) .expectingFirstEnd
  | firstEnd {paused} (hp : e.point = .expectingFirstEnd paused) :
      Expectation e (endsContext e.session.contextId) fun ended =>
        .asking (.release ⟨paused, ended⟩)
  | resumed (hp : e.point = .expectingResumed) :
      Expectation e (methodIs Method.resumed.name) .expectingPause
  | pause {resumed} (hp : e.point = .expectingPause resumed) :
      Expectation e (methodIs Method.paused.name) (.expectingEnd resumed)
  | nextEnd {resumed paused} (hp : e.point = .expectingEnd resumed paused) :
      Expectation e (endsContext e.session.contextId) fun ended =>
        .asking (.resume resumed ⟨paused, ended⟩)

/-- Where the engine is about to give back a waiter, and where it goes on then. -/
inductive Return (e : Engine) : SubscriptionId → Point → Prop
  | context {created} (hp : e.point = .releasingContext created) :
      Return e created (.asking .setPauseOnExceptions)
  | event {id rest event} (hp : e.point = .releasingEvent (id :: rest) event) :
      Return e id (.releasingEvent rest event)
  | resumed {resumed next} (hp : e.point = .releasingResumed resumed next) :
      Return e resumed (.resumed next)

/-- The outcome of the request that the engine waits for is there, either because its answer has
come or because its time is over. -/
structure Answered (e : Engine) (errand : Errand) (call : RequestId) (connection : Connection)
    (outcome : Except TransportError Value) : Prop where
  point : e.point = .awaitingReply errand call
  came : connection = e.connection.readAnswer call ∨ connection = e.connection.expire call
  outcome : connection.outcome? call = some outcome

/-- What ends a run with an error, apart from a state that must not be entered. -/
inductive Trouble (e : Engine) : Connection → SessionError → Prop
  | configuration {errand call connection cause}
      (h : Answered e errand call connection (.error cause))
      (herrand : errand.isConfiguration = true) :
      Trouble e connection (.configuration errand.method cause)
  | breakpoint {call connection result cause}
      (h : Answered e .setBreakpoint call connection (.ok result))
      (hdecode : decodeResult BreakpointResult.decoder Method.setBreakpointByUrl.name result =
        .error cause) :
      Trouble e connection (.configuration .setBreakpointByUrl cause)
  | resume {resumed next call connection cause}
      (h : Answered e (.resume resumed next) call connection (.error cause)) :
      Trouble e connection (.transport cause)
  | evaluation {pause expression rest call connection outcome cause}
      (h : Answered e (.evaluate pause expression rest) call connection outcome)
      (hrecord : evaluationRecord outcome = .error cause) :
      Trouble e connection (.transport cause)
  | unacknowledged {resumed next} (hp : e.point = .awaitingResumed resumed next)
      (hreceipt : e.connection.receipt resumed = .closed) :
      Trouble e e.connection (.transport .closed)
  | happening {first next error} (hp : e.point = .awaitingEvent first next)
      (hhappening : e.happening? next = some (.error error)) :
      Trouble e e.connection error
  | pauseTimeout {first next bound} (hp : e.point = .awaitingEvent first next)
      (hbound : e.settings.pauseTimeout = some bound) (hhappening : e.happening? next = none) :
      Trouble e e.connection (.pauseTimeout bound)
  | frameless {first event error} (hp : e.point = .halted first event)
      (hpause : Pause.ofEvent? event = .error error) :
      Trouble e e.connection error

/-- What an engine does by itself. -/
inductive Move (e : Engine) : Engine → Prop
  | observe {method rest} (hp : e.point = .observing (method :: rest)) :
      Move e { e with connection := (e.connection.observe method.name).1,
                      observers := e.observers ++ [(e.connection.observe method.name).2],
                      point := .observing rest }
  | enter {next point} (hentry : Entry e next point) (hallowed : e.allows next = true) :
      Move e { e with state := next, session := enterPhase e.session next, point }
  /-- A state that must not be entered. -/
  | refuse {next point state error} (hentry : Entry e next point)
      (hrefused : e.allows next = false) :
      Move e { e with state, point := .unwinding (.error error) }
  | expect {accepts point} (h : Expectation e accepts point) : Move e (e.expect accepts point)
  | giveBack {id point} (h : Return e id point) : Move e (e.giveBack id point)
  | ask {errand} (hp : e.point = .asking errand) : Move e (e.ask errand)
  | proceed {errand call connection result point}
      (h : Answered e errand call connection (.ok result)) (hnext : errand.next? = some point) :
      Move e { e with connection, point }
  | install {call connection result breakpoint}
      (h : Answered e .setBreakpoint call connection (.ok result))
      (hdecode : decodeResult BreakpointResult.decoder Method.setBreakpointByUrl.name result =
        .ok breakpoint) :
      Move e { e with connection, breakpointId := some breakpoint.id, point := .configured }
  | record {pause expression rest call connection outcome value}
      (h : Answered e (.evaluate pause expression rest) call connection outcome)
      (hrecord : evaluationRecord outcome = .ok value) :
      Move e ({ e with connection,
                       session := e.session.record expression value }.evaluateNext pause rest)
  | note {created m} (hp : e.point = .readingContext created)
      (hreceipt : e.connection.receipt created = .frame m) :
      Move e ((e.noteContext m).goTo (.releasingContext created))
  | noteNothing {created} (hp : e.point = .readingContext created)
      (hreceipt : ∀ m, e.connection.receipt created ≠ .frame m) :
      Move e (e.goTo (.releasingContext created))
  | pause {first next event} (hp : e.point = .awaitingEvent first next)
      (hhappening : e.happening? next = some (.ok (.paused event))) :
      Move e { e with halts := e.halts ++ [event],
                      point := if first then .halted true event
                        else .releasingEvent [next.ended, next.paused] event }
  | halt {event} (hp : e.point = .releasingEvent [] event) : Move e (e.goTo (.halted false event))
  | skip {first event pause} (hp : e.point = .halted first event)
      (hpause : Pause.ofEvent? event = .ok pause) (hskip : e.skips first pause = true) :
      Move e (e.goTo .resuming)
  | discover {pause} (hp : e.point = .discovering pause) :
      Move e ((e.discover pause).evaluateNext pause
        (e.discover pause).session.tracked.expressions)
  | acknowledge {resumed next m} (hp : e.point = .awaitingResumed resumed next)
      (hreceipt : e.connection.receipt resumed = .frame m) :
      Move e (e.goTo (.releasingResumed resumed next))
  | fail {connection error} (h : Trouble e connection error) :
      Move e { e with connection, point := .unwinding (.error error) }
  | releaseWaiter {outcome id waiters} (hp : e.point = .unwinding outcome)
      (hwaiters : e.waiters = id :: waiters) :
      Move e { e with connection := e.connection.release id, waiters }
  | releaseObserver {outcome id observers} (hp : e.point = .unwinding outcome)
      (hwaiters : e.waiters = []) (hobservers : e.observers = id :: observers) :
      Move e { e with connection := e.connection.release id, observers }
  | conclude {outcome} (hp : e.point = .unwinding outcome) (hwaiters : e.waiters = [])
      (hobservers : e.observers = []) :
      Move e (e.conclude outcome)

namespace Engine

variable {e : Engine}

/-- A state is entered together with its phase, if both may be entered. -/
theorem enter_of_allows {next : EngineState} (h : e.allows next = true) (point : Point) :
    e.enter next point =
      { e with state := next, session := enterPhase e.session next, point } := by
  simp only [allows, Bool.and_eq_true] at h
  obtain ⟨hstate, hphase⟩ := h
  rw [enter]
  rw [if_pos hstate]
  cases hnext : next.phase? with
  | none => simp only [enterPhase, hnext]
  | some phase =>
    rw [hnext] at hphase
    simp only [enterPhase, hnext, Session.advance, if_pos hphase]

/-- To enter a state is a move, whether it succeeds or not. -/
theorem move_enter {next : EngineState} {point : Point} (h : Entry e next point) :
    Move e (e.enter next point) := by
  cases hallowed : e.allows next with
  | true =>
    rw [enter_of_allows hallowed]
    exact .enter h hallowed
  | false =>
    simp only [allows, Bool.and_eq_false_iff] at hallowed
    rw [enter]
    split
    · rename_i hstate
      rcases hallowed with hno | hphase
      · rw [hno] at hstate
        exact absurd hstate Bool.false_ne_true
      · split
        · rename_i hnone
          simp [hnone] at hphase
        · rename_i phase hsome
          rw [hsome] at hphase
          rw [Session.advance, if_neg (Bool.eq_false_iff.1 hphase)]
          exact .refuse h (by simp [allows, hsome, hphase])
    · rename_i hstate
      exact .refuse h (by simp [allows, hstate])

/-- With the outcome of its request the engine makes a move. -/
theorem move_handleReply {errand : Errand} {call : RequestId} {connection : Connection}
    {outcome : Except TransportError Value} (h : Answered e errand call connection outcome) :
    Move e ({ e with connection }.handleReply errand outcome) := by
  have hfail {cause : TransportError} (ho : outcome = .error cause)
      (herrand : errand.isConfiguration = true) :
      Move e { e with connection,
                      point := .unwinding (.error (.configuration errand.method cause)) } := by
    subst ho
    exact .fail (.configuration h herrand)
  cases errand with
  | setBreakpoint =>
    cases outcome with
    | error cause => exact hfail rfl rfl
    | ok result =>
      simp only [handleReply]
      split
      · rename_i breakpoint hdecode
        exact .install h hdecode
      · rename_i cause hdecode
        exact .fail (.breakpoint h hdecode)
  | evaluate pause expression rest =>
    simp only [handleReply]
    split
    · rename_i value hrecord
      exact .record h hrecord
    · rename_i cause hrecord
      exact .fail (.evaluation h hrecord)
  | resume resumed next =>
    cases outcome with
    | error cause => exact .fail (.resume h)
    | ok result => exact .proceed h rfl
  | enableDebugger created =>
    cases outcome with
    | error cause => exact hfail rfl rfl
    | ok result => exact .proceed h rfl
  | enableRuntime created =>
    cases outcome with
    | error cause => exact hfail rfl rfl
    | ok result => exact .proceed h rfl
  | setPauseOnExceptions =>
    cases outcome with
    | error cause => exact hfail rfl rfl
    | ok result => exact .proceed h rfl
  | release next =>
    cases outcome with
    | error cause => exact hfail rfl rfl
    | ok result => exact .proceed h rfl

/-- With what has happened to the debuggee the engine makes a move. -/
theorem move_handleHappening {first : Bool} {next : EventWaiters}
    {happening : Except SessionError Happening} (hp : e.point = .awaitingEvent first next)
    (h : e.happening? next = some happening) :
    Move e (e.handleHappening first next happening) := by
  cases happening with
  | error error => exact .fail (.happening hp h)
  | ok what =>
    cases what with
    | ended => exact move_enter (.terminated hp h)
    | paused event =>
      have hmove := Move.pause hp h
      cases first <;> exact hmove

/-- A step of a run that has to wait changes nothing. -/
theorem step_eq_of_isBlocked (h : e.isBlocked = true) : e.step = e := by
  cases hp : e.point with
  | awaitingReply errand call =>
    simp only [isBlocked, hp, Option.isNone_iff_eq_none] at h
    simp only [step, hp, stepReply, h]
  | awaitingResumed resumed next =>
    simp only [isBlocked, hp] at h
    cases hreceipt : e.connection.receipt resumed with
    | waiting => simp only [step, hp, stepResumed, hreceipt]
    | frame m => simp [hreceipt, Receipt.isWaiting] at h
    | closed => simp [hreceipt, Receipt.isWaiting] at h
  | awaitingEvent first next =>
    simp only [isBlocked, hp, Option.isNone_iff_eq_none] at h
    simp only [step, hp, stepEvent, h]
  | _ => simp [isBlocked, hp] at h

/-- Where no step is to be taken, a step changes nothing. -/
theorem step_eq_of_isAtRest (h : e.point.isAtRest = true) : e.step = e := by
  cases hp : e.point with
  | unstarted | finished | abandoned => simp only [step, hp]
  | _ => simp [hp, Point.isAtRest] at h

/-- Any other step is a move. -/
theorem move_step (hopen : e.isBlocked = false) (hrest : e.point.isAtRest = false) :
    Move e e.step := by
  cases hp : e.point with
  | unstarted | finished | abandoned => simp [hp, Point.isAtRest] at hrest
  | observing methods =>
    cases methods with
    | nil =>
      simp only [step, hp]
      exact move_enter (.configuring hp)
    | cons method rest =>
      simp only [step, hp]
      exact .observe hp
  | expectingContext =>
    simp only [step, hp]
    exact .expect (.context hp)
  | asking errand =>
    simp only [step, hp]
    exact .ask hp
  | awaitingReply errand call =>
    simp only [isBlocked, hp] at hopen
    simp only [step, hp, stepReply]
    split
    · rename_i outcome ho
      exact move_handleReply ⟨hp, Or.inl rfl, ho⟩
    · rename_i hnone
      simp [hnone] at hopen
  | readingContext created =>
    simp only [step, hp]
    split
    · rename_i m hreceipt
      exact .note hp hreceipt
    · rename_i hreceipt
      exact .noteNothing hp hreceipt
  | releasingContext created =>
    simp only [step, hp]
    exact .giveBack (.context hp)
  | configured =>
    simp only [step, hp]
    exact move_enter (.waitingForInitialPause hp)
  | expectingFirstPause =>
    simp only [step, hp]
    exact .expect (.firstPause hp)
  | expectingFirstEnd paused =>
    simp only [step, hp]
    exact .expect (.firstEnd hp)
  | awaitingEvent first next =>
    simp only [isBlocked, hp] at hopen
    simp only [step, hp, stepEvent]
    split
    · rename_i happening h
      exact move_handleHappening hp h
    · rename_i hnone
      simp [hnone] at hopen
  | releasingEvent waiters event =>
    cases waiters with
    | nil =>
      simp only [step, hp]
      exact .halt hp
    | cons id rest =>
      simp only [step, hp]
      exact .giveBack (.event hp)
  | halted first event =>
    simp only [step, hp, handleHalt]
    split
    · rename_i error hpause
      exact .fail (.frameless hp hpause)
    · rename_i pause hpause
      split
      · rename_i hskip
        exact .skip hp hpause hskip
      · rename_i hskip
        exact move_enter (.evaluating hp hpause (Bool.eq_false_iff.2 hskip))
  | discovering pause =>
    simp only [step, hp]
    exact .discover hp
  | resuming =>
    simp only [step, hp]
    exact move_enter (.resuming hp)
  | expectingResumed =>
    simp only [step, hp]
    exact .expect (.resumed hp)
  | expectingPause resumed =>
    simp only [step, hp]
    exact .expect (.pause hp)
  | expectingEnd resumed paused =>
    simp only [step, hp]
    exact .expect (.nextEnd hp)
  | awaitingResumed resumed next =>
    simp only [isBlocked, hp] at hopen
    simp only [step, hp, stepResumed]
    split
    · rename_i m hreceipt
      exact .acknowledge hp hreceipt
    · rename_i hreceipt
      exact .fail (.unacknowledged hp hreceipt)
    · rename_i hreceipt
      simp [hreceipt, Receipt.isWaiting] at hopen
  | releasingResumed resumed next =>
    simp only [step, hp]
    exact .giveBack (.resumed hp)
  | resumed next =>
    simp only [step, hp]
    exact move_enter (.waitingForPause hp)
  | unwinding outcome =>
    have hstep : e.step = e.unwind outcome := by simp only [step, hp]
    rw [hstep, unwind]
    split
    · rename_i id waiters hwaiters
      exact .releaseWaiter hp hwaiters
    · rename_i id observers hwaiters hobservers
      exact .releaseObserver hp hwaiters hobservers
    · rename_i hwaiters hobservers
      exact .conclude hp hwaiters hobservers

/-- A step is a move or changes nothing. -/
theorem step_cases (e : Engine) : e.step = e ∨ Move e e.step := by
  cases hblocked : e.isBlocked with
  | true => exact Or.inl (step_eq_of_isBlocked hblocked)
  | false =>
    cases hrest : e.point.isAtRest with
    | true => exact Or.inl (step_eq_of_isAtRest hrest)
    | false => exact Or.inr (move_step hblocked hrest)

/-- When the time of a wait is over, the engine makes a move or nothing changes. -/
theorem elapse_cases (e : Engine) : e.elapse = e ∨ Move e e.elapse := by
  cases hp : e.point with
  | awaitingReply errand call =>
    simp only [elapse, hp]
    split
    · rename_i outcome ho
      exact Or.inr (move_handleReply ⟨hp, Or.inr rfl, ho⟩)
    · exact Or.inl rfl
  | awaitingEvent first next =>
    simp only [elapse, hp]
    split
    · rename_i happening _ h
      exact Or.inr (move_handleHappening hp h)
    · rename_i bound hbound h
      exact Or.inr (.fail (.pauseTimeout hp hbound h))
    · exact Or.inl rfl
  | _ => exact Or.inl (by simp only [elapse, hp])

end Engine

end ValueTrace.Stepping
