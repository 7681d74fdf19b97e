import ValueTrace.Proofs.Stepping.Trace
import ValueTrace.Session.Result

/-!
# Noise

Much of what an inspector sends does not concern a run: texts that are no frames, responses that
nobody expects, and notifications of methods that no waiter listens for.  Such noise changes neither
the requests of the connection nor anything that a waiter of the run has, and these are all that the
engine looks at.  So a run with noise goes step by step like the run without it
(`Outset.exists_alike`), and sends, records and ends alike (`noise_is_not_heard`).

## Main definitions

* `Sees` : a connection on which the next step would be the same.
* `Alike` : a connection on which an engine would go on in the same way.
* `Engine.Ignores` : a text that changes nothing for the run.
* `Outset.Padded` : a sequence of events with further frames put in.
* `Engine.isNoise` : a text that does not concern any run.

## Main results

* `Sees.parallel_step` : a step of the engine on both connections.
* `Alike.apply` : the same event on both connections.
* `Alike.ignore` : a text that is ignored, on one of them.
* `Outset.exists_alike` : runs with and without the further frames.
* `noise_is_not_heard` : runs with and without noise.
-/

namespace ValueTrace.Stepping

open Inspector
open Json (Value)

variable {e e' d' : Engine} {c : Connection}

/-! ### An engine on another connection -/

namespace Engine

/-- The same engine on another connection. -/
def on (e : Engine) (c : Connection) : Engine := { e with connection := c }

@[simp] theorem on_connection (e : Engine) (c : Connection) : (e.on c).connection = c := rfl

@[simp] theorem on_point (e : Engine) (c : Connection) : (e.on c).point = e.point := rfl

@[simp] theorem on_state (e : Engine) (c : Connection) : (e.on c).state = e.state := rfl

@[simp] theorem on_session (e : Engine) (c : Connection) : (e.on c).session = e.session := rfl

@[simp] theorem on_settings (e : Engine) (c : Connection) : (e.on c).settings = e.settings := rfl

@[simp] theorem on_waiters (e : Engine) (c : Connection) : (e.on c).waiters = e.waiters := rfl

@[simp] theorem on_observers (e : Engine) (c : Connection) : (e.on c).observers = e.observers := rfl

@[simp] theorem on_held (e : Engine) (c : Connection) : (e.on c).held = e.held := rfl

/-! What a step does apart from its effect on the connection does not depend on the connection. -/

theorem enter_on (e : Engine) (c : Connection) (next : EngineState) (point : Point) :
    (e.on c).enter next point = (e.enter next point).on c := by
  rw [enter, enter, on_state, on_session]
  by_cases hstate : e.state.canTransitionTo next = true
  · rw [if_pos hstate, if_pos hstate]
    cases next.phase? with
    | none => rfl
    | some phase => cases hadvance : e.session.advance phase <;> simp only [hadvance] <;> rfl
  · rw [if_neg hstate, if_neg hstate]
    rfl

theorem evaluateNext_on (e : Engine) (c : Connection) (pause : Pause) (expressions : List String) :
    (e.on c).evaluateNext pause expressions = (e.evaluateNext pause expressions).on c := by
  cases expressions <;> rfl

theorem discover_on (e : Engine) (c : Connection) (pause : Pause) :
    (e.on c).discover pause = (e.discover pause).on c := by
  rw [discover, discover, on_session]
  by_cases hdiscovered : e.session.isDiscovered = true
  · rw [if_pos hdiscovered, if_pos hdiscovered]
  · rw [if_neg hdiscovered, if_neg hdiscovered]
    rfl

theorem noteContext_on (e : Engine) (c : Connection) (m : Inbound) :
    (e.on c).noteContext m = (e.noteContext m).on c := by
  cases m with
  | response r => rfl
  | notification n =>
    simp only [noteContext]
    cases n.decode contextCreated <;> rfl

theorem handleHalt_on (e : Engine) (c : Connection) (first : Bool) (event : PausedEvent) :
    (e.on c).handleHalt first event = (e.handleHalt first event).on c := by
  rw [handleHalt, handleHalt]
  cases Pause.ofEvent? event with
  | error error => rfl
  | ok pause =>
    have hskips : (e.on c).skips first pause = e.skips first pause := rfl
    simp only [hskips]
    by_cases hskip : e.skips first pause = true
    · rw [if_pos hskip, if_pos hskip]
      rfl
    · rw [if_neg hskip, if_neg hskip]
      exact e.enter_on c _ _

theorem handleReply_on (e : Engine) (c : Connection) (errand : Errand)
    (outcome : Except TransportError Value) :
    (e.on c).handleReply errand outcome = (e.handleReply errand outcome).on c := by
  cases errand with
  | setBreakpoint =>
    cases outcome with
    | error cause => rfl
    | ok result =>
      simp only [handleReply]
      cases decodeResult BreakpointResult.decoder Method.setBreakpointByUrl.name result <;> rfl
  | evaluate pause expression rest =>
    simp only [handleReply]
    cases evaluationRecord outcome with
    | error cause => rfl
    | ok record =>
      exact evaluateNext_on { e with session := e.session.record expression record } c pause rest
  | _ => cases outcome <;> rfl

theorem handleHappening_on (e : Engine) (c : Connection) (first : Bool) (next : EventWaiters)
    (happening : Except SessionError Happening) :
    (e.on c).handleHappening first next happening =
      (e.handleHappening first next happening).on c := by
  cases happening with
  | error error => rfl
  | ok what =>
    cases what with
    | ended => exact e.enter_on c _ _
    | paused event => cases first <;> rfl

theorem conclude_on (e : Engine) (c : Connection) (outcome : Except SessionError Nat) :
    (e.on c).conclude outcome = (e.conclude outcome).on c := by
  cases outcome <;> rfl

end Engine

/-! ### Two connections -/

/-- On this connection the engine finds all that its next step looks at as it is on its own: the
numbers to be given next, what its waiters have, and the answer that it waits for. -/
structure Sees (e : Engine) (c : Connection) : Prop where
  lastRequest : c.lastRequest = e.connection.lastRequest
  numbers : c.registry.lastSubscription = e.connection.registry.lastSubscription
  receipts : ∀ w ∈ e.held, c.receipt w.1 = e.connection.receipt w.1
  answer : ∀ errand call, e.point = .awaitingReply errand call →
    (c.readAnswer call).outcome? call = (e.connection.readAnswer call).outcome? call
  late : ∀ errand call, e.point = .awaitingReply errand call →
    (c.expire call).outcome? call = (e.connection.expire call).outcome? call

/-- On this connection the engine finds the same requests as on its own, and its waiters have the
same. -/
structure Alike (e : Engine) (c : Connection) : Prop where
  requests : SameRequests e.connection c
  numbers : c.registry.lastSubscription = e.connection.registry.lastSubscription
  receipts : ∀ w ∈ e.held, c.receipt w.1 = e.connection.receipt w.1

/-- Two engines go on in the same way, with the same operations on their connections. -/
def Parallel (e : Engine) (c : Connection) (e' d' : Engine) : Prop :=
  ∃ operations, e'.connection = e.connection.run operations ∧ d' = e'.on (c.run operations)

namespace Parallel

/-- A change that does not depend on the connection, after the same operations on both. -/
theorem of_commutes (f : Engine → Engine) (hf : ∀ c, f (e.on c) = (f e).on c)
    (operations : List Connection.Operation) (he : e' = f (e.on (e.connection.run operations)))
    (hd : d' = f (e.on (c.run operations))) : Parallel e c e' d' := by
  refine ⟨operations, ?_, ?_⟩
  · rw [he, hf]
    rfl
  · rw [hd, he, hf, hf]
    rfl

theorem refl : Parallel e c e (e.on c) :=
  .of_commutes id (fun _ => rfl) [] rfl rfl

theorem goTo (point : Point) : Parallel e c (e.goTo point) ((e.on c).goTo point) :=
  .of_commutes (fun e => e.goTo point) (fun _ => rfl) [] rfl rfl

theorem enter (next : EngineState) (point : Point) :
    Parallel e c (e.enter next point) ((e.on c).enter next point) :=
  .of_commutes (fun e => e.enter next point) (fun c => e.enter_on c next point) [] rfl rfl

theorem giveBack (id : SubscriptionId) (point : Point) :
    Parallel e c (e.giveBack id point) ((e.on c).giveBack id point) :=
  .of_commutes (fun e => { e with waiters := e.waiters.erase id, point }) (fun _ => rfl) [.off id]
    rfl rfl

theorem handleReply (operation : Connection.Operation) (errand : Errand)
    (outcome : Except TransportError Value) :
    Parallel e c ((e.on (e.connection.apply operation)).handleReply errand outcome)
      ((e.on (c.apply operation)).handleReply errand outcome) :=
  .of_commutes (fun e => e.handleReply errand outcome) (fun c => e.handleReply_on c errand outcome)
    [operation] rfl rfl

theorem handleHappening (first : Bool) (next : EventWaiters)
    (happening : Except SessionError Happening) :
    Parallel e c (e.handleHappening first next happening)
      ((e.on c).handleHappening first next happening) :=
  .of_commutes (fun e => e.handleHappening first next happening)
    (fun c => e.handleHappening_on c first next happening) [] rfl rfl

end Parallel

namespace Sees

/-- Waiters that have the same report the same. -/
theorem happening? (h : Sees e c) {first : Bool} {next : EventWaiters}
    (hp : e.point = .awaitingEvent first next) : (e.on c).happening? next = e.happening? next := by
  have hheld : e.held = next.waiters e.session.contextId := by
    rw [Engine.held, hp]
    rfl
  have hpaused := h.receipts (next.paused, methodIs Method.paused.name)
    (by rw [hheld]; exact List.mem_cons_self)
  have hended := h.receipts (next.ended, endsContext e.session.contextId)
    (by rw [hheld]; exact List.mem_cons_of_mem _ List.mem_cons_self)
  simp only [Engine.happening?, Engine.on_connection]
  rw [hpaused, hended]

/-- A new waiter has the same number on both connections. -/
theorem parallel_expect (h : Sees e c) (accepts : Inbound → Bool)
    (point : SubscriptionId → Point) :
    Parallel e c (e.expect accepts point) ((e.on c).expect accepts point) := by
  refine .of_commutes (fun e => { e with
      waiters := (c.registry.lastSubscription + 1) :: e.waiters
      point := point (c.registry.lastSubscription + 1) }) (fun _ => rfl) [.subscribe accepts] ?_ ?_
  · have hid := e.connection.subscribe_snd accepts
    rw [← h.numbers] at hid
    simp only [Engine.expect, ← hid]
    rfl
  · have hid := c.subscribe_snd accepts
    simp only [Engine.expect, ← hid]
    rfl

/-- A step is the same on both connections. -/
theorem parallel_step (h : Sees e c) : Parallel e c e.step (e.on c).step := by
  cases hp : e.point with
  | unstarted | finished | abandoned =>
    simp only [Engine.step, Engine.on_point, hp]
    exact .refl
  | observing methods =>
    cases methods with
    | nil =>
      simp only [Engine.step, Engine.on_point, hp]
      exact .enter ..
    | cons method rest =>
      refine .of_commutes (fun e => { e with
          observers := e.observers ++ [c.registry.lastSubscription + 1]
          point := .observing rest }) (fun _ => rfl) [.observe method.name] ?_ ?_
      · simp only [Engine.step, hp, h.numbers]
        rfl
      · simp only [Engine.step, Engine.on_point, hp]
        rfl
  | expectingContext | expectingFirstPause | expectingFirstEnd | expectingResumed | expectingPause
  | expectingEnd =>
    simp only [Engine.step, Engine.on_point, hp]
    exact h.parallel_expect _ _
  | asking errand =>
    refine .of_commutes (fun e => { e with
        point := .awaitingReply errand (c.lastRequest + 1) }) (fun _ => rfl)
      [.issue errand.method.name (e.params errand), .enroll (c.lastRequest + 1),
        .write (c.lastRequest + 1)] ?_ ?_
    · simp only [Engine.step, hp, h.lastRequest]
      rfl
    · simp only [Engine.step, Engine.on_point, hp]
      rfl
  | awaitingReply errand call =>
    simp only [Engine.step, Engine.on_point, hp, Engine.stepReply, Engine.on_connection,
      h.answer errand call hp]
    cases (e.connection.readAnswer call).outcome? call with
    | none => exact .refl
    | some outcome => exact .handleReply (.readAnswer call) errand outcome
  | readingContext created =>
    have hsame := h.receipts (created, methodIs Method.executionContextCreated.name)
      (by rw [Engine.held, hp]; exact List.mem_cons_self)
    simp only [Engine.step, Engine.on_point, hp, Engine.on_connection, hsame]
    cases e.connection.receipt created with
    | frame m =>
      refine .of_commutes (fun e => (e.noteContext m).goTo (.releasingContext created))
        (fun c => ?_) [] rfl rfl
      rw [e.noteContext_on c m]
      rfl
    | closed | waiting => exact .goTo _
  | releasingContext | releasingResumed =>
    simp only [Engine.step, Engine.on_point, hp]
    exact .giveBack ..
  | configured | resuming | resumed =>
    simp only [Engine.step, Engine.on_point, hp]
    exact .enter ..
  | awaitingEvent first next =>
    simp only [Engine.step, Engine.on_point, hp, Engine.stepEvent, h.happening? hp]
    cases e.happening? next with
    | none => exact .refl
    | some happening => exact .handleHappening ..
  | releasingEvent ids event =>
    simp only [Engine.step, Engine.on_point, hp]
    cases ids with
    | nil => exact .goTo _
    | cons id rest => exact .giveBack ..
  | halted first event =>
    simp only [Engine.step, Engine.on_point, hp]
    exact .of_commutes (fun e => e.handleHalt first event) (fun c => e.handleHalt_on c first event)
      [] rfl rfl
  | discovering pause =>
    simp only [Engine.step, Engine.on_point, hp]
    refine .of_commutes (fun e => (e.discover pause).evaluateNext pause
      (e.discover pause).session.tracked.expressions) (fun c => ?_) [] rfl rfl
    rw [e.discover_on c pause, Engine.evaluateNext_on]
    rfl
  | awaitingResumed resumed next =>
    have hsame := h.receipts (resumed, methodIs Method.resumed.name)
      (by rw [Engine.held, hp]; exact List.mem_cons_self)
    simp only [Engine.step, Engine.on_point, hp, Engine.stepResumed, Engine.on_connection, hsame]
    cases e.connection.receipt resumed with
    | frame m => exact .goTo _
    | closed => exact .goTo _
    | waiting => exact .refl
  | unwinding outcome =>
    simp only [Engine.step, Engine.on_point, hp, Engine.unwind, Engine.on_waiters,
      Engine.on_observers]
    split
    · rename_i id waiters hwaiters
      exact .of_commutes (fun e => { e with waiters, point := .unwinding outcome }) (fun _ => rfl)
        [.off id] rfl rfl
    · rename_i id observers hwaiters hobservers
      exact .of_commutes (fun e => { e with observers, point := .unwinding outcome })
        (fun _ => rfl) [.off id] rfl rfl
    · exact .of_commutes (fun e => e.conclude outcome) (fun c => e.conclude_on c outcome) [] rfl rfl

/-- The end of a wait's time is the same on both connections. -/
theorem parallel_elapse (h : Sees e c) : Parallel e c e.elapse (e.on c).elapse := by
  cases hp : e.point with
  | awaitingReply errand call =>
    simp only [Engine.elapse, Engine.on_point, hp, Engine.on_connection, h.late errand call hp]
    cases (e.connection.expire call).outcome? call with
    | none => exact .refl
    | some outcome => exact .handleReply (.expire call) errand outcome
  | awaitingEvent first next =>
    simp only [Engine.elapse, Engine.on_point, hp, Engine.on_settings, h.happening? hp]
    cases e.settings.pauseTimeout with
    | none => exact .refl
    | some bound =>
      cases e.happening? next with
      | none => exact .goTo _
      | some happening => exact .handleHappening ..
  | _ =>
    simp only [Engine.elapse, Engine.on_point, hp]
    exact .refl

end Sees

theorem outcome?_of_sameRequests {c d : Connection}
    (h : SameRequests c d) (id : RequestId) : d.outcome? id = c.outcome? id := by
  rw [Connection.outcome?, Connection.outcome?, Connection.call?, Connection.call?, h.calls]

namespace Alike

/-- The next step is the same on connections that are alike. -/
theorem sees (h : Alike e c) : Sees e c :=
  ⟨h.requests.lastRequest.symm, h.numbers, h.receipts,
    fun _ call _ => outcome?_of_sameRequests (h.requests.apply (.readAnswer call)) call,
    fun _ call _ => outcome?_of_sameRequests (h.requests.apply (.expire call)) call⟩

/-- What the engine does by itself, in the same way on both connections, leaves them alike. -/
theorem own (h : Alike e c) (hwaiting : Waiting e) (hwaiting' : Waiting (e.on c))
    (he : e' = e ∨ Move e e') (hd : d' = e.on c ∨ Move (e.on c) d') (hp : Parallel e c e' d') :
    ∃ d, d' = e'.on d ∧ Alike e' d := by
  obtain ⟨operations, hconnection, hd'⟩ := hp
  refine ⟨c.run operations, hd', ?_, ?_, fun w hw => ?_⟩
  · rw [hconnection]
    exact h.requests.run operations
  · rw [hconnection, Connection.lastSubscription_run, Connection.lastSubscription_run, h.numbers]
  · have hother : d'.connection.receipt w.1 = (c.run operations).receipt w.1 := by
      rw [hd', Engine.on_connection]
    have hw' : w ∈ d'.held := by
      rw [hd', Engine.on_held]
      exact hw
    have hclosed : e.connection.isClosed = c.isClosed := h.requests.closed
    have hold {v : SubscriptionId × (Inbound → Bool)} (hv : v ∈ e.held) :
        v.1 ≠ e.connection.registry.lastSubscription + 1 :=
      Nat.ne_of_lt (Nat.lt_succ_of_le (hwaiting.waits v hv).numbered)
    rw [← hother]
    -- An old waiter and a new one have different numbers, so it is the same on both sides.
    rcases hwaiting.receipt_own he hw with ⟨hkept, hreceipt⟩ | ⟨hnew, hreceipt⟩ <;>
      rcases hwaiting'.receipt_own hd hw' with ⟨hkept', hreceipt'⟩ | ⟨hnew', hreceipt'⟩
    · rw [hreceipt, hreceipt']
      exact h.receipts w hkept
    · rw [Engine.on_connection, h.numbers] at hnew'
      exact absurd hnew' (hold hkept)
    · exact absurd hnew (hold hkept')
    · rw [hreceipt, hreceipt', hclosed]
      rfl

/-- An event is the same on both connections, and leaves them alike. -/
theorem apply (h : Alike e c) (hwaiting : Waiting e) (hwaiting' : Waiting (e.on c))
    (event : Event) :
    ∃ d, (e.on c).apply event = (e.apply event).on d ∧ Alike (e.apply event) d := by
  cases event with
  | step =>
    exact h.own hwaiting hwaiting' e.step_cases (e.on c).step_cases h.sees.parallel_step
  | elapse =>
    exact h.own hwaiting hwaiting' e.elapse_cases (e.on c).elapse_cases h.sees.parallel_elapse
  | frame text =>
    refine ⟨c.receive text, rfl, h.requests.apply (.receive text), ?_, fun w hw => ?_⟩
    · have hnumber := c.lastSubscription_apply (.receive text)
      rw [h.numbers, ← e.connection.lastSubscription_apply (.receive text)] at hnumber
      exact hnumber
    · have hreceipt' := hwaiting'.receipt_frame text hw
      rw [Engine.on_connection, h.receipts w hw] at hreceipt'
      exact hreceipt'.trans (hwaiting.receipt_frame text hw).symm
  | hangUp =>
    refine ⟨c.hangUp, rfl, h.requests.apply .hangUp, ?_, fun w hw => ?_⟩
    · have hnumber := c.lastSubscription_apply .hangUp
      rw [h.numbers, ← e.connection.lastSubscription_apply .hangUp] at hnumber
      exact hnumber
    · have hreceipt' := (hwaiting'.waits w hw).receipt_hangUp hwaiting'.numbered
      rw [Engine.on_connection, h.receipts w hw] at hreceipt'
      exact hreceipt'.trans ((hwaiting.waits w hw).receipt_hangUp hwaiting.numbered).symm

end Alike

/-! ### Texts that are ignored -/

/-- A text changes nothing for a run: it is no frame, or it answers no request and no waiter of the
run accepts it. -/
def Engine.Ignores (e : Engine) (text : String) : Prop :=
  ∀ m, Inbound.ofText? text = .ok m →
    e.connection.registry.reply? m = none ∧ ∀ w ∈ e.held, w.2 m = false

/-- A text that is ignored leaves the connections alike. -/
theorem Alike.ignore (h : Alike e c) (hwaiting : Waiting (e.on c)) {text : String}
    (hignores : (e.on c).Ignores text) : Alike e (c.receive text) := by
  have hnumber := c.lastSubscription_apply (.receive text)
  refine ⟨?_, hnumber.trans h.numbers, fun w hw => ?_⟩
  · rw [Connection.receive]
    cases ht : Inbound.ofText? text with
    | error error => exact h.requests.trans ⟨rfl, rfl, rfl, rfl, rfl, rfl⟩
    | ok m => exact h.requests.trans (sameRequests_dispatch (hignores m ht).1)
  · have hreceipt := hwaiting.receipt_frame text hw
    have hkept : afterEvent w.2 (c.receipt w.1) (.frame text) = c.receipt w.1 := by
      rw [afterEvent]
      cases ht : Inbound.ofText? text with
      | error error => rfl
      | ok m =>
        have hrefuses : w.2 m = false := (hignores m ht).2 w hw
        cases hr : c.receipt w.1 <;> simp [Receipt.after, hrefuses]
    exact (hreceipt.trans hkept).trans (h.receipts w hw)

/-! ### Runs with further frames -/

/-- A sequence of events with further frames put in at any places.  What frames may be put in
depends on the engine that they reach. -/
inductive Outset.Padded (o : Outset) (further : Engine → String → Prop) :
    List Event → List Event → Prop
  | nil : Padded o further [] []
  | both {events padded} (h : Padded o further events padded) (event : Event) :
      Padded o further (events ++ [event]) (padded ++ [event])
  | put {events padded} (h : Padded o further events padded) (text : String)
      (hfurther : further (o.run padded) text) :
      Padded o further events (padded ++ [.frame text])

namespace Outset.Padded

variable {o : Outset} {further : Engine → String → Prop} {events padded : List Event}

theorem append (h : o.Padded further events padded) (more : List Event) :
    o.Padded further (events ++ more) (padded ++ more) := by
  induction more using List.reverseRecOn with
  | nil => simpa only [List.append_nil] using h
  | append_singleton more event ih =>
    rw [← List.append_assoc, ← List.append_assoc]
    exact ih.both event

theorem refl (events : List Event) : o.Padded further events events := by
  have h : o.Padded further ([] ++ events) ([] ++ events) := nil.append events
  simpa only [List.nil_append] using h

end Outset.Padded

/-- If further frames are ignored, the run with them is the run without them, on a connection that
is alike. -/
theorem Outset.exists_alike (o : Outset) {further : Engine → String → Prop}
    (hignores : ∀ e text, further e text → e.Ignores text) {events padded : List Event}
    (h : o.Padded further events padded) :
    ∃ c, o.run padded = (o.run events).on c ∧ Alike (o.run events) c := by
  induction h with
  | nil => exact ⟨o.engine.connection, rfl, ⟨rfl, rfl, rfl, rfl, rfl, rfl⟩, rfl, fun _ _ => rfl⟩
  | @both events padded _ event ih =>
    obtain ⟨c, hrun, halike⟩ := ih
    have hwaiting := o.waiting_run padded
    rw [hrun] at hwaiting
    obtain ⟨d, happly, hnext⟩ := halike.apply (o.waiting_run events) hwaiting event
    rw [o.run_concat, o.run_concat, hrun]
    exact ⟨d, happly, hnext⟩
  | @put events padded _ text hfurther ih =>
    obtain ⟨c, hrun, halike⟩ := ih
    have hwaiting := o.waiting_run padded
    rw [hrun] at hwaiting hfurther
    rw [o.run_concat, hrun]
    exact ⟨c.receive text, rfl, halike.ignore hwaiting (hignores _ text hfurther)⟩

/-! ### Noise -/

/-- The methods of which a run waits for any notification. -/
def plainMethods : List Method := [.paused, .resumed, .executionContextCreated]

/-- Every waiter of a run waits for any notification of a method, or for the end of the context. -/
theorem Point.accepts_of_mem_waiters {point : Point} {context : Option Int}
    {w : SubscriptionId × (Inbound → Bool)} (hw : w ∈ point.waiters context) :
    w.2 = endsContext context ∨ ∃ method ∈ plainMethods, w.2 = methodIs method.name := by
  revert w
  have hplain (method : Method) (hmethod : method ∈ plainMethods) :
      methodIs method.name = endsContext context ∨
        ∃ other ∈ plainMethods, methodIs method.name = methodIs other.name :=
    Or.inr ⟨method, hmethod, rfl⟩
  have hpaused := hplain .paused (by decide)
  have hresumed := hplain .resumed (by decide)
  have hcreated := hplain .executionContextCreated (by decide)
  cases point with
  | asking errand | awaitingReply errand _ =>
    cases errand <;>
      simp [Point.waiters, Errand.waiters, EventWaiters.waiters, hpaused, hresumed, hcreated]
  | _ => simp [Point.waiters, EventWaiters.waiters, hpaused, hresumed, hcreated]

/-- Whether a text does not concern the run: it is no frame, or a response to a request that is not
pending, or a notification that no waiter of any run listens for. -/
def Engine.isNoise (e : Engine) (text : String) : Bool :=
  match Inbound.ofText? text with
  | .error _ => true
  | .ok (.response r) => !e.connection.registry.isExpected r.id
  | .ok (.notification n) =>
    (Method.executionContextDestroyed :: plainMethods).all fun method => n.method ≠ method.name

/-- Noise is ignored. -/
theorem Engine.ignores_of_isNoise {text : String} (h : e.isNoise text = true) : e.Ignores text := by
  intro m ht
  simp only [isNoise, ht] at h
  cases m with
  | response r =>
    refine ⟨(Registry.reply?_eq_none_iff _ _).2 fun id hid => ?_, fun w hw => ?_⟩
    · obtain rfl : r.id = id := Option.some.inj hid
      simpa using h
    · rcases Point.accepts_of_mem_waiters hw with heq | ⟨method, -, heq⟩ <;> rw [heq]
      · rfl
      · exact decide_eq_false fun hmethod => by cases hmethod
  | notification n =>
    have hother (method : Method) (hm : method ∈ Method.executionContextDestroyed :: plainMethods) :
        n.method ≠ method.name := of_decide_eq_true (List.all_eq_true.1 h method hm)
    refine ⟨rfl, fun w hw => ?_⟩
    rcases Point.accepts_of_mem_waiters hw with heq | ⟨method, hmethod, heq⟩ <;> rw [heq]
    · simp [endsContext, hother .executionContextDestroyed List.mem_cons_self]
    · simp [methodIs, Inbound.method?, hother method (List.mem_cons_of_mem _ hmethod)]

/-- Noise does not disturb a run.  When texts that are no frames, responses to requests that are not
pending, and notifications that no waiter listens for are put in at any places of any sequence of
events, the run sends the same requests in the same order, and they fare in the same way; its
outcome is the same, and so are the states of engine and session, the breakpoint, the candidates,
the histories and the result. -/
theorem noise_is_not_heard (o : Outset) {quiet noisy : List Event}
    (h : o.Padded (fun e text => e.isNoise text = true) quiet noisy) :
    let e := o.run quiet
    let e' := o.run noisy
    e'.connection.written = e.connection.written ∧
    e'.connection.requests = e.connection.requests ∧
    (∀ id, e'.connection.outcome? id = e.connection.outcome? id) ∧
    e'.outcome? = e.outcome? ∧ e'.state = e.state ∧ e'.breakpointId = e.breakpointId ∧
    e'.session.candidates? = e.session.candidates? ∧ e'.session.tracked = e.session.tracked ∧
    e'.session = e.session ∧
    TraceResult.ofSession e'.session e'.pauses = TraceResult.ofSession e.session e.pauses := by
  intro e e'
  obtain ⟨c, hrun, halike⟩ := o.exists_alike (fun _ _ => Engine.ignores_of_isNoise) h
  have he' : e' = e.on c := hrun
  rw [he']
  refine ⟨halike.requests.written.symm, ?_, outcome?_of_sameRequests halike.requests, rfl, rfl, rfl,
    rfl, rfl, rfl, rfl⟩
  rw [Connection.requests, Connection.requests, halike.requests.calls]
  rfl

/-- A text that is no frame, a response with a number that was not given, one to a request that has
been answered, and something that the debuggee says. -/
def sampleNoise : List String :=
  ["no frame", (Inbound.response ⟨99, none, none⟩).text, (Inbound.response ⟨1, none, none⟩).text,
    (Inbound.notification ⟨Method.consoleApiCalled.name, .null⟩).text]

/-- The finished sample with noise near its beginning. -/
def sampleNoisy : List Event :=
  sampleFinished.take 12 ++ sampleNoise.map .frame ++ sampleFinished.drop 12

/-- The finished sample ends in the same way with noise. -/
theorem noise_is_not_heard_sample :
    sample.Padded (fun e text => e.isNoise text = true) sampleFinished sampleNoisy ∧
      (sample.run sampleNoisy).outcome? = some (.ok 1) ∧
      (sample.run sampleNoisy).session = (sample.run sampleFinished).session := by
  have hpadded :
      sample.Padded (fun e text => e.isNoise text = true) sampleFinished sampleNoisy := by
    have hbefore : sample.Padded (fun e text => e.isNoise text = true)
        (sampleFinished.take 12) (sampleFinished.take 12) := .refl _
    have h := (((hbefore.put "no frame" (by decide +kernel)).put
      (Inbound.response ⟨99, none, none⟩).text (by decide +kernel)).put
      (Inbound.response ⟨1, none, none⟩).text (by decide +kernel)).put
      (Inbound.notification ⟨Method.consoleApiCalled.name, .null⟩).text (by decide +kernel)
    have hall := h.append (sampleFinished.drop 12)
    rw [List.take_append_drop] at hall
    exact hall
  obtain ⟨-, -, -, houtcome, -, -, -, -, hsession, -⟩ := noise_is_not_heard sample hpadded
  exact ⟨hpadded, houtcome.trans sampleFinished_facts.1, hsession⟩

end ValueTrace.Stepping
