import ValueTrace.Proofs.Inspector.Sending
import ValueTrace.Proofs.Inspector.Waiting
import ValueTrace.Proofs.Stepping.Moves

/-!
# Runs and what they do to the connection

A run of the engine on a connection is a history of that connection: every move is a sequence of
operations in which no frame arrives, and which leaves alone all waiters but the one that is given
back (`Move.exists_operations`).  What is true of all histories is therefore true of all runs.

## Main definitions

* `Outset` : what a run starts from.
* `Engine.returning` : what the next move gives back.
* `Engine.Operates` : how a move changes the connection.

## Main results

* `Engine.run_induction` : what every event preserves holds throughout a run.
-/

namespace ValueTrace.Stepping

open Inspector
open Json (Value)

/-- What a run starts from: an engine that has not run, a session that has not begun, and a
connection with any past. -/
structure Outset where
  settings : EngineSettings
  program : Program
  /-- How long a request may wait for its answer. -/
  requestBound : Option Duration
  /-- What has happened to the connection before. -/
  past : List Connection.Operation
  id : Nat
  target : FilePath
  workingDir : FilePath
  /-- The line of the cursor, from 0. -/
  line : UInt32

/-- The connection at the start of a run. -/
def Outset.connection (o : Outset) : Connection := (Connection.opened o.requestBound).run o.past

/-- The engine at the start of its run. -/
def Outset.engine (o : Outset) : Engine :=
  (Engine.start o.settings o.program o.connection
    (.start o.id o.target o.workingDir o.line)).begin

/-- The engine after a sequence of events. -/
def Outset.run (o : Outset) (events : List Event) : Engine := o.engine.run events

/-- Whether a request is made next. -/
def Point.isAsking : Point → Bool
  | .asking _ => true
  | _ => false

theorem Point.exists_of_isAsking {point : Point} (h : point.isAsking = true) :
    ∃ errand, point = .asking errand := by
  cases point <;> simp [isAsking] at h ⊢

/-! ### Events -/

namespace Engine

theorem run_append (e : Engine) (first second : List Event) :
    e.run (first ++ second) = (e.run first).run second :=
  List.foldl_append

theorem run_cons (e : Engine) (event : Event) (events : List Event) :
    e.run (event :: events) = (e.apply event).run events := rfl

/-- An event changes only the connection, or it is a move of the engine. -/
theorem apply_cases (e : Engine) (event : Event) :
    (∃ connection, e.apply event = { e with connection }) ∨ Move e (e.apply event) := by
  cases event with
  | frame text => exact Or.inl ⟨_, rfl⟩
  | hangUp => exact Or.inl ⟨_, rfl⟩
  | step => exact e.step_cases.imp_left fun hsame => ⟨e.connection, hsame⟩
  | elapse => exact e.elapse_cases.imp_left fun hsame => ⟨e.connection, hsame⟩

/-- What holds at the start of a run, and is preserved by every frame, by the end of the connection
and by every move of the engine, holds throughout the run. -/
theorem run_induction {P : Engine → Prop} {e : Engine} (events : List Event) (hstart : P e)
    (hframe : ∀ e text, P e → P { e with connection := e.connection.receive text })
    (hhangUp : ∀ e, P e → P { e with connection := e.connection.hangUp })
    (hmove : ∀ e e', P e → Move e e' → P e') : P (e.run events) := by
  induction events generalizing e with
  | nil => exact hstart
  | cons event rest ih =>
    refine ih ?_
    cases event with
    | frame text => exact hframe e text hstart
    | hangUp => exact hhangUp e hstart
    | step =>
      rcases e.step_cases with hsame | hmoved
      · simpa only [apply, hsame] using hstart
      · exact hmove e _ hstart hmoved
    | elapse =>
      rcases e.elapse_cases with hsame | hmoved
      · simpa only [apply, hsame] using hstart
      · exact hmove e _ hstart hmoved

/-- A run with an outcome is over. -/
theorem point_of_outcome? {e : Engine} {outcome : Except SessionError Nat}
    (h : e.outcome? = some outcome) : e.point = .finished outcome := by
  rw [outcome?] at h
  split at h
  · rename_i found hp
    rw [hp, Option.some.inj h]
  · exact absurd h (by simp)

/-! ### Parts of moves -/

/-- To go on with the expressions at a pause changes at most the number of pauses and the point. -/
theorem evaluateNext_eq (e : Engine) (pause : Pause) (expressions : List String) :
    ∃ pauses point, e.evaluateNext pause expressions = { e with pauses, point } := by
  cases expressions with
  | nil => exact ⟨_, _, rfl⟩
  | cons expression rest => exact ⟨_, _, rfl⟩

/-- Discovery changes at most the session. -/
theorem discover_eq (e : Engine) (pause : Pause) :
    ∃ session, e.discover pause = { e with session } := by
  rw [discover]
  split
  · exact ⟨e.session, rfl⟩
  · exact ⟨_, rfl⟩

@[simp] theorem evaluateNext_session (e : Engine) (pause : Pause) (expressions : List String) :
    (e.evaluateNext pause expressions).session = e.session := by
  cases expressions <;> rfl

@[simp] theorem evaluateNext_halts (e : Engine) (pause : Pause) (expressions : List String) :
    (e.evaluateNext pause expressions).halts = e.halts := by
  cases expressions <;> rfl

@[simp] theorem evaluateNext_breakpointId (e : Engine) (pause : Pause)
    (expressions : List String) :
    (e.evaluateNext pause expressions).breakpointId = e.breakpointId := by
  cases expressions <;> rfl

@[simp] theorem discover_halts (e : Engine) (pause : Pause) :
    (e.discover pause).halts = e.halts := by
  rw [discover]
  split <;> rfl

@[simp] theorem discover_breakpointId (e : Engine) (pause : Pause) :
    (e.discover pause).breakpointId = e.breakpointId := by
  rw [discover]
  split <;> rfl

/-- To note a context changes at most the session. -/
theorem noteContext_eq (e : Engine) (m : Inbound) :
    ∃ session, e.noteContext m = { e with session } := by
  unfold noteContext
  split
  · exact ⟨e.session, rfl⟩
  · split
    · exact ⟨_, rfl⟩
    · exact ⟨e.session, rfl⟩

/-- The end of a run leaves the connection alone. -/
theorem conclude_connection (e : Engine) (outcome : Except SessionError Nat) :
    (e.conclude outcome).connection = e.connection := by
  cases outcome <;> rfl

/-! ### Moves as operations on the connection -/

/-- The subscription that the next move gives back. -/
def returning (e : Engine) : Option SubscriptionId :=
  match e.point with
  | .releasingContext created => some created
  | .releasingEvent (id :: _) _ => some id
  | .releasingResumed resumed _ => some resumed
  | .unwinding _ => (e.waiters ++ e.observers).head?
  | _ => none

/-- A connection comes from the one of an engine by operations that spare all waiters but the one
that the next move gives back, and that make no request unless this is what the move is for. -/
def Operates (e : Engine) (c : Connection) : Prop :=
  ∃ operations, c = e.connection.run operations ∧ ∀ operation ∈ operations,
    (∀ id, e.returning ≠ some id → operation.spares id = true) ∧
      (e.point.isAsking = false → operation.asks = false)

variable {e : Engine} {c : Connection}

theorem operates_of_eq (h : c = e.connection) : e.Operates c := ⟨[], h, by simp⟩

theorem operates_of_apply (operation : Connection.Operation)
    (h : c = e.connection.apply operation)
    (hspares : ∀ id, e.returning ≠ some id → operation.spares id = true)
    (hasks : operation.asks = false) : e.Operates c :=
  ⟨[operation], h, fun _ hop => List.mem_singleton.1 hop ▸ ⟨hspares, fun _ => hasks⟩⟩

theorem operates_of_release {id : SubscriptionId} (h : c = e.connection.release id)
    (hreturning : e.returning = some id) : e.Operates c := by
  refine operates_of_apply (.off id) h (fun other hne => decide_eq_true fun hid => ?_) rfl
  exact hne (hreturning.trans (congrArg some hid))

end Engine

theorem Answered.operates {e : Engine} {errand : Errand} {call : RequestId}
    {connection : Connection} {outcome : Except TransportError Value}
    (h : Answered e errand call connection outcome) : e.Operates connection := by
  rcases h.came with hread | hexpired
  · exact Engine.operates_of_apply (.readAnswer call) hread (fun _ _ => rfl) rfl
  · exact Engine.operates_of_apply (.expire call) hexpired (fun _ _ => rfl) rfl

theorem Trouble.operates {e : Engine} {connection : Connection} {error : SessionError}
    (h : Trouble e connection error) : e.Operates connection := by
  cases h with
  | configuration h => exact h.operates
  | breakpoint h => exact h.operates
  | resume h => exact h.operates
  | evaluation h => exact h.operates
  | unacknowledged => exact Engine.operates_of_eq rfl
  | happening => exact Engine.operates_of_eq rfl
  | pauseTimeout => exact Engine.operates_of_eq rfl
  | frameless => exact Engine.operates_of_eq rfl

theorem Return.returning {e : Engine} {id : SubscriptionId} {point : Point}
    (h : Return e id point) : e.returning = some id := by
  cases h with
  | context hp => simp only [Engine.returning, hp]
  | event hp => simp only [Engine.returning, hp]
  | resumed hp => simp only [Engine.returning, hp]

namespace Engine

variable {e : Engine} {outcome : Except SessionError Nat}

theorem returning_of_waiters {id : SubscriptionId} {waiters : List SubscriptionId}
    (hp : e.point = .unwinding outcome) (hwaiters : e.waiters = id :: waiters) :
    e.returning = some id := by
  simp only [returning, hp, hwaiters, List.cons_append, List.head?_cons]

theorem returning_of_observers {id : SubscriptionId} {observers : List SubscriptionId}
    (hp : e.point = .unwinding outcome) (hwaiters : e.waiters = [])
    (hobservers : e.observers = id :: observers) : e.returning = some id := by
  simp only [returning, hp, hwaiters, hobservers, List.nil_append, List.head?_cons]

end Engine

/-- A move is a sequence of operations on the connection. -/
theorem Move.operates {e e' : Engine} (h : Move e e') : e.Operates e'.connection := by
  cases h with
  | observe hp => exact Engine.operates_of_apply (.observe _) rfl (fun _ _ => rfl) rfl
  | enter => exact Engine.operates_of_eq rfl
  | refuse => exact Engine.operates_of_eq rfl
  | expect => exact Engine.operates_of_apply (.subscribe _) rfl (fun _ _ => rfl) rfl
  | giveBack h => exact Engine.operates_of_release rfl h.returning
  | @ask errand hp =>
    refine ⟨[.issue errand.method.name (e.params errand), .enroll (e.connection.lastRequest + 1),
      .write (e.connection.lastRequest + 1)], rfl, fun operation hop => ⟨fun id _ => ?_, ?_⟩⟩
    · simp only [List.mem_cons, List.not_mem_nil, or_false] at hop
      rcases hop with rfl | rfl | rfl <;> rfl
    · intro hquiet
      rw [hp] at hquiet
      exact Bool.noConfusion hquiet
  | proceed h => exact h.operates
  | install h => exact h.operates
  | record h =>
    obtain ⟨pauses, point, heq⟩ := Engine.evaluateNext_eq _ _ _
    rw [heq]
    exact h.operates
  | note =>
    obtain ⟨session, heq⟩ := e.noteContext_eq _
    rw [heq]
    exact Engine.operates_of_eq rfl
  | noteNothing => exact Engine.operates_of_eq rfl
  | pause => exact Engine.operates_of_eq rfl
  | halt => exact Engine.operates_of_eq rfl
  | skip => exact Engine.operates_of_eq rfl
  | @discover pause hp =>
    obtain ⟨pauses, point, heq⟩ := Engine.evaluateNext_eq (e.discover pause) pause
      (e.discover pause).session.tracked.expressions
    obtain ⟨session, hdiscover⟩ := e.discover_eq pause
    rw [heq, hdiscover]
    exact Engine.operates_of_eq rfl
  | acknowledge => exact Engine.operates_of_eq rfl
  | fail h => exact h.operates
  | releaseWaiter hp hwaiters =>
    exact Engine.operates_of_release rfl (Engine.returning_of_waiters hp hwaiters)
  | releaseObserver hp hwaiters hobservers =>
    exact Engine.operates_of_release rfl (Engine.returning_of_observers hp hwaiters hobservers)
  | conclude => exact Engine.operates_of_eq (e.conclude_connection _)

namespace Engine

/-- No frame arrives in a move, and the connection does not end. -/
theorem exists_operations_of_move {e e' : Engine} (h : Move e e') :
    ∃ operations, e'.connection = e.connection.run operations ∧
      ∀ operation ∈ operations, operation ≠ .hangUp ∧ ∀ text, operation ≠ .receive text := by
  obtain ⟨operations, heq, hspares⟩ := h.operates
  refine ⟨operations, heq, fun operation hop => ?_⟩
  obtain ⟨id, hid⟩ : ∃ id, e.returning ≠ some id := by
    refine ⟨e.returning.getD 0 + 1, fun h => ?_⟩
    rw [h, Option.getD_some] at h
    exact absurd (Option.some.inj h) (Nat.ne_of_lt (Nat.lt_succ_self _))
  have hspared := (hspares operation hop).1 id hid
  constructor
  · rintro rfl
    exact Bool.noConfusion hspared
  · rintro text rfl
    exact Bool.noConfusion hspared

/-- What an event does to the connection is a history of it, and without a frame no frame arrives
there. -/
theorem exists_operations_apply (e : Engine) (event : Event) :
    ∃ operations, (e.apply event).connection = e.connection.run operations ∧
      ((∀ text, event ≠ .frame text) →
        ∀ operation ∈ operations, ∀ text, operation ≠ .receive text) := by
  have hown {e' : Engine} (h : e' = e ∨ Move e e') :
      ∃ operations, e'.connection = e.connection.run operations ∧
        ∀ operation ∈ operations, ∀ text, operation ≠ .receive text := by
    rcases h with rfl | hmove
    · exact ⟨[], rfl, by simp⟩
    · obtain ⟨operations, heq, hno⟩ := exists_operations_of_move hmove
      exact ⟨operations, heq, fun operation hop => (hno operation hop).2⟩
  cases event with
  | frame text => exact ⟨[.receive text], rfl, fun h => absurd rfl (h text)⟩
  | hangUp => exact ⟨[.hangUp], rfl, by simp⟩
  | step =>
    obtain ⟨operations, heq, hno⟩ := hown e.step_cases
    exact ⟨operations, heq, fun _ => hno⟩
  | elapse =>
    obtain ⟨operations, heq, hno⟩ := hown e.elapse_cases
    exact ⟨operations, heq, fun _ => hno⟩

/-- A run is a history of the connection. -/
theorem exists_operations_run (e : Engine) (events : List Event) :
    ∃ operations, (e.run events).connection = e.connection.run operations := by
  induction events generalizing e with
  | nil => exact ⟨[], rfl⟩
  | cons event rest ih =>
    obtain ⟨first, hfirst, -⟩ := e.exists_operations_apply event
    obtain ⟨second, hsecond⟩ := ih (e.apply event)
    refine ⟨first ++ second, ?_⟩
    rw [run_cons, hsecond, hfirst, Connection.run_append]

end Engine

namespace Outset

variable (o : Outset)

theorem run_append (first second : List Event) :
    o.run (first ++ second) = (o.run first).run second :=
  o.engine.run_append first second

theorem run_concat (events : List Event) (event : Event) :
    o.run (events ++ [event]) = (o.run events).apply event :=
  o.run_append events [event]

/-- The numbers of subscriptions are in order throughout a run. -/
theorem numbered_run (events : List Event) : Numbered (o.run events).connection := by
  obtain ⟨operations, heq⟩ := o.engine.exists_operations_run events
  have hconnection : (o.run events).connection =
      (Connection.opened o.requestBound).run (o.past ++ operations) := by
    rw [Connection.run_append]
    exact heq
  rw [hconnection]
  exact (numbered_opened _).run _

/-- A response arrives in a sequence of events while the request with its number expects it.  This
is the answer to the request: from then on no other response is expected. -/
def Arrives (events : List Event) (id : RequestId) (r : Response) : Prop :=
  ∃ before text after, events = before ++ .frame text :: after ∧
    Inbound.ofText? text = .ok (.response r) ∧ r.id = id ∧
    (o.run before).connection.registry.isExpected id = true

/-- With one more event, a response that answers has arrived before or arrives with the event. -/
theorem arrives_concat_iff {events : List Event} {event : Event} {id : RequestId} {r : Response} :
    o.Arrives (events ++ [event]) id r ↔ o.Arrives events id r ∨ ∃ text, event = .frame text ∧
      Inbound.ofText? text = .ok (.response r) ∧ r.id = id ∧
      (o.run events).connection.registry.isExpected id = true := by
  constructor
  · rintro ⟨before, text, after, hsplit, hr⟩
    rcases List.eq_nil_or_concat after with rfl | ⟨rest, last, rfl⟩
    · obtain ⟨rfl, hlast⟩ := List.append_inj' hsplit rfl
      exact Or.inr ⟨text, List.singleton_inj.1 hlast, hr⟩
    · rw [List.concat_eq_append, ← List.cons_append, ← List.append_assoc] at hsplit
      obtain ⟨rfl, -⟩ := List.append_inj' hsplit rfl
      exact Or.inl ⟨before, text, rest, rfl, hr⟩
  · rintro (⟨before, text, after, rfl, hr⟩ | ⟨text, rfl, hr⟩)
    · exact ⟨before, text, after ++ [event], by rw [List.append_assoc, List.cons_append], hr⟩
    · exact ⟨events, text, [], rfl, hr⟩

/-- The requests of a run stand as they should, and those made in the run have the answers that
arrive in it. -/
theorem exists_accounts_run (events : List Event) :
    ∃ reply, Accounts (o.run events).connection reply ∧
      ∀ id r, o.connection.lastRequest < id → (reply id = some r ↔ o.Arrives events id r) := by
  induction events using List.reverseRecOn with
  | nil =>
    have haccounts := accounts_run o.requestBound o.past
    refine ⟨_, haccounts, fun id r hid => ⟨fun hr => ?_, fun h => ?_⟩⟩
    · rw [haccounts.unissued id fun call hcall heq => ?_] at hr
      · exact absurd hr (by simp)
      · have hle := (haccounts.exists_call_iff.1 ⟨call, hcall, heq⟩).2
        exact absurd hid (Nat.not_lt_of_le hle)
    · obtain ⟨before, text, after, hsplit, -⟩ := h
      exact absurd hsplit (by simp)
  | append_singleton events event ih =>
    obtain ⟨reply, haccounts, hreply⟩ := ih
    have hrun := o.run_concat events event
    by_cases hframe : ∃ text, event = .frame text
    · obtain ⟨text, rfl⟩ := hframe
      have hnext := haccounts.apply (.receive text)
      have hconnection : (o.run (events ++ [.frame text])).connection =
          (o.run events).connection.apply (.receive text) := by
        rw [hrun]
        rfl
      rw [← hconnection] at hnext
      refine ⟨_, hnext, fun id r hid => ?_⟩
      rw [arrives_concat_iff, ← hreply id r hid, Option.or_eq_some_iff,
        Connection.replyIn?_eq_some_iff]
      refine or_congr Iff.rfl ⟨?_, ?_⟩
      · rintro ⟨-, text', htext, ht⟩
        obtain rfl := Connection.Operation.receive.inj htext
        exact ⟨text, rfl, ht⟩
      · rintro ⟨text', htext, ht, hrid, hexpected⟩
        obtain rfl := Event.frame.inj htext
        exact ⟨haccounts.unanswered_of_expected hexpected, text, rfl, ht, hrid, hexpected⟩
    · obtain ⟨operations, heq, hsilent⟩ := (o.run events).exists_operations_apply event
      have hkept := haccounts.run_silent (hsilent fun text h => hframe ⟨text, h⟩)
      rw [← heq, ← hrun] at hkept
      refine ⟨reply, hkept, fun id r hid => ?_⟩
      rw [arrives_concat_iff, hreply id r hid]
      exact ⟨Or.inl, fun h => h.resolve_right fun ⟨text, h, _⟩ => hframe ⟨text, h⟩⟩

variable {o} in
/-- A request made in a run has one answer at most. -/
theorem Arrives.unique {events : List Event} {id : RequestId} {r r' : Response}
    (h : o.Arrives events id r) (h' : o.Arrives events id r')
    (hid : o.connection.lastRequest < id) : r = r' := by
  obtain ⟨reply, -, hreply⟩ := o.exists_accounts_run events
  exact Option.some.inj (((hreply id r hid).2 h).symm.trans ((hreply id r' hid).2 h'))

/-- The outcome of a request made in a run is its answer, or there is none. -/
theorem outcome_cases (events : List Event) {q : Request}
    (hq : q ∈ (o.run events).connection.requests) (hsince : o.connection.lastRequest < q.id)
    {outcome : Except TransportError Value}
    (houtcome : (o.run events).connection.outcome? q.id = some outcome) :
    (∃ r, o.Arrives events q.id r ∧ outcome = r.outcomeFor q.method) ∨
      outcome = .error .closed ∨ ∃ limit, outcome = .error (.timeout q.method q.id limit) := by
  obtain ⟨reply, haccounts, hreply⟩ := o.exists_accounts_run events
  obtain ⟨call, hcall, rfl⟩ := List.mem_map.1 hq
  have hfound : (o.run events).connection.call? call.id = some call :=
    haccounts.call?_eq_some_iff.2 ⟨hcall, rfl⟩
  have hover : call.outcome? = some outcome := by
    have hcalled : (o.run events).connection.outcome? call.id = some outcome := houtcome
    rw [Connection.outcome?, hfound, Option.bind_some] at hcalled
    exact hcalled
  rcases (haccounts.standing call hcall).outcome_cases (outcome?_eq_some_iff.1 hover) with
    ⟨r, hr, heq⟩ | ⟨heq, -⟩ | ⟨limit, -, heq, -⟩
  · exact Or.inl ⟨r, (hreply call.id r hsince).1 hr, heq⟩
  · exact Or.inr (Or.inl heq)
  · exact Or.inr (Or.inr ⟨limit, heq⟩)

end Outset

/-- An engine works for what its run started from. -/
structure WorksFor (e : Engine) (o : Outset) : Prop where
  settings : e.settings = o.settings
  program : e.program = o.program
  breakpoint : e.session.breakpoint = .at o.target o.line

theorem Move.worksFor {e e' : Engine} {o : Outset} (h : Move e e') (hw : WorksFor e o) :
    WorksFor e' o := by
  obtain ⟨hsettings, hprogram, hbreakpoint⟩ := hw
  cases h with
  | enter hentry _ =>
    refine ⟨hsettings, hprogram, ?_⟩
    rw [enterPhase]
    split <;> exact hbreakpoint
  | record =>
    obtain ⟨pauses, point, heq⟩ := Engine.evaluateNext_eq _ _ _
    rw [heq]
    exact ⟨hsettings, hprogram, hbreakpoint⟩
  | note =>
    unfold Engine.noteContext
    split
    · exact ⟨hsettings, hprogram, hbreakpoint⟩
    · split <;> exact ⟨hsettings, hprogram, hbreakpoint⟩
  | @discover pause hp =>
    obtain ⟨pauses, point, heq⟩ := Engine.evaluateNext_eq (e.discover pause) pause
      (e.discover pause).session.tracked.expressions
    rw [heq]
    rw [Engine.discover]
    split <;> exact ⟨hsettings, hprogram, hbreakpoint⟩
  | @conclude outcome =>
    cases outcome with
    | ok pauses => exact ⟨hsettings, hprogram, hbreakpoint⟩
    | error error =>
      refine ⟨hsettings, hprogram, ?_⟩
      change e.session.fail.breakpoint = _
      rw [Session.fail]
      split <;> exact hbreakpoint
  | _ => exact ⟨hsettings, hprogram, hbreakpoint⟩

/-- A run works for what it started from. -/
theorem Outset.worksFor_run (o : Outset) (events : List Event) : WorksFor (o.run events) o :=
  Engine.run_induction (P := (WorksFor · o)) events ⟨rfl, rfl, rfl⟩
    (fun _ _ h => ⟨h.settings, h.program, h.breakpoint⟩)
    (fun _ h => ⟨h.settings, h.program, h.breakpoint⟩) fun _ _ h hmove => hmove.worksFor h

/-! ### A run to look at -/

/-- The engine takes some steps. -/
def steps (n : Nat) : List Event := List.replicate n .step

/-- The answer to a request arrives. -/
def Event.answer (id : RequestId) (result : Option Value) : Event :=
  .frame (Inbound.response ⟨id, result, none⟩).text

/-- News of the debuggee arrive. -/
def Event.news (method : Method) (members : List (String × Value)) : Event :=
  .frame (Inbound.notification ⟨method.name, .object members⟩).text

/-- The debuggee has halted, because of some breakpoints. -/
def Event.halt (hitBreakpoints : List String) : Event :=
  .news .paused
    [("callFrames", .array [.object
      [("callFrameId", .string "top"), ("location", .object [("lineNumber", .ofNat 2)])]]),
     ("hitBreakpoints", .array (hitBreakpoints.map .string))]

/-- A context of the debuggee has ended. -/
def Event.contextEnd (id : Nat) : Event :=
  .news .executionContextDestroyed [("executionContextId", .ofNat id)]

/-- A program with one expression above the cursor, and all settings as they are by default. -/
def sample : Outset where
  settings := .default
  program := ⟨.other "Program" none [.identifier "x" ⟨⟨1, 0⟩, ⟨1, 1⟩⟩]⟩
  requestBound := none
  past := []
  id := 1
  target := ⟨[]⟩
  workingDir := ⟨[]⟩
  line := 2

/-- The debugger is configured, and the debuggee, whose context is 1, runs. -/
def sampleStart : List Event :=
  steps 6 ++ [.answer 1 none] ++
  steps 2 ++
  [.news .executionContextCreated [("context", .object [("id", .ofNat 1)])], .answer 2 none] ++
  steps 4 ++ [.answer 3 none] ++
  steps 2 ++ [.answer 4 (some (.object [("breakpointId", .string "line 2")]))] ++
  steps 5 ++ [.answer 5 none] ++ steps 1

end ValueTrace.Stepping
