import ValueTrace.Proofs.Stepping.Waiters

/-!
# The requests of a run

The engine makes a request only where it is about to, and then waits for the answer to just this
request (`Outset.asked_run`).  It never has to wait on a connection that has ended
(`Outset.isClosed_eq_false_of_isBlocked`).

## Main definitions

* `Engine.Accounted` : the requests of the connection stand as they should.
* `Asked` : the request that the engine waits for has been made.

## Main results

* `Outset.run_induction` : what every event preserves holds throughout a run.
-/

namespace ValueTrace.Stepping

open Inspector
open Json (Value)

variable {e e' : Engine}

/-! ### Moves and requests -/

/-- From a point where a request is made next, the only move is to make it. -/
theorem Move.eq_ask (h : Move e e') {errand : Errand} (hp : e.point = .asking errand) :
    e' = e.ask errand := by
  have hno {point : Point} (h : e.point = point) : point = .asking errand := h.symm.trans hp
  cases h with
  | ask hp' =>
    obtain rfl := Point.asking.inj (hno hp')
    rfl
  | enter hentry _ => cases hentry <;> exact Point.noConfusion (hno ‹e.point = _›)
  | refuse hentry _ => cases hentry <;> exact Point.noConfusion (hno ‹e.point = _›)
  | expect hw => cases hw <;> exact Point.noConfusion (hno ‹e.point = _›)
  | giveBack hr => cases hr <;> exact Point.noConfusion (hno ‹e.point = _›)
  | proceed ha _ => exact Point.noConfusion (hno ha.point)
  | install ha _ => exact Point.noConfusion (hno ha.point)
  | record ha _ => exact Point.noConfusion (hno ha.point)
  | fail ht =>
    have hopen : ∀ {errand call connection outcome},
        ¬ Answered e errand call connection outcome := fun ha => Point.noConfusion (hno ha.point)
    cases ht with
    | configuration ha _ => exact absurd ha hopen
    | breakpoint ha _ => exact absurd ha hopen
    | resume ha => exact absurd ha hopen
    | evaluation ha _ => exact absurd ha hopen
    | _ => exact Point.noConfusion (hno ‹e.point = _›)
  | _ => exact Point.noConfusion (hno ‹e.point = _›)

/-- Any other move leaves the log of the requests and the written texts alone. -/
theorem Move.requests (h : Move e e') (hquiet : e.point.isAsking = false) :
    e'.connection.requests = e.connection.requests ∧
      e'.connection.written = e.connection.written := by
  obtain ⟨operations, heq, hops⟩ := h.operates
  rw [heq]
  exact Connection.requests_run fun operation hop => (hops operation hop).2 hquiet

/-- Where no request is made next, a move does not lead to waiting for an answer. -/
theorem Move.not_awaitingReply (h : Move e e') (hquiet : e.point.isAsking = false)
    (errand : Errand) (call : RequestId) : e'.point ≠ .awaitingReply errand call := by
  cases h with
  | ask hp =>
    rw [hp] at hquiet
    exact Bool.noConfusion hquiet
  | enter hentry _ => cases hentry <;> simp
  | expect hw => cases hw <;> simp [Engine.expect]
  | giveBack hr => cases hr <;> simp [Engine.giveBack]
  | @proceed errand' call' connection result point ha hn =>
    cases errand' <;> simp only [Errand.next?, Option.some.injEq, reduceCtorEq] at hn
    all_goals
      subst hn
      simp
  | @pause first => cases first <;> simp
  | @record pause expression rest => cases rest <;> simp [Engine.evaluateNext, Engine.goTo]
  | @discover pause hp =>
    cases (e.discover pause).session.tracked.expressions <;>
      simp [Engine.evaluateNext, Engine.goTo]
  | releaseWaiter hp _ => simp [hp]
  | releaseObserver hp _ _ => simp [hp]
  | @conclude outcome => cases outcome <;> simp [Engine.conclude, Engine.goTo]
  | _ => simp [Engine.goTo]

/-! ### Accounts throughout a run -/

/-- The requests of the engine's connection stand as they should. -/
def Engine.Accounted (e : Engine) : Prop := ∃ reply, Accounts e.connection reply

theorem Engine.Accounted.apply (h : e.Accounted) (event : Event) : (e.apply event).Accounted := by
  obtain ⟨reply, haccounts⟩ := h
  obtain ⟨operations, heq⟩ := e.exists_operations_run [event]
  have hconnection : (e.apply event).connection = e.connection.run operations := heq
  rw [Engine.Accounted, hconnection]
  exact haccounts.exists_run operations

/-- A move keeps the numbers and the outcomes of requests. -/
theorem Move.keeps (h : Move e e') (ha : e.Accounted) :
    e'.Accounted ∧ e.connection.lastRequest ≤ e'.connection.lastRequest ∧
      ∀ id outcome, e.connection.outcome? id = some outcome →
        e'.connection.outcome? id = some outcome := by
  obtain ⟨reply, haccounts⟩ := ha
  obtain ⟨operations, heq, -⟩ := h.operates
  rw [Engine.Accounted, heq]
  exact ⟨haccounts.exists_run operations, haccounts.lastRequest_le_run operations,
    fun _ _ houtcome => haccounts.outcome?_run operations houtcome⟩

/-- What holds of an engine, and is preserved by every frame, by the end of the connection and by
every move as long as the requests stand as they should, holds throughout its run. -/
theorem Engine.Accounted.run_induction {P : Engine → Prop} (ha : e.Accounted)
    (events : List Event) (hstart : P e)
    (hframe : ∀ e text, e.Accounted → P e → P { e with connection := e.connection.receive text })
    (hhangUp : ∀ e, e.Accounted → P e → P { e with connection := e.connection.hangUp })
    (hmove : ∀ e e', e.Accounted → P e → Move e e' → P e') : P (e.run events) := by
  suffices hboth : (e.run events).Accounted ∧ P (e.run events) from hboth.2
  refine Engine.run_induction (P := fun e => e.Accounted ∧ P e) events ⟨ha, hstart⟩ ?_ ?_ ?_
  · rintro e text ⟨⟨reply, h⟩, hP⟩
    exact ⟨⟨_, h.apply (.receive text)⟩, hframe e text ⟨reply, h⟩ hP⟩
  · rintro e ⟨⟨reply, h⟩, hP⟩
    exact ⟨⟨_, h.hangUp⟩, hhangUp e ⟨reply, h⟩ hP⟩
  · rintro e e' ⟨h, hP⟩ hmoved
    exact ⟨(hmoved.keeps h).1, hmove e e' h hP hmoved⟩

/-- What holds at the start of a run, and is preserved by every frame, by the end of the connection
and by every move as long as the requests stand as they should, holds throughout the run. -/
theorem Outset.run_induction (o : Outset) {P : Engine → Prop} (events : List Event)
    (hstart : P o.engine)
    (hframe : ∀ e text, e.Accounted → P e → P { e with connection := e.connection.receive text })
    (hhangUp : ∀ e, e.Accounted → P e → P { e with connection := e.connection.hangUp })
    (hmove : ∀ e e', e.Accounted → P e → Move e e' → P e') : P (o.run events) :=
  Engine.Accounted.run_induction ⟨_, accounts_run _ o.past⟩ events hstart hframe hhangUp hmove

/-! ### The request that the engine waits for -/

/-- Whether the caller of a request waits or has had its outcome. -/
def Progress.isCalled : Progress → Bool
  | .written | .finished _ => true
  | _ => false

/-- The request that the engine waits for has been made, and has not been abandoned. -/
def Asked (e : Engine) : Prop :=
  ∀ errand call, e.point = .awaitingReply errand call →
    ∃ k ∈ e.connection.calls, k.request = ⟨call, errand.method.name, e.params errand⟩ ∧
      Progress.isCalled k.progress = true

namespace Asked

/-- A change that keeps what was asked, and how far it has come, keeps the request. -/
theorem of_map (h : Asked e) (hpoint : e'.point = e.point) (hparams : e'.params = e.params)
    {change : Call → Call} (hcalls : e'.connection.calls = e.connection.calls.map change)
    (hchange : ∀ call, (change call).request = call.request ∧
      (change call).progress = call.progress) : Asked e' := by
  intro errand call hp
  obtain ⟨k, hk, hrequest, hcalled⟩ := h errand call (hpoint ▸ hp)
  refine ⟨change k, hcalls ▸ List.mem_map_of_mem hk, ?_, ?_⟩
  · rw [(hchange k).1, hrequest, hparams]
  · rw [(hchange k).2, hcalled]

theorem move (ha : e.Accounted) (hmove : Move e e') : Asked e' := by
  intro errand call hp
  cases hasking : e.point.isAsking with
  | false => exact absurd hp (hmove.not_awaitingReply hasking errand call)
  | true =>
    obtain ⟨errand', hp'⟩ := Point.exists_of_isAsking hasking
    obtain rfl := hmove.eq_ask hp'
    obtain ⟨reply, haccounts⟩ := ha
    obtain ⟨rfl, rfl⟩ := Point.awaitingReply.inj hp
    have hcalls := haccounts.calls_send errand'.method.name (e.params errand')
    refine ⟨e.connection.sentCall errand'.method.name (e.params errand'), ?_, rfl, ?_⟩
    · change _ ∈ (e.connection.send errand'.method.name (e.params errand')).1.calls
      rw [hcalls]
      exact List.mem_append_right _ (List.mem_singleton_self _)
    · rw [Connection.sentCall]
      split <;> rfl

end Asked

/-- Throughout a run, the request that the engine waits for has been made. -/
theorem Outset.asked_run (o : Outset) (events : List Event) : Asked (o.run events) := by
  refine o.run_induction events (fun errand call hp => Point.noConfusion hp) ?_ ?_
    fun e e' ha _ hmove => Asked.move ha hmove
  · intro e text _ h
    obtain ⟨change, hcalls, hchange⟩ := e.connection.exists_calls_receive text
    exact h.of_map rfl rfl hcalls hchange
  · intro e _ h
    obtain ⟨change, hcalls, hchange⟩ := e.connection.exists_calls_hangUp
    exact h.of_map rfl rfl hcalls hchange

/-- The only moves from a wait for an answer are those with the outcome of the request. -/
theorem Move.exists_outcome (h : Move e e') {errand : Errand} {call : RequestId}
    (hp : e.point = .awaitingReply errand call) :
    ∃ outcome, e'.connection.outcome? call = some outcome := by
  have hno {point : Point} (h : e.point = point) : point = .awaitingReply errand call :=
    h.symm.trans hp
  have hanswered {errand' : Errand} {call' : RequestId} {connection : Connection}
      {outcome : Except TransportError Value} (ha : Answered e errand' call' connection outcome) :
      ∃ outcome, connection.outcome? call = some outcome := by
    obtain ⟨-, rfl⟩ := Point.awaitingReply.inj (hno ha.point)
    exact ⟨outcome, ha.outcome⟩
  cases h with
  | proceed ha _ => exact hanswered ha
  | install ha _ => exact hanswered ha
  | record ha _ =>
    obtain ⟨pauses, point, heq⟩ := Engine.evaluateNext_eq _ _ _
    rw [heq]
    exact hanswered ha
  | fail ht =>
    cases ht with
    | configuration ha _ => exact hanswered ha
    | breakpoint ha _ => exact hanswered ha
    | resume ha => exact hanswered ha
    | evaluation ha _ => exact hanswered ha
    | _ => exact Point.noConfusion (hno ‹e.point = _›)
  | enter hentry _ => cases hentry <;> exact Point.noConfusion (hno ‹e.point = _›)
  | refuse hentry _ => cases hentry <;> exact Point.noConfusion (hno ‹e.point = _›)
  | expect hw => cases hw <;> exact Point.noConfusion (hno ‹e.point = _›)
  | giveBack hr => cases hr <;> exact Point.noConfusion (hno ‹e.point = _›)
  | _ => exact Point.noConfusion (hno ‹e.point = _›)

/-- Every request of the run that is expected is the one that the engine waits for. -/
def AwaitsExpected (since : RequestId) (e : Engine) : Prop :=
  ∀ call, since < call → e.connection.registry.isExpected call = true →
    ∃ errand, e.point = .awaitingReply errand call

/-- Every move keeps it so. -/
theorem AwaitsExpected.move {since : RequestId} (h : AwaitsExpected since e) (ha : e.Accounted)
    (hmove : Move e e') : AwaitsExpected since e' := by
  intro call hsince hexpected
  cases hasking : e.point.isAsking with
  | true =>
    obtain ⟨errand, hp⟩ := Point.exists_of_isAsking hasking
    rw [hmove.eq_ask hp] at hexpected ⊢
    have hrun : (e.ask errand).connection = e.connection.run
        [.issue errand.method.name (e.params errand), .enroll (e.connection.lastRequest + 1),
          .write (e.connection.lastRequest + 1)] := rfl
    rw [hrun] at hexpected
    rcases Connection.isExpected_of_run hexpected with hbefore | hnew
    · obtain ⟨errand', hp'⟩ := h call hsince hbefore
      exact Point.noConfusion (hp.symm.trans hp')
    · simp only [List.mem_cons, List.not_mem_nil, reduceCtorEq, false_or, or_false,
        Connection.Operation.enroll.injEq] at hnew
      exact ⟨errand, hnew ▸ rfl⟩
  | false =>
    obtain ⟨operations, heq, hops⟩ := hmove.operates
    rw [heq] at hexpected
    rcases Connection.isExpected_of_run hexpected with hbefore | hnew
    · -- The engine has waited for the request, so it has its outcome now.
      obtain ⟨errand, hp⟩ := h call hsince hbefore
      obtain ⟨outcome, houtcome⟩ := hmove.exists_outcome hp
      obtain ⟨reply, haccounts⟩ := (hmove.keeps ha).1
      rw [← heq, haccounts.isExpected_eq_false houtcome] at hexpected
      exact Bool.noConfusion hexpected
    · exact Bool.noConfusion ((hops _ hnew).2 hasking)

/-- Throughout a run, a request made in the run is expected only while the engine waits for its
answer. -/
theorem Outset.awaitsExpected_run (o : Outset) (events : List Event) :
    AwaitsExpected o.connection.lastRequest (o.run events) := by
  refine o.run_induction events (fun call hsince hexpected => ?_)
    (fun e text _ h call hsince hexpected => ?_) (fun e _ h call hsince hexpected => ?_)
    fun e e' ha h hmove => h.move ha hmove
  · have haccounts := accounts_run o.requestBound o.past
    obtain ⟨p, hp, rfl⟩ := (Registry.isExpected_iff _ _).1 hexpected
    obtain ⟨k, hk, hid, -⟩ := haccounts.pending p hp
    exact absurd (haccounts.exists_call_iff.1 ⟨k, hk, hid⟩).2 (Nat.not_le_of_lt hsince)
  · rcases Connection.isExpected_of_apply (.receive text) hexpected with h' | h'
    · exact h call hsince h'
    · exact Connection.Operation.noConfusion h'
  · rcases Connection.isExpected_of_apply .hangUp hexpected with h' | h'
    · exact h call hsince h'
    · exact Connection.Operation.noConfusion h'

/-! ### The written texts -/

/-- A request that is made on an open connection is written, and it is the latest one. -/
theorem Engine.written_ask (ha : e.Accounted) (hopen : e.connection.isClosed = false)
    (errand : Errand) : ∃ q, (e.ask errand).connection.written = e.connection.written ++ [q] ∧
      q.method = errand.method.name := by
  obtain ⟨reply, haccounts⟩ := ha
  exact ⟨_, (haccounts.send_open hopen errand.method.name (e.params errand)).2, rfl⟩

/-- Texts are only added, and one is added when a request is made on an open connection. -/
theorem Engine.written_apply (ha : e.Accounted) (event : Event) :
    ∃ added, (e.apply event).connection.written = e.connection.written ++ added ∧
      (e.point.isAsking = true → (e.apply event).point.isAsking = false →
        e.connection.isClosed = false → added ≠ []) := by
  have hown {e' : Engine} (hsame : e' = e ∨ Move e e') :
      ∃ added, e'.connection.written = e.connection.written ++ added ∧
        (e.point.isAsking = true → e'.point.isAsking = false →
          e.connection.isClosed = false → added ≠ []) := by
    rcases hsame with rfl | hmove
    · exact ⟨[], (List.append_nil _).symm, fun h h' => absurd (h.symm.trans h') (by simp)⟩
    · cases hasking : e.point.isAsking with
      | false =>
        exact ⟨[], by rw [(hmove.requests hasking).2, List.append_nil],
          fun h => Bool.noConfusion h⟩
      | true =>
        obtain ⟨errand, hp⟩ := Point.exists_of_isAsking hasking
        obtain rfl := hmove.eq_ask hp
        cases hclosed : e.connection.isClosed with
        | false =>
          obtain ⟨q, hwritten, -⟩ := written_ask ha hclosed errand
          exact ⟨[q], hwritten, fun _ _ _ => List.cons_ne_nil _ _⟩
        | true =>
          obtain ⟨reply, haccounts⟩ := ha
          refine ⟨[], ?_, fun _ _ h => Bool.noConfusion h⟩
          rw [List.append_nil]
          exact (haccounts.send_closed hclosed errand.method.name (e.params errand)).2
  cases event with
  | step => exact hown e.step_cases
  | elapse => exact hown e.elapse_cases
  | frame text =>
    refine ⟨[], ?_, fun h h' => absurd (h.symm.trans h') (by simp)⟩
    rw [List.append_nil]
    exact (e.connection.requests_apply (.receive text) rfl).2
  | hangUp =>
    exact ⟨[], (List.append_nil _).symm, fun h h' => absurd (h.symm.trans h') (by simp)⟩

theorem Engine.written_length_le_run (ha : e.Accounted) (events : List Event) :
    e.connection.written.length ≤ (e.run events).connection.written.length := by
  induction events generalizing e with
  | nil => exact Nat.le_refl _
  | cons event rest ih =>
    obtain ⟨added, hwritten, -⟩ := written_apply ha event
    refine Nat.le_trans ?_ (ih (ha.apply event))
    rw [hwritten, List.length_append]
    exact Nat.le_add_right _ _

/-- A connection that is still open was open before. -/
theorem Engine.isClosed_of_run (events : List Event)
    (h : (e.run events).connection.isClosed = false) : e.connection.isClosed = false := by
  obtain ⟨operations, heq⟩ := e.exists_operations_run events
  rw [heq] at h
  exact Connection.isClosed_of_run operations h

/-- Two waiters that belong to the point after their request was written on a connection that is
still open, belonged to the point as long as no other request has been written. -/
theorem Engine.next?_of_written {next : EventWaiters} {events : List Event} (ha : e.Accounted)
    (hrun : (e.run events).point.next? = some next)
    (hasked : (e.run events).point.isAsking = false)
    (hopen : (e.run events).connection.isClosed = false)
    (hlength : e.connection.written.length = (e.run events).connection.written.length) :
    e.point.next? = some next ∧ e.point.isAsking = false := by
  induction events generalizing e with
  | nil => exact ⟨hrun, hasked⟩
  | cons event rest ih =>
    obtain ⟨added, hwritten, hadded⟩ := written_apply ha event
    have hle := written_length_le_run (ha.apply event) rest
    have hnil : added = [] := by
      rw [← run_cons, ← hlength, hwritten, List.length_append] at hle
      exact List.length_eq_zero_iff.1 (Nat.le_zero.1 (Nat.le_of_add_le_add_left hle))
    rw [hnil, List.append_nil] at hwritten
    obtain ⟨hnext, hquiet⟩ :=
      ih (ha.apply event) hrun hasked hopen (by rw [hwritten]; exact hlength)
    have hlive : e.connection.isClosed = false := isClosed_of_run (event :: rest) hopen
    rcases next?_of_apply hnext with ⟨hbefore, -⟩ | ⟨-, hnew⟩
    · refine ⟨hbefore, Bool.eq_false_iff.2 fun hasking => ?_⟩
      exact hadded hasking hquiet hlive hnil
    · exact absurd hnew (Bool.eq_false_iff.1 hquiet)

/-- Once the request that lets the debuggee run has been made, it is the latest text, unless the
connection has ended. -/
def LetRun (e : Engine) : Prop :=
  ∀ next, e.point.next? = some next → e.point.isAsking = false →
    e.connection.isClosed = false → ∃ q, e.connection.written.getLast? = some q ∧
      (q.method = Method.runIfWaitingForDebugger.name ∨ q.method = Method.resume.name)

theorem Outset.letRun_run (o : Outset) (events : List Event) : LetRun (o.run events) := by
  refine o.run_induction events (fun next hnext => by simp [Outset.engine, Engine.begin,
    Point.next?] at hnext) ?_ ?_ ?_
  · intro e text _ h next hnext hasked hopen
    have hbefore := Connection.isClosed_of_run [.receive text] hopen
    have hwritten : (e.connection.receive text).written = e.connection.written :=
      (e.connection.requests_apply (.receive text) rfl).2
    rw [hwritten]
    exact h next hnext hasked hbefore
  · intro e _ h next hnext hasked hopen
    have hbefore := Connection.isClosed_of_run [.hangUp] hopen
    exact h next hnext hasked hbefore
  · intro e e' ha h hmove next hnext hasked hopen
    have hbefore : e.connection.isClosed = false := by
      obtain ⟨operations, heq, -⟩ := hmove.operates
      rw [heq] at hopen
      exact Connection.isClosed_of_run operations hopen
    cases hasking : e.point.isAsking with
    | false =>
      rcases hmove.next? hnext with ⟨hold, -⟩ | ⟨-, hnew⟩
      · rw [(hmove.requests hasking).2]
        exact h next hold hasking hbefore
      · exact absurd hnew (Bool.eq_false_iff.1 hasked)
    | true =>
      obtain ⟨errand, hp⟩ := Point.exists_of_isAsking hasking
      obtain rfl := hmove.eq_ask hp
      obtain ⟨q, hwritten, hmethod⟩ := Engine.written_ask ha hbefore errand
      refine ⟨q, by rw [hwritten, List.getLast?_concat], ?_⟩
      cases errand with
      | release next' => exact Or.inl hmethod
      | resume resumed next' => exact Or.inr hmethod
      | _ => simp [Engine.ask, Point.next?] at hnext

/-! ### Waits and the end of the connection -/

/-- A request that has been made is written and unanswered if there is no outcome when its caller
looks for it. -/
theorem written_of_outcome?_readAnswer {c : Connection} {reply : RequestId → Option Response}
    (h : Accounts c reply) {call : Call} (hcall : call ∈ c.calls)
    (hcalled : Progress.isCalled call.progress = true)
    (hnone : (c.readAnswer call.id).outcome? call.id = none) :
    call.progress = .written ∧ call.answer = none := by
  have hread : (c.readAnswer call.id).call? call.id = some call.readAnswer := by
    rw [(h.readAnswer call.id).call?_eq_some_iff]
    refine ⟨List.mem_map.2 ⟨call, hcall, if_pos rfl⟩, ?_⟩
    exact congrArg Request.id call.continues_readAnswer.1
  rw [Connection.outcome?, hread, Option.bind_some] at hnone
  cases hp : call.progress with
  | finished outcome => simp [Call.readAnswer, hp, Call.outcome?] at hnone
  | written =>
    refine ⟨rfl, Option.eq_none_iff_forall_ne_some.2 fun answer hanswer => ?_⟩
    simp [Call.readAnswer, hp, hanswer, Call.outcome?] at hnone
  | _ => simp [hp, Progress.isCalled] at hcalled

/-- On a closed connection, the answer to a request is there when its caller looks for it. -/
theorem outcome?_readAnswer_of_closed {c : Connection} {reply : RequestId → Option Response}
    (h : Accounts c reply) (hclosed : c.isClosed = true) {call : Call} (hcall : call ∈ c.calls)
    (hcalled : Progress.isCalled call.progress = true) :
    ((c.readAnswer call.id).outcome? call.id).isSome = true := by
  rw [Option.isSome_iff_ne_none]
  intro hnone
  obtain ⟨hwritten, hanswer⟩ := written_of_outcome?_readAnswer h hcall hcalled hnone
  have hopen := ((h.standing call hcall).of_unanswered (by rw [hwritten]; rfl) hanswer).2.1
  exact absurd hclosed (Bool.eq_false_iff.1 hopen)

/-- A run that has to wait has an open connection. -/
theorem Outset.isClosed_eq_false_of_isBlocked (o : Outset) (events : List Event)
    (h : (o.run events).isBlocked = true) : (o.run events).connection.isClosed = false := by
  have hwaiting := o.waiting_run events
  have hreceipt {w : SubscriptionId × (Inbound → Bool)} (hw : w ∈ (o.run events).held)
      (hr : (o.run events).connection.receipt w.1 = .waiting) :
      (o.run events).connection.isClosed = false :=
    (hwaiting.waits w hw).isClosed_eq_false hwaiting.numbered hr
  cases hp : (o.run events).point with
  | awaitingReply errand call =>
    rw [Bool.eq_false_iff]
    intro hclosed
    obtain ⟨reply, haccounts, -⟩ := o.exists_accounts_run events
    obtain ⟨k, hk, hrequest, hcalled⟩ := o.asked_run events errand call hp
    obtain rfl : k.id = call := congrArg Request.id hrequest
    have hsome := outcome?_readAnswer_of_closed haccounts hclosed hk hcalled
    simp only [Engine.isBlocked, hp, Option.isNone_iff_eq_none] at h
    rw [h] at hsome
    exact Bool.noConfusion hsome
  | awaitingResumed resumed next =>
    refine hreceipt (w := (resumed, methodIs Method.resumed.name)) ?_ ?_
    · rw [Engine.held, hp]
      exact List.mem_cons_self
    · simp only [Engine.isBlocked, hp] at h
      cases hr : (o.run events).connection.receipt resumed <;> simp [hr, Receipt.isWaiting] at h ⊢
  | awaitingEvent first next =>
    refine hreceipt (w := (next.paused, methodIs Method.paused.name)) ?_ ?_
    · rw [Engine.held, hp]
      exact List.mem_cons_self
    · simp only [Engine.isBlocked, hp, Engine.happening?] at h
      cases hr : (o.run events).connection.receipt next.paused with
      | waiting => rfl
      | frame m => simp [hr] at h
      | closed => cases he : (o.run events).connection.receipt next.ended <;> simp [hr, he] at h
  | _ => simp [Engine.isBlocked, hp] at h

end ValueTrace.Stepping
