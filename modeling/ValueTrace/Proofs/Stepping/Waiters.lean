import Mathlib.Data.List.TakeWhile
import ValueTrace.Proofs.Stepping.Runs

/-!
# The waiters of a run

At every point of a run the engine holds certain waiters, in the order in which they began to wait.
A move adds one at the end, or gives one back, or leaves them alone, so that what they have follows
from the frames that arrive (`Outset.waiting_run`, `Engine.receipts_run`).

## Main definitions

* `Point.waiters` : the waiters that belong to a point.
* `Waiting` : the waiters of an engine are in order.
* `Point.next?` : the waiters for what the debuggee does next.
* `Receipt.afterEvent` : what a waiter has after an event.
* `heard` : the frames that arrive before the connection ends.
-/

namespace ValueTrace.Stepping

open Inspector

/-- The waiters for the next pause and the end of the debuggee, with what they accept. -/
def EventWaiters.waiters (next : EventWaiters) (context : Option Int) :
    List (SubscriptionId × (Inbound → Bool)) :=
  [(next.paused, methodIs Method.paused.name), (next.ended, endsContext context)]

/-- The waiters that wait while a request is made, with what they accept. -/
def Errand.waiters (errand : Errand) (context : Option Int) :
    List (SubscriptionId × (Inbound → Bool)) :=
  match errand with
  | .enableDebugger created | .enableRuntime created =>
    [(created, methodIs Method.executionContextCreated.name)]
  | .release next => next.waiters context
  | .resume resumed next => (resumed, methodIs Method.resumed.name) :: next.waiters context
  | .setPauseOnExceptions | .setBreakpoint | .evaluate .. => []

/-- The waiters that belong to a point, with what they accept. -/
def Point.waiters (point : Point) (context : Option Int) :
    List (SubscriptionId × (Inbound → Bool)) :=
  match point with
  | .asking errand | .awaitingReply errand _ => errand.waiters context
  | .readingContext created | .releasingContext created =>
    [(created, methodIs Method.executionContextCreated.name)]
  | .expectingFirstEnd paused => [(paused, methodIs Method.paused.name)]
  | .awaitingEvent _ next | .resumed next => next.waiters context
  | .expectingPause id => [(id, methodIs Method.resumed.name)]
  | .expectingEnd id paused =>
    [(id, methodIs Method.resumed.name), (paused, methodIs Method.paused.name)]
  | .awaitingResumed id next | .releasingResumed id next =>
    (id, methodIs Method.resumed.name) :: next.waiters context
  | _ => []

/-- The waiters that belong to the point of an engine. -/
def Engine.held (e : Engine) : List (SubscriptionId × (Inbound → Bool)) :=
  e.point.waiters e.session.contextId

/-- The waiters of an engine are waiters of its connection, in the order of their numbers.  What one
has got is a frame that it accepts, and none has lost its connection while that lasts. -/
structure Waiting (e : Engine) : Prop where
  numbered : Numbered e.connection
  order : e.held.Pairwise fun v w => v.1 < w.1
  waits : ∀ w ∈ e.held, Waits e.connection w.1 w.2
  accepted : ∀ w ∈ e.held, ∀ m, e.connection.receipt w.1 = .frame m → w.2 m = true
  closed : ∀ w ∈ e.held, e.connection.receipt w.1 = .closed → e.connection.isClosed = true

namespace Waiting

variable {e e' : Engine}

/-- Operations that spare a waiter leave it as it is. -/
theorem of_operates (h : Waiting e) {c : Connection} (hop : e.Operates c)
    {w : SubscriptionId × (Inbound → Bool)} (hw : w ∈ e.held) (hkeep : e.returning ≠ some w.1) :
    Waits c w.1 w.2 ∧ c.receipt w.1 = e.connection.receipt w.1 := by
  obtain ⟨operations, rfl, hspares⟩ := hop
  exact (h.waits w hw).run fun operation ho => (hspares operation ho).1 w.1 hkeep

/-- Waiters are kept in order if they are spared. -/
theorem keep (h : Waiting e) (hop : e.Operates e'.connection) (hsub : e'.held.Sublist e.held)
    (hkeep : ∀ w ∈ e'.held, e.returning ≠ some w.1) : Waiting e' := by
  have hkept (w) (hw : w ∈ e'.held) := h.of_operates hop (hsub.subset hw) (hkeep w hw)
  obtain ⟨operations, heq, -⟩ := hop
  refine ⟨heq ▸ h.numbered.run operations, h.order.sublist hsub, fun w hw => (hkept w hw).1,
    fun w hw m hreceipt => ?_, fun w hw hreceipt => ?_⟩
  · rw [(hkept w hw).2] at hreceipt
    exact h.accepted w (hsub.subset hw) m hreceipt
  · rw [(hkept w hw).2] at hreceipt
    rw [heq]
    exact Connection.isClosed_run (h.closed w (hsub.subset hw) hreceipt) operations

/-- A new waiter comes last. -/
theorem expect (h : Waiting e) {accepts : Inbound → Bool} {point : SubscriptionId → Point}
    (hheld : (e.expect accepts point).held =
      e.held ++ [((e.connection.subscribe accepts).2, accepts)]) :
    Waiting (e.expect accepts point) := by
  obtain ⟨hnew, hreceipt⟩ := Waits.subscribe h.numbered accepts
  refine ⟨h.numbered.subscribe accepts, ?_, fun w hw => ?_, fun w hw m hm => ?_,
    fun w hw hclosed => ?_⟩
  · rw [hheld, List.pairwise_append]
    refine ⟨h.order, List.pairwise_singleton _ _, fun v hv w hw => ?_⟩
    rw [List.mem_singleton.1 hw, Connection.subscribe_snd]
    exact Nat.lt_succ_of_le (h.waits v hv).numbered
  · rw [hheld] at hw
    rcases List.mem_append.1 hw with hold | hlast
    · exact ((h.waits w hold).other_subscribe accepts).1
    · rw [List.mem_singleton.1 hlast]
      exact hnew
  · rw [hheld] at hw
    rcases List.mem_append.1 hw with hold | hlast
    · exact h.accepted w hold m (((h.waits w hold).other_subscribe accepts).2 ▸ hm)
    · rw [List.mem_singleton.1 hlast] at hm
      have hframe := hreceipt.symm.trans hm
      split at hframe <;> exact Receipt.noConfusion hframe
  · rw [hheld] at hw
    have hsame : (e.expect accepts point).connection.isClosed = e.connection.isClosed :=
      (sameRequests_subscribe e.connection accepts).closed.symm
    rw [hsame]
    rcases List.mem_append.1 hw with hold | hlast
    · exact h.closed w hold (((h.waits w hold).other_subscribe accepts).2 ▸ hclosed)
    · rw [List.mem_singleton.1 hlast] at hclosed
      have hc := hreceipt.symm.trans hclosed
      by_contra hopen
      rw [if_neg hopen] at hc
      exact Receipt.noConfusion hc

/-- The context of a session does not change when a phase is entered. -/
theorem contextId_enterPhase (session : Session) (next : EngineState) :
    (enterPhase session next).contextId = session.contextId := by
  rw [enterPhase]
  split <;> rfl

theorem held_evaluateNext (e : Engine) (pause : Pause) (expressions : List String) :
    (e.evaluateNext pause expressions).held = [] := by
  cases expressions <;> rfl

theorem held_conclude (e : Engine) (outcome : Except SessionError Nat) :
    (e.conclude outcome).held = [] := by
  cases outcome <;> rfl

/-- A move leaves some of the waiters, and gives none of these back, or it adds one at the end. -/
theorem held_cases (h : Waiting e) (hmove : Move e e') :
    (e'.held.Sublist e.held ∧ ∀ w ∈ e'.held, e.returning ≠ some w.1) ∨
      ∃ accepts point, e' = e.expect accepts point ∧
        e'.held = e.held ++ [((e.connection.subscribe accepts).2, accepts)] := by
  have hnone (hheld : e'.held = []) :
      e'.held.Sublist e.held ∧ ∀ w ∈ e'.held, e.returning ≠ some w.1 :=
    ⟨hheld ▸ List.nil_sublist _, by simp [hheld]⟩
  have hsame (hheld : e'.held = e.held) (hquiet : e.returning = none) :
      e'.held.Sublist e.held ∧ ∀ w ∈ e'.held, e.returning ≠ some w.1 :=
    ⟨hheld ▸ List.Sublist.refl _, by simp [hquiet]⟩
  cases hmove with
  | observe hp => exact Or.inl (hnone rfl)
  | enter hentry _ =>
    cases hentry with
    | waitingForPause hp =>
      refine Or.inl (hsame ?_ (by rw [Engine.returning, hp]))
      rw [Engine.held, Engine.held, contextId_enterPhase, hp]
      rfl
    | _ => exact Or.inl (hnone rfl)
  | refuse => exact Or.inl (hnone rfl)
  | expect hw =>
    refine Or.inr ⟨_, _, rfl, ?_⟩
    cases hw with
    | context hp | firstPause hp | firstEnd hp | resumed hp | pause hp | nextEnd hp =>
      simp only [Engine.held, hp]
      rfl
  | @giveBack id point hr =>
    cases hr with
    | context hp => exact Or.inl (hnone rfl)
    | event hp => exact Or.inl (hnone rfl)
    | @resumed next hp =>
      have hheld : e.held = (id, methodIs Method.resumed.name) ::
          next.waiters e.session.contextId := by rw [Engine.held, hp]; rfl
      have horder := h.order
      rw [hheld, List.pairwise_cons] at horder
      refine Or.inl ⟨?_, fun w hw hreturned => ?_⟩
      · rw [hheld]
        exact List.sublist_cons_self _ _
      · have hid : id = w.1 := by
          simpa only [Engine.returning, hp, Option.some.injEq] using hreturned
        exact absurd (hid ▸ horder.1 w hw) (Nat.lt_irrefl _)
  | ask hp =>
    exact Or.inl (hsame (by rw [Engine.held, Engine.held, hp]; rfl) (by rw [Engine.returning, hp]))
  | @proceed errand call connection result point ha hnext =>
    have hquiet : e.returning = none := by rw [Engine.returning, ha.point]
    have hheld : e.held = errand.waiters e.session.contextId := by rw [Engine.held, ha.point]; rfl
    cases errand <;> simp only [Errand.next?, Option.some.injEq, reduceCtorEq] at hnext
    case setPauseOnExceptions => exact Or.inl (hnone (by rw [Engine.held, ← hnext]; rfl))
    all_goals
      refine Or.inl (hsame ?_ hquiet)
      rw [hheld, Engine.held, ← hnext]
      rfl
  | install ha _ => exact Or.inl (hnone rfl)
  | record ha _ => exact Or.inl (hnone (held_evaluateNext _ _ _))
  | note hp _ =>
    refine Or.inl (hsame ?_ (by rw [Engine.returning, hp]))
    rw [Engine.held, Engine.held, hp]
    rfl
  | noteNothing hp _ =>
    exact Or.inl (hsame (by rw [Engine.held, Engine.held, hp]; rfl) (by rw [Engine.returning, hp]))
  | @pause first => cases first <;> exact Or.inl (hnone rfl)
  | halt hp => exact Or.inl (hnone rfl)
  | skip hp _ _ => exact Or.inl (hnone rfl)
  | discover hp => exact Or.inl (hnone (held_evaluateNext _ _ _))
  | acknowledge hp _ =>
    exact Or.inl (hsame (by rw [Engine.held, Engine.held, hp]; rfl) (by rw [Engine.returning, hp]))
  | fail _ => exact Or.inl (hnone rfl)
  | releaseWaiter hp _ => exact Or.inl (hnone (by rw [Engine.held, hp]; rfl))
  | releaseObserver hp _ _ => exact Or.inl (hnone (by rw [Engine.held, hp]; rfl))
  | conclude => exact Or.inl (hnone (held_conclude _ _))

/-- Every move keeps the waiters in order. -/
theorem move (h : Waiting e) (hmove : Move e e') : Waiting e' := by
  rcases h.held_cases hmove with ⟨hsub, hkeep⟩ | ⟨accepts, point, rfl, hheld⟩
  · exact h.keep hmove.operates hsub hkeep
  · exact h.expect hheld

/-- What the engine does by itself changes nothing that a waiter has.  A new waiter has got nothing
yet. -/
theorem receipt_own (h : Waiting e) (hown : e' = e ∨ Move e e')
    {w : SubscriptionId × (Inbound → Bool)} (hw : w ∈ e'.held) :
    (w ∈ e.held ∧ e'.connection.receipt w.1 = e.connection.receipt w.1) ∨
      (w.1 = e.connection.registry.lastSubscription + 1 ∧
        e'.connection.receipt w.1 = if e.connection.isClosed then .closed else .waiting) := by
  rcases hown with rfl | hmove
  · exact Or.inl ⟨hw, rfl⟩
  rcases h.held_cases hmove with ⟨hsub, hkeep⟩ | ⟨accepts, point, rfl, hheld⟩
  · exact Or.inl ⟨hsub.subset hw, (h.of_operates hmove.operates (hsub.subset hw) (hkeep w hw)).2⟩
  · rw [hheld] at hw
    rcases List.mem_append.1 hw with hold | hlast
    · exact Or.inl ⟨hold, ((h.waits w hold).other_subscribe accepts).2⟩
    · rw [List.mem_singleton.1 hlast]
      exact Or.inr ⟨e.connection.subscribe_snd accepts, (Waits.subscribe h.numbered accepts).2⟩

/-- What a waiter holds after a move it held before. -/
theorem receipt_of_move (h : Waiting e) (hmove : Move e e')
    {w : SubscriptionId × (Inbound → Bool)} (hw : w ∈ e'.held) {m : Inbound}
    (hm : e'.connection.receipt w.1 = .frame m) :
    w ∈ e.held ∧ e.connection.receipt w.1 = .frame m := by
  rcases h.receipt_own (Or.inr hmove) hw with ⟨hold, hsame⟩ | ⟨-, hnew⟩
  · exact ⟨hold, hsame.symm.trans hm⟩
  · have hframe := hnew.symm.trans hm
    split at hframe <;> exact Receipt.noConfusion hframe

/-- What a waiter has after a text has arrived. -/
theorem receipt_receive (h : Waiting e) {w : SubscriptionId × (Inbound → Bool)} (hw : w ∈ e.held)
    (text : String) :
    (e.connection.receive text).receipt w.1 = e.connection.receipt w.1 ∨
      ∃ m, (e.connection.receive text).receipt w.1 =
        (e.connection.receipt w.1).after w.2 m := by
  rw [Connection.receive]
  split
  · exact Or.inr ⟨_, (h.waits w hw).receipt_dispatch _⟩
  · exact Or.inl rfl

/-- A frame keeps the waiters in order. -/
theorem frame (h : Waiting e) (text : String) :
    Waiting { e with connection := e.connection.receive text } where
  numbered := h.numbered.apply (.receive text)
  order := h.order
  waits w hw := (h.waits w hw).apply (.receive text)
  accepted w hw m hm := by
    rcases h.receipt_receive hw text with hsame | ⟨m', hafter⟩
    · exact h.accepted w hw m (hsame.symm.trans hm)
    · have hm' := hafter.symm.trans hm
      cases hr : e.connection.receipt w.1 with
      | closed => simp [hr] at hm'
      | frame old =>
        rw [hr, Receipt.after_frame] at hm'
        exact h.accepted w hw m (hr.trans hm')
      | waiting =>
        rw [hr, Receipt.after] at hm'
        split at hm'
        · rename_i haccepts
          rw [Receipt.frame.injEq] at hm'
          exact hm' ▸ haccepts
        · exact Receipt.noConfusion hm'
  closed w hw hclosed := by
    refine Connection.isClosed_apply (h.closed w hw ?_) (.receive text)
    rcases h.receipt_receive hw text with hsame | ⟨m', hafter⟩
    · exact hsame.symm.trans hclosed
    · have hclosed' := hafter.symm.trans hclosed
      cases hr : e.connection.receipt w.1 with
      | closed => rfl
      | frame m => simp [hr] at hclosed'
      | waiting =>
        rw [hr, Receipt.after] at hclosed'
        split at hclosed' <;> exact Receipt.noConfusion hclosed'

/-- The end of the connection keeps the waiters in order. -/
theorem hangUp (h : Waiting e) : Waiting { e with connection := e.connection.hangUp } where
  numbered := h.numbered.hangUp
  order := h.order
  waits w hw := (h.waits w hw).hangUp
  accepted w hw m hm := by
    have hm' := ((h.waits w hw).receipt_hangUp h.numbered).symm.trans hm
    cases hr : e.connection.receipt w.1 with
    | frame old =>
      rw [hr] at hm'
      exact h.accepted w hw m (hr.trans hm')
    | _ => simp [hr, Receipt.atEnd] at hm'
  closed w hw hclosed := by
    change e.connection.hangUp.registry.closed = true
    simp only [Connection.hangUp, Registry.close]
    split
    · assumption
    · rfl

end Waiting

/-- The waiters of an engine are in order throughout a run. -/
theorem Outset.waiting_run (o : Outset) (events : List Event) : Waiting (o.run events) := by
  refine Engine.run_induction events ?_ (fun _ text h => h.frame text) (fun _ h => h.hangUp)
    fun _ _ h hmove => h.move hmove
  refine ⟨o.numbered_run [], List.Pairwise.nil, fun w hw => ?_, fun w hw => ?_, fun w hw => ?_⟩
  · exact absurd hw List.not_mem_nil
  · exact absurd hw List.not_mem_nil
  · exact absurd hw List.not_mem_nil

/-! ### Events and receipts -/

/-- What a waiter has after an event of a run. -/
def afterEvent (accepts : Inbound → Bool) (r : Receipt) (event : Event) : Receipt :=
  match event with
  | .frame text =>
    match Inbound.ofText? text with
    | .ok m => r.after accepts m
    | .error _ => r
  | .hangUp => r.atEnd
  | .step | .elapse => r

/-- The frame that arrives in an event. -/
def Event.inbound? : Event → Option Inbound
  | .frame text => (Inbound.ofText? text).toOption
  | _ => none

theorem Event.inbound?_eq_some_iff {event : Event} {m : Inbound} :
    event.inbound? = some m ↔ ∃ text, event = .frame text ∧ Inbound.ofText? text = .ok m := by
  cases event with
  | frame text => cases h : Inbound.ofText? text <;> simp [inbound?, h, Except.toOption]
  | hangUp => simp [inbound?]
  | step => simp [inbound?]
  | elapse => simp [inbound?]

/-- The frames that arrive in a sequence of events before the connection ends, in order. -/
def heard (events : List Event) : List Inbound :=
  (events.takeWhile fun event => event ≠ .hangUp).filterMap Event.inbound?

/-- What was heard before an event was also heard after it. -/
theorem heard_sublist (events : List Event) (event : Event) :
    (heard events).Sublist (heard (events ++ [event])) := by
  rw [heard, heard, List.takeWhile_append]
  split
  · rename_i hlength
    rw [List.filterMap_append, (List.takeWhile_prefix _).eq_of_length hlength]
    exact List.sublist_append_left _ _
  · exact List.Sublist.refl _

/-- A frame that arrives before the connection ends is heard last. -/
theorem heard_concat {events : List Event} (hopen : Event.hangUp ∉ events) {text : String}
    {m : Inbound} (ht : Inbound.ofText? text = .ok m) :
    heard (events ++ [.frame text]) = heard events ++ [m] := by
  have hall : ∀ event ∈ events, decide (event ≠ Event.hangUp) = true :=
    fun event hevent => decide_eq_true fun heq => hopen (heq ▸ hevent)
  have hwhole : events.takeWhile (fun event => event ≠ .hangUp) = events :=
    List.takeWhile_eq_self_iff.2 hall
  rw [heard, heard, List.takeWhile_append_of_pos hall, hwhole, List.filterMap_append]
  simp [Event.inbound?, ht, Except.toOption]

theorem foldl_afterEvent_frame (accepts : Inbound → Bool) (m : Inbound) (events : List Event) :
    events.foldl (afterEvent accepts) (.frame m) = .frame m := by
  induction events with
  | nil => rfl
  | cons event rest ih =>
    have hkept : afterEvent accepts (.frame m) event = .frame m := by
      cases event with
      | frame text =>
        simp only [afterEvent]
        split <;> rfl
      | _ => rfl
    rw [List.foldl_cons, hkept, ih]

theorem foldl_afterEvent_closed (accepts : Inbound → Bool) (events : List Event) :
    events.foldl (afterEvent accepts) .closed = .closed := by
  induction events with
  | nil => rfl
  | cons event rest ih =>
    have hkept : afterEvent accepts .closed event = .closed := by
      cases event with
      | frame text =>
        simp only [afterEvent]
        split <;> rfl
      | _ => rfl
    rw [List.foldl_cons, hkept, ih]

/-- A waiter gets the first frame it accepts of those that arrive before the connection ends.
Without one it still waits, unless the connection has ended. -/
theorem foldl_afterEvent_waiting (accepts : Inbound → Bool) (events : List Event) :
    events.foldl (afterEvent accepts) .waiting =
      match (heard events).find? accepts with
      | some m => .frame m
      | none => if .hangUp ∈ events then .closed else .waiting := by
  induction events with
  | nil => rfl
  | cons event rest ih =>
    rw [List.foldl_cons]
    cases event with
    | frame text =>
      have hhead : heard (.frame text :: rest) =
          (Event.frame text).inbound?.toList ++ heard rest := by
        cases ht : Inbound.ofText? text <;>
          simp [heard, Event.inbound?, ht, Except.toOption]
      have hmem : Event.hangUp ∈ Event.frame text :: rest ↔ Event.hangUp ∈ rest := by simp
      rw [hhead]
      cases ht : Inbound.ofText? text with
      | error error =>
        simp only [afterEvent, Event.inbound?, ht, Except.toOption, Option.toList_none,
          List.nil_append, ih, hmem]
      | ok m =>
        simp only [afterEvent, Event.inbound?, ht, Except.toOption, Option.toList_some,
          List.singleton_append, List.find?_cons, Receipt.after]
        by_cases haccepts : accepts m = true
        · rw [if_pos haccepts, foldl_afterEvent_frame, haccepts]
        · rw [if_neg haccepts, ih, Bool.eq_false_iff.2 haccepts]
          simp only [hmem]
    | hangUp => simp [heard, afterEvent, Receipt.atEnd, foldl_afterEvent_closed]
    | step => simpa [heard, afterEvent, Event.inbound?] using ih
    | elapse => simpa [heard, afterEvent, Event.inbound?] using ih

/-- What a waiter of the point has after a text follows from the frame that the text is. -/
theorem Waiting.receipt_frame {e : Engine} (h : Waiting e) (text : String)
    {w : SubscriptionId × (Inbound → Bool)} (hw : w ∈ e.held) :
    (e.connection.receive text).receipt w.1 =
      afterEvent w.2 (e.connection.receipt w.1) (.frame text) := by
  cases ht : Inbound.ofText? text with
  | ok m =>
    simp only [Connection.receive, afterEvent, ht]
    exact (h.waits w hw).receipt_dispatch m
  | error error =>
    simp only [Connection.receive, afterEvent, ht]
    rfl

/-- A frame that a waiter of the point has after a text it had before, or the text is that frame,
and the connection has not ended. -/
theorem Waiting.origin_frame {e : Engine} (h : Waiting e) {text : String}
    {w : SubscriptionId × (Inbound → Bool)} (hw : w ∈ e.held) {m : Inbound}
    (hm : (e.connection.receive text).receipt w.1 = .frame m) :
    e.connection.receipt w.1 = .frame m ∨
      (e.connection.isClosed = false ∧ Inbound.ofText? text = .ok m) := by
  rw [h.receipt_frame text hw] at hm
  cases ht : Inbound.ofText? text with
  | error error =>
    simp only [afterEvent, ht] at hm
    exact Or.inl hm
  | ok m' =>
    simp only [afterEvent, ht] at hm
    cases hr : e.connection.receipt w.1 with
    | closed => simp [hr] at hm
    | frame old =>
      rw [hr, Receipt.after_frame] at hm
      exact Or.inl hm
    | waiting =>
      rw [hr, Receipt.after] at hm
      split at hm
      · obtain rfl := Receipt.frame.inj hm
        exact Or.inr ⟨(h.waits w hw).isClosed_eq_false h.numbered hr, rfl⟩
      · exact Receipt.noConfusion hm

/-- A frame that a waiter has after the end of the connection it had before. -/
theorem Waiting.origin_hangUp {e : Engine} (h : Waiting e)
    {w : SubscriptionId × (Inbound → Bool)} (hw : w ∈ e.held) {m : Inbound}
    (hm : e.connection.hangUp.receipt w.1 = .frame m) : e.connection.receipt w.1 = .frame m := by
  have hreceipt := ((h.waits w hw).receipt_hangUp h.numbered).symm.trans hm
  cases hr : e.connection.receipt w.1 with
  | frame old =>
    rw [hr] at hreceipt
    exact hreceipt
  | _ => simp [hr, Receipt.atEnd] at hreceipt

/-- A frame that a waiter of the point has after an event it had before, or the frame arrives in the
event, and the connection has not ended. -/
theorem Waiting.origin_apply {e : Engine} (h : Waiting e) {event : Event}
    {w : SubscriptionId × (Inbound → Bool)} (hw : w ∈ (e.apply event).held) {m : Inbound}
    (hm : (e.apply event).connection.receipt w.1 = .frame m) :
    (w ∈ e.held ∧ e.connection.receipt w.1 = .frame m) ∨
      (e.connection.isClosed = false ∧ ∃ text, event = .frame text ∧
        Inbound.ofText? text = .ok m) := by
  have hown {e' : Engine} (hsame : e' = e ∨ Move e e') (hw' : w ∈ e'.held)
      (hm' : e'.connection.receipt w.1 = .frame m) :
      w ∈ e.held ∧ e.connection.receipt w.1 = .frame m := by
    rcases hsame with heq | hmove
    · exact heq ▸ ⟨hw', hm'⟩
    · exact h.receipt_of_move hmove hw' hm'
  cases event with
  | step => exact Or.inl (hown e.step_cases hw hm)
  | elapse => exact Or.inl (hown e.elapse_cases hw hm)
  | hangUp => exact Or.inl ⟨hw, h.origin_hangUp hw hm⟩
  | frame text =>
    exact (h.origin_frame hw hm).imp (fun hold => ⟨hw, hold⟩)
      fun hnew => ⟨hnew.1, text, rfl, hnew.2⟩

/-- What a waiter of the point has changes with the frames only, unless it is given back. -/
theorem Waiting.receipt_apply {e : Engine} (h : Waiting e) (event : Event)
    {w : SubscriptionId × (Inbound → Bool)} (hw : w ∈ e.held) (hkeep : e.returning ≠ some w.1) :
    (e.apply event).connection.receipt w.1 =
      afterEvent w.2 (e.connection.receipt w.1) event := by
  have hown {e' : Engine} (hsame : e' = e ∨ Move e e') :
      e'.connection.receipt w.1 = e.connection.receipt w.1 := by
    rcases hsame with rfl | hmove
    · rfl
    · exact (h.of_operates hmove.operates hw hkeep).2
  cases event with
  | step => exact hown e.step_cases
  | elapse => exact hown e.elapse_cases
  | frame text => exact h.receipt_frame text hw
  | hangUp => exact (h.waits w hw).receipt_hangUp h.numbered

/-! ### The waiters for what the debuggee does next -/

/-- The waiters for the next pause and the end of the debuggee, from the moment both are
registered until one of them counts. -/
def Point.next? : Point → Option EventWaiters
  | .asking (.release next) | .awaitingReply (.release next) _ => some next
  | .asking (.resume _ next) | .awaitingReply (.resume _ next) _ => some next
  | .awaitingResumed _ next | .releasingResumed _ next | .resumed next => some next
  | .awaitingEvent _ next => some next
  | _ => none

/-- The two waiters that the engine looks at next, and whether they are the first ones. -/
def Point.looksAt? : Point → Option (Bool × EventWaiters)
  | .awaitingEvent first next => some (first, next)
  | _ => none

theorem Point.looksAt?_eq_some_iff {point : Point} {first : Bool} {next : EventWaiters} :
    point.looksAt? = some (first, next) ↔ point = .awaitingEvent first next := by
  cases point <;> simp [looksAt?]

/-- The two waiters are among those of the point, and neither is given back next. -/
theorem Waiting.of_next? {e : Engine} (h : Waiting e) {next : EventWaiters}
    (hnext : e.point.next? = some next) :
    ∀ w ∈ next.waiters e.session.contextId, w ∈ e.held ∧ e.returning ≠ some w.1 := by
  intro w hw
  have horder := h.order
  cases hp : e.point with
  | releasingResumed resumed next' =>
    rw [hp] at hnext
    obtain rfl : next' = next := Option.some.inj hnext
    have hheld : e.held = (resumed, methodIs Method.resumed.name) ::
        next'.waiters e.session.contextId := by rw [Engine.held, hp]; rfl
    rw [hheld, List.pairwise_cons] at horder
    refine ⟨hheld ▸ List.mem_cons_of_mem _ hw, fun hreturned => ?_⟩
    have hid : resumed = w.1 := by
      simpa only [Engine.returning, hp, Option.some.injEq] using hreturned
    exact absurd (hid ▸ horder.1 w hw) (Nat.lt_irrefl _)
  | awaitingResumed resumed next' =>
    rw [hp] at hnext
    obtain rfl : next' = next := Option.some.inj hnext
    exact ⟨by rw [Engine.held, hp]; exact List.mem_cons_of_mem _ hw, by simp [Engine.returning, hp]⟩
  | awaitingEvent first next' =>
    rw [hp] at hnext
    obtain rfl : next' = next := Option.some.inj hnext
    exact ⟨by rw [Engine.held, hp]; exact hw, by simp [Engine.returning, hp]⟩
  | resumed next' =>
    rw [hp] at hnext
    obtain rfl : next' = next := Option.some.inj hnext
    exact ⟨by rw [Engine.held, hp]; exact hw, by simp [Engine.returning, hp]⟩
  | asking errand =>
    rw [hp] at hnext
    refine ⟨?_, by simp [Engine.returning, hp]⟩
    rw [Engine.held, hp]
    cases errand <;> simp only [Point.next?, Option.some.injEq, reduceCtorEq] at hnext
    · exact hnext ▸ hw
    · exact List.mem_cons_of_mem _ (hnext ▸ hw)
  | awaitingReply errand call =>
    rw [hp] at hnext
    refine ⟨?_, by simp [Engine.returning, hp]⟩
    rw [Engine.held, hp]
    cases errand <;> simp only [Point.next?, Option.some.injEq, reduceCtorEq] at hnext
    · exact hnext ▸ hw
    · exact List.mem_cons_of_mem _ (hnext ▸ hw)
  | _ => simp [hp, Point.next?] at hnext

/-- Two waiters that belong to a point after a move belonged to the point before, in the same
context, or the later one is new and the request for which they wait is made next. -/
theorem Move.next? {e e' : Engine} (h : Move e e') {next : EventWaiters}
    (hnext : e'.point.next? = some next) :
    (e.point.next? = some next ∧ e'.session.contextId = e.session.contextId) ∨
      (next.ended = e.connection.registry.lastSubscription + 1 ∧ e'.point.isAsking = true) := by
  cases h with
  | enter hentry _ =>
    cases hentry with
    | waitingForPause hp =>
      exact Or.inl ⟨by rw [hp]; exact hnext, Waiting.contextId_enterPhase _ _⟩
    | _ => simp [Point.next?] at hnext
  | expect hw =>
    cases hw with
    | firstEnd hp | nextEnd hp =>
      right
      rw [← Option.some.inj hnext]
      exact ⟨e.connection.subscribe_snd _, rfl⟩
    | _ => simp [Engine.expect, Point.next?] at hnext
  | giveBack hr =>
    cases hr with
    | resumed hp => exact Or.inl ⟨by rw [hp]; exact hnext, rfl⟩
    | _ => simp [Engine.giveBack, Point.next?] at hnext
  | @ask errand hp =>
    refine Or.inl ⟨?_, rfl⟩
    rw [hp]
    cases errand <;> exact hnext
  | @proceed errand call connection result point ha hn =>
    refine Or.inl ⟨?_, rfl⟩
    rw [ha.point]
    cases errand <;> simp only [Errand.next?, Option.some.injEq, reduceCtorEq] at hn
    all_goals
      subst hn
      exact hnext
  | acknowledge hp _ => exact Or.inl ⟨by rw [hp]; exact hnext, rfl⟩
  | @pause first next' event hp _ => cases first <;> simp [Point.next?] at hnext
  | @record pause expression rest =>
    cases rest <;> simp [Engine.evaluateNext, Engine.goTo, Point.next?] at hnext
  | @discover pause hp =>
    revert hnext
    cases (e.discover pause).session.tracked.expressions <;>
      simp [Engine.evaluateNext, Engine.goTo, Point.next?]
  | releaseWaiter hp _ => simp [hp, Point.next?] at hnext
  | releaseObserver hp _ _ => simp [hp, Point.next?] at hnext
  | @conclude outcome => cases outcome <;> simp [Engine.conclude, Engine.goTo, Point.next?] at hnext
  | _ => simp [Engine.goTo, Point.next?] at hnext

/-! ### Along a run -/

/-- Every event keeps the waiters in order. -/
theorem Waiting.apply {e : Engine} (h : Waiting e) (event : Event) : Waiting (e.apply event) :=
  Engine.run_induction [event] h (fun _ text h => h.frame text) (fun _ h => h.hangUp)
    fun _ _ h hmove => h.move hmove

namespace Engine

variable {e : Engine} {next : EventWaiters}

theorem lastSubscription_le_apply (e : Engine) (event : Event) :
    e.connection.registry.lastSubscription ≤
      (e.apply event).connection.registry.lastSubscription := by
  obtain ⟨operations, heq⟩ := e.exists_operations_run [event]
  have happly : (e.apply event).connection = e.connection.run operations := heq
  rw [happly]
  exact e.connection.lastSubscription_le_run operations

/-- Two waiters that belong to the point after an event belonged to it before, in the same context,
or the later one is new and the request for which they wait is made next. -/
theorem next?_of_apply {event : Event} (h : (e.apply event).point.next? = some next) :
    (e.point.next? = some next ∧ (e.apply event).session.contextId = e.session.contextId) ∨
      (next.ended = e.connection.registry.lastSubscription + 1 ∧
        (e.apply event).point.isAsking = true) := by
  rcases e.apply_cases event with ⟨connection, hsame⟩ | hmove
  · rw [hsame] at h ⊢
    exact Or.inl ⟨h, rfl⟩
  · exact hmove.next? h

/-- Two waiters that belong to the point at the end of a run, and whose numbers had been given at
its start, belonged to the point all the time, in the same context. -/
theorem next?_of_run (events : List Event) (hrun : (e.run events).point.next? = some next)
    (hle : next.ended ≤ e.connection.registry.lastSubscription) :
    e.point.next? = some next ∧ (e.run events).session.contextId = e.session.contextId := by
  induction events generalizing e with
  | nil => exact ⟨hrun, rfl⟩
  | cons event rest ih =>
    obtain ⟨hnext, hcontext⟩ := ih hrun (Nat.le_trans hle (e.lastSubscription_le_apply event))
    rcases next?_of_apply hnext with ⟨hbefore, hsame⟩ | ⟨hnew, -⟩
    · exact ⟨hbefore, hcontext.trans hsame⟩
    · exact absurd (hnew ▸ hle) (Nat.not_succ_le_self _)

/-- Of two waiters that belong to a point, the numbers have been given. -/
theorem ended_le (h : Waiting e) (hnext : e.point.next? = some next) :
    next.ended ≤ e.connection.registry.lastSubscription :=
  (h.waits _ (h.of_next? hnext _ (List.mem_cons_of_mem _ List.mem_cons_self)).1).numbered

/-- What the two waiters have at the end of a run follows from what they had at its start and from
the frames of the run. -/
theorem receipts_run {events : List Event} (h : Waiting e) (hnext : e.point.next? = some next)
    (hrun : (e.run events).point.next? = some next) :
    ∀ w ∈ next.waiters e.session.contextId,
      (e.run events).connection.receipt w.1 =
        events.foldl (afterEvent w.2) (e.connection.receipt w.1) := by
  induction events generalizing e with
  | nil => exact fun _ _ => rfl
  | cons event rest ih =>
    intro w hw
    have hle := Nat.le_trans (ended_le h hnext) (e.lastSubscription_le_apply event)
    have hnext' := (next?_of_run rest hrun hle).1
    have hcontext : (e.apply event).session.contextId = e.session.contextId :=
      (next?_of_run (e := e) [event] hnext' (ended_le h hnext)).2
    obtain ⟨hheld, hkeep⟩ := h.of_next? hnext w hw
    rw [run_cons, ih (h.apply event) hnext' hrun w (hcontext ▸ hw),
      h.receipt_apply event hheld hkeep, List.foldl_cons]

end Engine

end ValueTrace.Stepping
