import ValueTrace.Proofs.Inspector.Closing
import ValueTrace.Proofs.Inspector.Listening
import ValueTrace.Proofs.Stepping.Errands
import ValueTrace.Proofs.Stepping.Unwinding

/-!
# What a run leaves behind

A run registers observers and waiters, and makes requests, on a connection that others use as well.
However it ends, it leaves the registry as it found it: what the run has registered is exactly what
it still has to give back (`Borrowed`), it is over only when nothing of it is left, and everything
that was there before is touched by the frames and by the end of the connection alone.

## Main definitions

* `Engine.borrowed` : the subscriptions that a run still has to give back.
* `Asking`, `Exchange` : how a move changes the connection and what is to be given back.
* `Borrowed` : a run has to give back what it has registered.
* `subscriptionsUpTo`, `pendingUpTo` : what was registered or asked up to some number.
* `outlives`, `staysPending` : what is left of the subscriptions and requests of others.

## Main results

* `Move.exchange` : every move is such a change.
* `Outset.subscriptions_run`, `Outset.pending_run` : what was there before, throughout a run.
* `runs_restore_the_registry` : the registry at the end of a run.
-/

namespace ValueTrace.Stepping

open Inspector

variable {e e' : Engine} {o : Outset}

/-! ### What a move borrows and gives back -/

/-- The subscriptions that the run of an engine still has to give back. -/
def Engine.borrowed (e : Engine) : List SubscriptionId := e.waiters ++ e.observers

/-- What becomes of a connection while its engine deals with no subscription: nothing, or a request
is made, or the one that the engine waits for ends. -/
inductive Asking (e : Engine) : Connection → Prop
  | nothing : Asking e e.connection
  | request (method : String) (params : Option Json.Value) :
      Asking e (e.connection.send method params).1
  | answer {errand call} (hp : e.point = .awaitingReply errand call) :
      Asking e (e.connection.readAnswer call)
  | expiry {errand call} (hp : e.point = .awaitingReply errand call) :
      Asking e (e.connection.expire call)

/-- How a move changes the connection and what is to be given back. -/
inductive Exchange (e e' : Engine) : Prop
  | keep (hasking : Asking e e'.connection) (hborrowed : e'.borrowed = e.borrowed)
  | register (operation) (hregisters : operation.registers = true)
      (hconnection : e'.connection = e.connection.apply operation)
      (hborrowed : ∀ id, id ∈ e'.borrowed ↔
        id = e.connection.registry.lastSubscription + 1 ∨ id ∈ e.borrowed)
  | release {id} (hreturning : e.returning = some id)
      (hconnection : e'.connection = e.connection.release id)
      (hborrowed : e'.borrowed.Sublist e.borrowed)
      (hkept : ∀ other ∈ e.borrowed, other ≠ id → other ∈ e'.borrowed)

theorem Answered.asking {errand : Errand} {call : RequestId} {connection : Connection}
    {outcome : Except TransportError Json.Value} (h : Answered e errand call connection outcome) :
    Asking e connection := by
  rcases h.came with rfl | rfl
  · exact .answer h.point
  · exact .expiry h.point

theorem Trouble.asking {connection : Connection} {error : SessionError}
    (h : Trouble e connection error) : Asking e connection := by
  cases h with
  | configuration h => exact h.asking
  | breakpoint h => exact h.asking
  | resume h => exact h.asking
  | evaluation h => exact h.asking
  | unacknowledged | happening | pauseTimeout | frameless => exact .nothing

/-- Every move asks, registers, gives back or leaves the registry alone. -/
theorem Move.exchange (h : Move e e') : Exchange e e' := by
  cases h with
  | @observe method rest hp =>
    refine .register (.observe method.name) rfl rfl fun id => ?_
    simp only [Engine.borrowed, List.mem_append, List.mem_singleton, Connection.observe,
      Registry.register]
    rw [← or_assoc, or_comm]
  | enter => exact .keep .nothing rfl
  | refuse => exact .keep .nothing rfl
  | @expect accepts point h =>
    refine .register (.subscribe accepts) rfl rfl fun id => ?_
    simp only [Engine.borrowed, Engine.expect, List.cons_append, List.mem_cons,
      Connection.subscribe_snd]
  | @giveBack id point h =>
    refine .release h.returning rfl ?_ fun other hother hne => ?_
    · exact List.erase_sublist.append (List.Sublist.refl _)
    · rcases List.mem_append.1 hother with hwaiter | hobserver
      · exact List.mem_append_left _ ((List.mem_erase_of_ne hne).2 hwaiter)
      · exact List.mem_append_right _ hobserver
  | ask hp => exact .keep (.request _ _) rfl
  | proceed h => exact .keep h.asking rfl
  | install h => exact .keep h.asking rfl
  | record h =>
    obtain ⟨pauses, point, heq⟩ := Engine.evaluateNext_eq _ _ _
    rw [heq]
    exact .keep h.asking rfl
  | note =>
    obtain ⟨session, heq⟩ := e.noteContext_eq _
    rw [heq]
    exact .keep .nothing rfl
  | noteNothing => exact .keep .nothing rfl
  | pause => exact .keep .nothing rfl
  | halt => exact .keep .nothing rfl
  | skip => exact .keep .nothing rfl
  | @discover pause hp =>
    obtain ⟨pauses, point, heq⟩ := Engine.evaluateNext_eq (e.discover pause) pause
      (e.discover pause).session.tracked.expressions
    obtain ⟨session, hdiscover⟩ := e.discover_eq pause
    rw [heq, hdiscover]
    exact .keep .nothing rfl
  | acknowledge => exact .keep .nothing rfl
  | fail h => exact .keep h.asking rfl
  | @releaseWaiter outcome id waiters hp hwaiters =>
    have hborrowed : e.borrowed = id :: (waiters ++ e.observers) := by
      rw [Engine.borrowed, hwaiters, List.cons_append]
    refine .release (Engine.returning_of_waiters hp hwaiters) rfl ?_ fun other hother hne => ?_
    · rw [hborrowed]
      exact List.sublist_cons_self _ _
    · rw [hborrowed] at hother
      exact (List.mem_cons.1 hother).resolve_left hne
  | @releaseObserver outcome id observers hp hwaiters hobservers =>
    have hborrowed : e.borrowed = id :: observers := by
      rw [Engine.borrowed, hwaiters, hobservers, List.nil_append]
    refine .release (Engine.returning_of_observers hp hwaiters hobservers) rfl ?_
      fun other hother hne => ?_
    · rw [hborrowed, Engine.borrowed, hwaiters]
      exact List.sublist_cons_self _ _
    · rw [hborrowed] at hother
      rw [Engine.borrowed, hwaiters]
      exact (List.mem_cons.1 hother).resolve_left hne
  | @conclude outcome => cases outcome <;> exact .keep .nothing rfl

/-! ### What the point of an engine may give back -/

/-- The waiters that belong to a point or are given back there. -/
def Point.mentioned : Point → List SubscriptionId
  | .releasingEvent ids _ => ids
  | point => (point.waiters none).map Prod.fst

/-- A move mentions what was mentioned before, or a waiter that it registers. -/
theorem Move.mentioned (h : Move e e') :
    e'.point.mentioned ⊆ (e.connection.registry.lastSubscription + 1) :: e.point.mentioned := by
  have hnone (hpoint : e'.point.mentioned = []) :
      e'.point.mentioned ⊆ (e.connection.registry.lastSubscription + 1) :: e.point.mentioned :=
    hpoint ▸ List.nil_subset _
  have hsame (hpoint : e'.point.mentioned = e.point.mentioned) :
      e'.point.mentioned ⊆ (e.connection.registry.lastSubscription + 1) :: e.point.mentioned :=
    hpoint ▸ List.subset_cons_self _ _
  cases h with
  | observe hp => exact hnone rfl
  | enter hentry _ =>
    cases hentry with
    | waitingForPause hp => exact hsame (hp ▸ rfl)
    | _ => exact hnone rfl
  | refuse => exact hnone rfl
  | expect hw =>
    cases hw with
    | context hp | firstPause hp | firstEnd hp | resumed hp | pause hp | nextEnd hp =>
      intro id hid
      simp only [Engine.expect, Point.mentioned, Point.waiters, Errand.waiters,
        EventWaiters.waiters, List.map_cons, List.map_nil, Connection.subscribe_snd, hp,
        List.mem_cons, List.not_mem_nil, or_false] at hid ⊢
      tauto
  | giveBack hr =>
    cases hr with
    | context hp => exact hnone rfl
    | @event rest event hp =>
      rw [hp]
      exact fun other hother => List.mem_cons_of_mem _ (List.mem_cons_of_mem _ hother)
    | @resumed next hp =>
      rw [hp]
      exact fun other hother => List.mem_cons_of_mem _ (List.mem_cons_of_mem _ hother)
  | ask hp => exact hsame (hp ▸ rfl)
  | @proceed errand _ _ _ _ ha hnext =>
    -- The waiters of a request go along to what follows it; the one about exceptions has none.
    cases errand <;> simp only [Errand.next?, Option.some.injEq, reduceCtorEq] at hnext
    case setPauseOnExceptions => exact hnone (hnext ▸ rfl)
    all_goals exact hsame (by rw [ha.point, ← hnext]; rfl)
  | install => exact hnone rfl
  | @record _ _ rest => cases rest <;> exact hnone rfl
  | note hp => exact hsame (hp ▸ rfl)
  | noteNothing hp => exact hsame (hp ▸ rfl)
  | @pause first next event hp =>
    cases first with
    | true => exact hnone rfl
    | false =>
      intro id hid
      rw [hp]
      simp only [Point.mentioned, Point.waiters, EventWaiters.waiters, List.map_cons,
        List.map_nil, Bool.false_eq_true, if_false, List.mem_cons, List.not_mem_nil,
        or_false] at hid ⊢
      tauto
  | halt => exact hnone rfl
  | skip => exact hnone rfl
  | @discover pause =>
    have hpoint (expressions : List String) :
        ((e.discover pause).evaluateNext pause expressions).point.mentioned = [] := by
      cases expressions <;> rfl
    exact hnone (hpoint _)
  | acknowledge hp => exact hsame (hp ▸ rfl)
  | fail => exact hnone rfl
  | releaseWaiter hp => exact hsame rfl
  | releaseObserver hp => exact hsame rfl
  | @conclude outcome => cases outcome <;> exact hnone rfl

/-! ### What a run has registered -/

/-- The subscriptions with numbers up to a given one, in their order. -/
def subscriptionsUpTo (last : SubscriptionId) (e : Engine) : List Subscription :=
  e.connection.registry.subscriptions.filter fun s => s.id ≤ last

/-- What has an old number stays when a newer number is removed. -/
theorem filter_older {α : Type} (number : α → Nat) {last id : Nat} (h : last < id)
    (l : List α) :
    (l.filter fun a => number a ≠ id).filter (fun a => number a ≤ last) =
      l.filter fun a => number a ≤ last := by
  rw [List.filter_filter]
  refine List.filter_congr fun a _ => ?_
  by_cases hle : number a ≤ last
  · have hne : number a ≠ id := Nat.ne_of_lt (Nat.lt_of_le_of_lt hle h)
    simp [hle, hne]
  · simp [hle]

theorem keeps_of_registers (c : Connection) {operation : Connection.Operation}
    (h : operation.registers = true) (s : Subscription) : c.keeps operation s = true := by
  cases operation with
  | subscribe | observe | observeMalformed => rfl
  | _ => exact Bool.noConfusion h

theorem Asking.sameListeners {connection : Connection} (h : Asking e connection) :
    SameListeners e.connection connection := by
  cases h with
  | nothing => exact .refl _
  | request method params => exact Connection.sameListeners_send _ _ _
  | answer => exact Connection.sameListeners_readAnswer _ _
  | expiry => exact Connection.sameListeners_expire _ _

namespace Exchange

/-- A subscription after a move is a new one that is to be given back, or it was there before, and
it is still to be given back if it was. -/
theorem subscriptions_cases (h : Exchange e e') {s : Subscription}
    (hs : s ∈ e'.connection.registry.subscriptions) :
    s.id ∈ e'.borrowed ∨ s ∈ e.connection.registry.subscriptions ∧
      (s.id ∈ e.borrowed → s.id ∈ e'.borrowed) := by
  cases h with
  | keep hasking hborrowed =>
    exact Or.inr ⟨hasking.sameListeners.subscriptions ▸ hs, fun hid => hborrowed ▸ hid⟩
  | register operation hregisters hconnection hborrowed =>
    rw [hconnection, Connection.subscriptions_apply] at hs
    rcases List.mem_append.1 hs with hold | hnew
    · exact Or.inr ⟨(List.mem_filter.1 hold).1, fun hid => (hborrowed _).2 (Or.inr hid)⟩
    · exact Or.inl ((hborrowed _).2 (Or.inl (Connection.of_mem_added hnew).1))
  | release hreturning hconnection hborrowed hkept =>
    rw [hconnection] at hs
    obtain ⟨hold, hne⟩ := List.mem_filter.1 hs
    exact Or.inr ⟨hold, fun hid => hkept _ hid (of_decide_eq_true hne)⟩

/-- Subscriptions with old numbers stay as they are in a move that gives back none of them. -/
theorem subscriptionsUpTo_eq (h : Exchange e e') {last : SubscriptionId}
    (hlast : last ≤ e.connection.registry.lastSubscription)
    (hreturning : ∀ id, e.returning = some id → last < id) :
    subscriptionsUpTo last e' = subscriptionsUpTo last e := by
  cases h with
  | keep hasking => rw [subscriptionsUpTo, hasking.sameListeners.subscriptions, subscriptionsUpTo]
  | register operation hregisters hconnection =>
    have hnew : (e.connection.added operation).filter (fun s => s.id ≤ last) = [] := by
      refine List.filter_eq_nil_iff.2 fun s hs hle => ?_
      have hid := (Connection.of_mem_added hs).1
      have hold : s.id ≤ last := of_decide_eq_true hle
      rw [hid] at hold
      exact absurd hold (Nat.not_le_of_lt (Nat.lt_succ_of_le hlast))
    rw [subscriptionsUpTo, hconnection, Connection.subscriptions_apply, List.filter_append, hnew,
      List.append_nil, List.filter_eq_self.2 fun s _ => keeps_of_registers _ hregisters s,
      subscriptionsUpTo]
  | @release id hid hconnection =>
    have hkept : e'.connection.registry.subscriptions =
        e.connection.registry.subscriptions.filter fun s => s.id ≠ id := by
      rw [hconnection]
      rfl
    rw [subscriptionsUpTo, hkept, filter_older Subscription.id (hreturning id hid),
      subscriptionsUpTo]

theorem borrowed_subset (h : Exchange e e') :
    e'.borrowed ⊆ (e.connection.registry.lastSubscription + 1) :: e.borrowed := by
  cases h with
  | keep _ hborrowed => exact hborrowed ▸ List.subset_cons_self _ _
  | register _ _ _ hborrowed => exact fun id hid => List.mem_cons.2 ((hborrowed id).1 hid)
  | release _ _ hborrowed => exact List.Subset.trans hborrowed.subset (List.subset_cons_self _ _)

end Exchange

/-- A run has to give back exactly what it has registered and nothing else, and when it is over it
has given back everything. -/
structure Borrowed (o : Outset) (e : Engine) : Prop where
  numbers : o.connection.registry.lastSubscription ≤ e.connection.registry.lastSubscription
  own : ∀ id ∈ e.borrowed, o.connection.registry.lastSubscription < id
  mentioned : ∀ id ∈ e.point.mentioned, o.connection.registry.lastSubscription < id
  listed : ∀ s ∈ e.connection.registry.subscriptions,
    o.connection.registry.lastSubscription < s.id → s.id ∈ e.borrowed
  finished : ∀ outcome, e.point = .finished outcome → e.borrowed = []

namespace Borrowed

/-- What is given back next belongs to the run. -/
theorem returning (h : Borrowed o e) {id : SubscriptionId} (hid : e.returning = some id) :
    o.connection.registry.lastSubscription < id := by
  cases hp : e.point with
  | releasingContext created =>
    simp only [Engine.returning, hp, Option.some.injEq] at hid
    subst hid
    exact h.mentioned _ (hp ▸ List.mem_cons_self)
  | releasingEvent ids event =>
    cases ids with
    | nil => simp [Engine.returning, hp] at hid
    | cons first rest =>
      simp only [Engine.returning, hp, Option.some.injEq] at hid
      subst hid
      exact h.mentioned _ (hp ▸ List.mem_cons_self)
  | releasingResumed resumed next =>
    simp only [Engine.returning, hp, Option.some.injEq] at hid
    subst hid
    exact h.mentioned _ (hp ▸ List.mem_cons_self)
  | unwinding outcome =>
    simp only [Engine.returning, hp] at hid
    exact h.own id (List.mem_of_mem_head? hid)
  | _ => simp [Engine.returning, hp] at hid

/-- What the other side does registers nothing. -/
theorem apply (h : Borrowed o e) (operation : Connection.Operation)
    (hadded : e.connection.added operation = []) :
    Borrowed o { e with connection := e.connection.apply operation } where
  numbers := Nat.le_trans h.numbers (e.connection.lastSubscription_le_run [operation])
  own := h.own
  mentioned := h.mentioned
  listed s hs hnew := by
    have hleft : s ∈ e.connection.registry.subscriptions.filter (e.connection.keeps operation) := by
      rw [← List.append_nil (List.filter _ _), ← hadded, ← Connection.subscriptions_apply]
      exact hs
    exact h.listed s (List.mem_filter.1 hleft).1 hnew
  finished := h.finished

theorem move (h : Borrowed o e) (hmove : Move e e') : Borrowed o e' := by
  have hexchange := hmove.exchange
  -- What a move adds to either list is the number of a new subscription.
  have hlater {id : SubscriptionId} {ids : List SubscriptionId}
      (hids : ∀ id ∈ ids, o.connection.registry.lastSubscription < id)
      (hid : id ∈ (e.connection.registry.lastSubscription + 1) :: ids) :
      o.connection.registry.lastSubscription < id := by
    rcases List.mem_cons.1 hid with rfl | hold
    · exact Nat.lt_succ_of_le h.numbers
    · exact hids id hold
  refine ⟨?_, fun id hid => hlater h.own (hexchange.borrowed_subset hid),
    fun id hid => hlater h.mentioned (hmove.mentioned hid), fun s hs hnew => ?_,
    fun outcome hfinished => ?_⟩
  · obtain ⟨operations, heq, -⟩ := hmove.operates
    rw [heq]
    exact Nat.le_trans h.numbers (e.connection.lastSubscription_le_run operations)
  · rcases hexchange.subscriptions_cases hs with hlisted | ⟨hold, hkept⟩
    · exact hlisted
    · exact hkept (h.listed s hold hnew)
  · obtain ⟨rfl, -, hwaiters, hobservers⟩ := hmove.eq_conclude hfinished
    have hnothing : e.borrowed = [] := by rw [Engine.borrowed, hwaiters, hobservers]; rfl
    cases outcome <;> exact hnothing

end Borrowed

theorem Outset.borrowed_run (o : Outset) (events : List Event) : Borrowed o (o.run events) := by
  refine Engine.run_induction events ?_ (fun e text h => h.apply (.receive text) rfl)
    (fun e h => h.apply .hangUp rfl) fun e e' h hmove => h.move hmove
  refine ⟨Nat.le_refl _, fun id hid => ?_, fun id hid => ?_, fun s hs hnew => ?_,
    fun outcome hp => Point.noConfusion hp⟩
  · exact absurd hid List.not_mem_nil
  · exact absurd hid List.not_mem_nil
  · exact absurd ((o.numbered_run []).subscriptions s hs) (Nat.not_le_of_lt hnew)

/-! ### The subscriptions of others -/

/-- Whether a subscriber is still there after the events of a run that is not its own: a one-shot
leaves with the first frame that it accepts, and with the end of the connection. -/
def outlives (events : List Event) : Subscriber → Bool
  | .once accepts => !events.contains .hangUp && !(events.filterMap Event.inbound?).any accepts
  | .every _ | .malformed => true

theorem inbound?_of_error {text : String} {error : FrameError}
    (h : Inbound.ofText? text = .error error) : (Event.frame text).inbound? = none := by
  rw [Event.inbound?, h]
  rfl

theorem outlives_nil (s : Subscriber) : outlives [] s = true := by
  cases s <;> rfl

/-- What the engine does by itself ends no subscription of others. -/
theorem outlives_concat_own (event : Event) (hopen : event ≠ .hangUp)
    (hsilent : event.inbound? = none) (events : List Event) (s : Subscriber) :
    outlives (events ++ [event]) s = outlives events s := by
  cases s with
  | once accepts => simp [outlives, hsilent, hopen.symm]
  | _ => rfl

/-- A frame ends the subscriptions that take it. -/
theorem outlives_concat_frame (events : List Event) (text : String) (c : Connection)
    (s : Subscription) :
    outlives (events ++ [.frame text]) s.subscriber =
      (outlives events s.subscriber && c.keeps (.receive text) s) := by
  obtain ⟨id, subscriber⟩ := s
  cases subscriber with
  | once accepts =>
    cases ht : Inbound.ofText? text with
    | ok m =>
      have harrives : (Event.frame text).inbound? = some m :=
        Event.inbound?_eq_some_iff.2 ⟨text, rfl, ht⟩
      simp [outlives, Connection.keeps, ht, harrives, takes_once, Bool.and_assoc]
    | error error =>
      simp [outlives, Connection.keeps, ht, inbound?_of_error ht]
  | every method =>
    have honce : (⟨id, .every method⟩ : Subscription).subscriber.isOnce = false := rfl
    rw [c.keeps_eq_not_drops honce]
    rfl
  | malformed =>
    have honce : (⟨id, .malformed⟩ : Subscription).subscriber.isOnce = false := rfl
    rw [c.keeps_eq_not_drops honce]
    rfl

/-- The end of the connection ends the one-shots. -/
theorem outlives_concat_hangUp (events : List Event) (s : Subscriber) :
    outlives (events ++ [.hangUp]) s = (outlives events s && !s.isOnce) := by
  cases s with
  | once accepts => simp [outlives, Subscriber.isOnce]
  | _ => rfl

theorem Outset.numbered (o : Outset) : Numbered o.connection := o.numbered_run []

/-- The engine by itself leaves the subscriptions of others alone. -/
theorem Outset.subscriptions_own (o : Outset) (events : List Event) {e' : Engine}
    (hown : e' = o.run events ∨ Move (o.run events) e') :
    subscriptionsUpTo o.connection.registry.lastSubscription e' =
      subscriptionsUpTo o.connection.registry.lastSubscription (o.run events) := by
  rcases hown with rfl | hmove
  · rfl
  · have hborrowed := o.borrowed_run events
    exact hmove.exchange.subscriptionsUpTo_eq hborrowed.numbers fun id => hborrowed.returning

/-- Throughout a run, the subscriptions from before it are there in their order, but without the
one-shots that a frame has satisfied or the end of the connection has removed. -/
theorem Outset.subscriptions_run (o : Outset) (events : List Event) :
    subscriptionsUpTo o.connection.registry.lastSubscription (o.run events) =
      o.connection.registry.subscriptions.filter fun s => outlives events s.subscriber := by
  induction events using List.reverseRecOn with
  | nil =>
    have hall : subscriptionsUpTo o.connection.registry.lastSubscription (o.run []) =
        o.connection.registry.subscriptions :=
      List.filter_eq_self.2 fun s hs => decide_eq_true (o.numbered.subscriptions s hs)
    exact hall.trans (List.filter_eq_self.2 fun s _ => outlives_nil s.subscriber).symm
  | append_singleton events event ih =>
    have hother (operation : Connection.Operation)
        (hadded : (o.run events).connection.added operation = []) :
        subscriptionsUpTo o.connection.registry.lastSubscription
            { o.run events with connection := (o.run events).connection.apply operation } =
          (o.connection.registry.subscriptions.filter fun s =>
            outlives events s.subscriber).filter ((o.run events).connection.keeps operation) := by
      rw [subscriptionsUpTo, Connection.subscriptions_apply, hadded, List.append_nil,
        List.filter_comm, ← ih, subscriptionsUpTo]
    rw [o.run_concat]
    cases event with
    | step =>
      simp only [outlives_concat_own .step (by simp) rfl]
      exact (o.subscriptions_own events (o.run events).step_cases).trans ih
    | elapse =>
      simp only [outlives_concat_own .elapse (by simp) rfl]
      exact (o.subscriptions_own events (o.run events).elapse_cases).trans ih
    | frame text =>
      refine (hother (.receive text) rfl).trans ?_
      rw [List.filter_filter]
      refine List.filter_congr fun s _ => ?_
      rw [Bool.and_comm, ← outlives_concat_frame]
    | hangUp =>
      have hleft : (o.connection.registry.subscriptions.filter fun s =>
          outlives events s.subscriber).filter (fun s => !s.subscriber.isOnce) =
            o.connection.registry.subscriptions.filter fun s =>
              outlives (events ++ [.hangUp]) s.subscriber := by
        rw [List.filter_filter]
        exact List.filter_congr fun s _ => by rw [outlives_concat_hangUp, Bool.and_comm]
      refine (hother .hangUp rfl).trans (Eq.trans ?_ hleft)
      refine List.filter_congr fun s hs => ?_
      -- A connection that had ended before has no one-shots, so its end removes none.
      rw [← ih] at hs
      cases hclosed : (o.run events).connection.isClosed with
      | false => rw [Connection.keeps, hclosed, Bool.false_or]
      | true =>
        have honce := (o.numbered_run events).closed hclosed s (List.mem_filter.1 hs).1
        rw [Connection.keeps, hclosed, honce]
        rfl

/-! ### The requests of others -/

theorem registry_expire_cases (c : Connection) (id : RequestId) :
    (c.expire id).registry = c.registry ∨ (c.expire id).registry = c.registry.forget id := by
  rw [Connection.expire]
  split
  · exact Or.inr rfl
  · exact Or.inl rfl
  · exact Or.inl rfl

theorem registry_send_cases (c : Connection) (method : String) (params : Option Json.Value) :
    (c.send method params).1.registry = c.registry ∨
      ∃ expected, (c.send method params).1.registry =
        c.registry.expect (c.lastRequest + 1) expected := by
  have hwrite : (c.send method params).1.registry =
      ((c.issue method params).1.enroll (c.lastRequest + 1)).registry :=
    Connection.registry_write _ _
  rw [hwrite, Connection.enroll]
  split
  · split
    · exact Or.inl rfl
    · exact Or.inr ⟨_, rfl⟩
  · exact Or.inl rfl

theorem pending_of_registers (c : Connection) {operation : Connection.Operation}
    (h : operation.registers = true) :
    (c.apply operation).registry.pending = c.registry.pending := by
  cases operation with
  | subscribe accepts => exact (sameRequests_subscribe c accepts).pending.symm
  | observe | observeMalformed => rfl
  | _ => exact Bool.noConfusion h

/-- The pending requests with numbers up to a given one, in their order. -/
def pendingUpTo (last : RequestId) (e : Engine) : List PendingRequest :=
  e.connection.registry.pending.filter fun p => p.id ≤ last

/-- A frame takes the request that it answers from those that are pending. -/
theorem pendingUpTo_receive (last : RequestId) (e : Engine) {text : String} {m : Inbound}
    (ht : Inbound.ofText? text = .ok m) :
    pendingUpTo last { e with connection := e.connection.receive text } =
      (pendingUpTo last e).filter fun p => m.id? ≠ some p.id := by
  have hleft : (e.connection.receive text).registry.pending =
      e.connection.registry.pending.filter fun p => m.id? ≠ some p.id := by
    rw [Connection.receive, ht]
    dsimp only
    rw [(e.connection.dispatch_eq m).2.2.2.1, Registry.pending_dispatch]
  rw [pendingUpTo, hleft, List.filter_comm, pendingUpTo]

/-- Asking has to do with new requests only. -/
theorem Asking.pending_filter {connection : Connection} (h : Asking e connection)
    {last : RequestId} (hlast : last ≤ e.connection.lastRequest)
    (hawaited : ∀ errand call, e.point = .awaitingReply errand call → last < call) :
    connection.registry.pending.filter (fun p => p.id ≤ last) = pendingUpTo last e := by
  cases h with
  | nothing => rfl
  | request method params =>
    rcases registry_send_cases e.connection method params with hregistry | ⟨expected, hregistry⟩
    · rw [hregistry, pendingUpTo]
    · have hnew : last < e.connection.lastRequest + 1 := Nat.lt_succ_of_le hlast
      rw [hregistry, Registry.expect, List.filter_append, filter_older PendingRequest.id hnew]
      simp [pendingUpTo, Nat.not_le_of_lt hnew]
  | answer hp => rfl
  | @expiry errand call hp =>
    rcases registry_expire_cases e.connection call with hregistry | hregistry
    · rw [hregistry, pendingUpTo]
    · rw [hregistry]
      exact filter_older PendingRequest.id (hawaited errand call hp) _

/-- Pending requests with old numbers stay as they are in a move that has to do with newer ones. -/
theorem Exchange.pendingUpTo_eq (h : Exchange e e') {last : RequestId}
    (hlast : last ≤ e.connection.lastRequest)
    (hawaited : ∀ errand call, e.point = .awaitingReply errand call → last < call) :
    pendingUpTo last e' = pendingUpTo last e := by
  cases h with
  | keep hasking => exact hasking.pending_filter hlast hawaited
  | register _ hregisters hconnection =>
    rw [pendingUpTo, hconnection, pending_of_registers _ hregisters, pendingUpTo]
  | release _ hconnection =>
    rw [pendingUpTo, hconnection]
    rfl

/-- The request that an engine waits for is one of its run. -/
structure Awaited (o : Outset) (e : Engine) : Prop where
  numbers : o.connection.lastRequest ≤ e.connection.lastRequest
  own : ∀ errand call, e.point = .awaitingReply errand call → o.connection.lastRequest < call

theorem Awaited.move (h : Awaited o e) (ha : e.Accounted) (hmove : Move e e') : Awaited o e' := by
  refine ⟨Nat.le_trans h.numbers (hmove.keeps ha).2.1, fun errand call hp => ?_⟩
  cases hasking : e.point.isAsking with
  | false => exact absurd hp (hmove.not_awaitingReply hasking errand call)
  | true =>
    obtain ⟨errand', hp'⟩ := Point.exists_of_isAsking hasking
    obtain rfl := hmove.eq_ask hp'
    obtain ⟨-, rfl⟩ := Point.awaitingReply.inj hp
    exact Nat.lt_succ_of_le h.numbers

theorem Awaited.apply (h : Awaited o e) (ha : e.Accounted) (operation : Connection.Operation) :
    Awaited o { e with connection := e.connection.apply operation } := by
  obtain ⟨reply, haccounts⟩ := ha
  exact ⟨Nat.le_trans h.numbers (haccounts.lastRequest_le_run [operation]), h.own⟩

theorem Outset.awaited_run (o : Outset) (events : List Event) : Awaited o (o.run events) :=
  o.run_induction events ⟨Nat.le_refl _, fun _ _ hp => Point.noConfusion hp⟩
    (fun _ text ha h => h.apply ha (.receive text)) (fun _ ha h => h.apply ha .hangUp)
    fun _ _ ha h hmove => h.move ha hmove

/-- Whether a request is still pending after the events of a run that is not its own: it has no
answer, and the connection has not ended. -/
def staysPending (events : List Event) (p : PendingRequest) : Bool :=
  !events.contains .hangUp &&
    !(events.filterMap Event.inbound?).any fun m => m.id? = some p.id

theorem staysPending_concat_own (event : Event) (hopen : event ≠ .hangUp)
    (hsilent : event.inbound? = none) (events : List Event) (p : PendingRequest) :
    staysPending (events ++ [event]) p = staysPending events p := by
  simp [staysPending, hsilent, hopen.symm]

/-- A frame answers the request that it names. -/
theorem staysPending_concat_frame {text : String} {m : Inbound}
    (ht : Inbound.ofText? text = .ok m) (events : List Event) (p : PendingRequest) :
    staysPending (events ++ [.frame text]) p =
      (staysPending events p && decide (m.id? ≠ some p.id)) := by
  have harrives : (Event.frame text).inbound? = some m :=
    Event.inbound?_eq_some_iff.2 ⟨text, rfl, ht⟩
  simp [staysPending, harrives, Bool.and_comm, Bool.and_left_comm]

/-- The requests that were pending before a run were made before it. -/
theorem Outset.pending_le (o : Outset) :
    ∀ p ∈ o.connection.registry.pending, p.id ≤ o.connection.lastRequest := by
  have haccounts := accounts_run o.requestBound o.past
  intro p hp
  obtain ⟨call, hcall, hid, -⟩ := haccounts.pending p hp
  exact (haccounts.exists_call_iff.1 ⟨call, hcall, hid⟩).2

/-- The engine by itself leaves the requests of others alone. -/
theorem Outset.pending_own (o : Outset) (events : List Event) {e' : Engine}
    (hown : e' = o.run events ∨ Move (o.run events) e') :
    pendingUpTo o.connection.lastRequest e' =
      pendingUpTo o.connection.lastRequest (o.run events) := by
  rcases hown with rfl | hmove
  · rfl
  · have hawaited := o.awaited_run events
    exact hmove.exchange.pendingUpTo_eq hawaited.numbers hawaited.own

/-- Throughout a run, the requests that were pending before it are pending in their order, but
without those that have an answer, and none of them once the connection has ended. -/
theorem Outset.pending_run (o : Outset) (events : List Event) :
    pendingUpTo o.connection.lastRequest (o.run events) =
      o.connection.registry.pending.filter (staysPending events) := by
  induction events using List.reverseRecOn with
  | nil =>
    have hall : pendingUpTo o.connection.lastRequest (o.run []) = o.connection.registry.pending :=
      List.filter_eq_self.2 fun p hp => decide_eq_true (o.pending_le p hp)
    exact hall.trans (List.filter_eq_self.2 fun p _ => rfl).symm
  | append_singleton events event ih =>
    rw [o.run_concat]
    cases event with
    | step =>
      rw [funext (staysPending_concat_own .step (by simp) rfl events)]
      exact (o.pending_own events (o.run events).step_cases).trans ih
    | elapse =>
      rw [funext (staysPending_concat_own .elapse (by simp) rfl events)]
      exact (o.pending_own events (o.run events).elapse_cases).trans ih
    | frame text =>
      cases ht : Inbound.ofText? text with
      | ok m =>
        refine (pendingUpTo_receive _ _ ht).trans ?_
        rw [ih, List.filter_filter]
        refine List.filter_congr fun p _ => ?_
        rw [staysPending_concat_frame ht, Bool.and_comm]
      | error error =>
        have hsilent := inbound?_of_error ht
        rw [funext (staysPending_concat_own (.frame text) (by simp) hsilent events), ← ih]
        change pendingUpTo _ { o.run events with
          connection := (o.run events).connection.receive text } = _
        rw [Connection.receive, ht]
        rfl
    | hangUp =>
      obtain ⟨reply, haccounts, -⟩ := o.exists_accounts_run (events ++ [.hangUp])
      rw [o.run_concat] at haccounts
      have hnone : (o.run events).connection.hangUp.registry.pending = [] :=
        haccounts.pending_of_closed (isClosed_hangUp _)
      change (o.run events).connection.hangUp.registry.pending.filter _ = _
      rw [hnone, List.filter_nil, eq_comm, List.filter_eq_nil_iff]
      simp [staysPending]

/-! ### The end of a run -/

/-- However a run ends, and whatever the inspector does meanwhile, it leaves the registry of its
connection as it found it.  None of the observers and waiters that it ever had to give back is
registered any more, and none of its requests is pending.  The subscriptions from before are still
there, in their order, except one-shots that a frame has satisfied or the end of the connection has
removed, and so are the requests, except those that the frames have answered or that have failed
with the connection. -/
theorem runs_restore_the_registry (o : Outset) (events : List Event)
    {outcome : Except SessionError Nat} (houtcome : (o.run events).outcome? = some outcome) :
    let before := o.connection
    let after := (o.run events).connection
    (∀ first second, events = first ++ second →
      ∀ id ∈ (o.run first).waiters ++ (o.run first).observers,
        after.registry.isRegistered id = false) ∧
    (∀ p ∈ after.registry.pending, p.id ≤ before.lastRequest) ∧
    after.registry.subscriptions =
      before.registry.subscriptions.filter (fun s => outlives events s.subscriber) ∧
    after.registry.pending = before.registry.pending.filter (staysPending events) := by
  intro before after
  have hp := Engine.point_of_outcome? houtcome
  have hborrowed := o.borrowed_run events
  have hold : ∀ s ∈ after.registry.subscriptions, s.id ≤ before.registry.lastSubscription := by
    intro s hs
    by_contra hnew
    have hlisted := hborrowed.listed s hs (Nat.lt_of_not_le hnew)
    rw [hborrowed.finished outcome hp] at hlisted
    cases hlisted
  have hasked : ∀ p ∈ after.registry.pending, p.id ≤ before.lastRequest := by
    intro p hpending
    by_contra hnew
    obtain ⟨errand, hp'⟩ := o.awaitsExpected_run events p.id (Nat.lt_of_not_le hnew)
      ((Registry.isExpected_iff _ _).2 ⟨p, hpending, rfl⟩)
    exact Point.noConfusion (hp.symm.trans hp')
  refine ⟨fun first second _ id hid => ?_, hasked, ?_, ?_⟩
  · have hown := (o.borrowed_run first).own id hid
    rw [Registry.isRegistered, List.any_eq_false]
    intro s hs heq
    exact absurd (of_decide_eq_true heq ▸ hold s hs) (Nat.not_le_of_lt hown)
  · have hall := List.filter_eq_self.2 fun s hs => decide_eq_true (hold s hs)
    exact hall.symm.trans (o.subscriptions_run events)
  · have hall := List.filter_eq_self.2 fun p hp => decide_eq_true (hasked p hp)
    exact hall.symm.trans (o.pending_run events)

/-- A run on a connection with an observer, two one-shots and a pending request of others. -/
def sampleShared : Outset :=
  { sample with
    past := [.observe Method.resumed.name, .subscribe (methodIs Method.paused.name),
      .subscribe fun _ => false, .issue Method.runtimeEnable.name none, .enroll 1, .write 1] }

/-- While the debugger is configured, a frame satisfies one of the one-shots, and then the
connection ends and with it the run. -/
def sampleCut : List Event := steps 5 ++ [.halt [], .hangUp] ++ steps 9

/-- Of what was registered before the run only the observer is left. -/
theorem runs_restore_the_registry_sample :
    (sampleShared.run sampleCut).outcome?.isSome = true ∧
      sampleShared.connection.registry.subscriptions.map Subscription.id = [1, 2, 3] ∧
      (sampleShared.run (steps 5)).connection.registry.subscriptions.map Subscription.id =
        [1, 2, 3, 4, 5, 6, 7] ∧
      (sampleShared.run sampleCut).connection.registry.subscriptions.map Subscription.id = [1] ∧
      (sampleShared.run sampleCut).connection.registry.pending = [] := by
  have hover : (sampleShared.run sampleCut).outcome?.isSome = true := by decide +kernel
  obtain ⟨outcome, houtcome⟩ := Option.isSome_iff_exists.1 hover
  obtain ⟨-, -, hsubscriptions, hpending⟩ :=
    runs_restore_the_registry sampleShared sampleCut houtcome
  refine ⟨hover, by decide +kernel, by decide +kernel, ?_, ?_⟩
  · rw [hsubscriptions]
    decide +kernel
  · rw [hpending]
    decide +kernel

end ValueTrace.Stepping
