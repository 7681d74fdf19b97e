import ValueTrace.Proofs.Inspector.Requests

/-!
# A dispatch as three passes

A frame is dispatched by one scan, which takes subscriptions out of the list while it advances in
it and remembers the observers for later.  Here the same is said without positions: the request
that a response answers is resolved, then the one-shots that accept the frame are served and leave,
and then the observers of a notification are called, one after the other
(`dispatch_is_three_passes`).  Each pass looks at one part of the registry only, so a response may
answer its request and serve any number of one-shots at once.

## Main definitions

* `Subscriber.accepts`, `Subscriber.hears` : who takes a frame, and who is called for it.
* `Connection.resolve`, `Connection.serve`, `Connection.announce` : the three passes.

## Main results

* `Connection.registry_dispatch_eq_passes` : the scan leaves what the passes leave.
* `Connection.dispatch_is_three_passes` : a dispatch is these passes, in this order.
-/

namespace ValueTrace.Inspector

/-! ### Who takes a frame and who is called -/

/-- Whether a subscriber is a one-shot whose predicate accepts a frame. -/
def Subscriber.accepts : Subscriber → Inbound → Bool
  | .once accepts, m => accepts m
  | .every _, _ => false
  | .malformed, _ => false

/-- Whether a subscriber observes the method of a notification. -/
def Subscriber.hears : Subscriber → Notification → Bool
  | .once _, _ => false
  | .every method, n => n.method = method
  | .malformed, _ => false

theorem takes_eq_accepts (s : Subscriber) (m : Inbound) : s.takes m = s.accepts m := by
  cases s with
  | once accepts => exact takes_once accepts m
  | every method => by_cases h : m.method? = some method <;>
      simp [Subscriber.takes, Subscriber.reaction, Subscriber.accepts, h]
  | malformed => rfl

theorem observes_notification (s : Subscriber) (n : Notification) :
    s.observes (.notification n) = s.hears n := by
  cases s with
  | once accepts => by_cases h : accepts (.notification n) <;>
      simp [Subscriber.observes, Subscriber.reaction, Subscriber.hears, h]
  | every method => by_cases h : n.method = method <;>
      simp [Subscriber.observes, Subscriber.reaction, Subscriber.hears, Inbound.method?, h]
  | malformed => rfl

/-- Who is called for a notification does not leave with it. -/
theorem accepts_of_hears {s : Subscriber} {n : Notification} (h : s.hears n = true) (m : Inbound) :
    s.accepts m = false := by
  cases s with
  | once accepts => cases h
  | every method => rfl
  | malformed => rfl

namespace Connection

/-! ### The passes -/

/-- A response answers the pending request with its id, which is pending no more. -/
def resolve (c : Connection) : Inbound → Connection
  | .notification _ => c
  | .response answer =>
    match c.registry.pending.find? fun p => p.id = answer.id with
    | none => c
    | some p =>
      { c with
        registry := c.registry.forget answer.id,
        calls := c.calls.map fun call =>
          if call.id = answer.id then call.reply (answer.outcomeFor p.method) else call }

/-- Every one-shot that accepts the frame gets it and leaves; the others keep their order. -/
def serve (c : Connection) (m : Inbound) : Connection :=
  { c with
    registry :=
      { c.registry with
        subscriptions := c.registry.subscriptions.filter fun s => !s.subscriber.accepts m },
    held := c.held ++
      (c.registry.subscriptions.filter fun s => s.subscriber.accepts m).map fun s => (s.id, m) }

/-- The handler of a subscription is called with a notification. -/
def call (n : Notification) (c : Connection) (s : Subscription) : Connection :=
  { c with sightings := c.sightings ++ [.notification s.id n] }

/-- The handlers of the method of a notification are called in the order of their registration. -/
def announce (c : Connection) : Inbound → Connection
  | .notification n =>
    (c.registry.subscriptions.filter fun s => s.subscriber.hears n).foldl (call n) c
  | .response _ => c

variable (c : Connection) (m : Inbound)

/-- Calling handlers adds what they see, in their order, and changes nothing else. -/
theorem foldl_call (n : Notification) (handlers : List Subscription) :
    handlers.foldl (call n) c =
      { c with sightings := c.sightings ++ handlers.map fun s => .notification s.id n } := by
  induction handlers generalizing c with
  | nil => simp
  | cons s handlers ih =>
    rw [List.foldl_cons, ih]
    simp [call]

/-- What a response resolves is what the registry says that it answers. -/
theorem resolve_response (answer : Response) :
    c.resolve (.response answer) =
      { c with registry := c.registry.forget answer.id }.deliverReply
        (c.registry.reply? (.response answer)) := by
  rw [resolve, Registry.reply?]
  cases hfound : c.registry.pending.find? fun p => p.id = answer.id with
  | none =>
    have hkept : c.registry.forget answer.id = c.registry := by
      rw [Registry.forget, List.filter_eq_self.2]
      intro p hp
      simpa using List.find?_eq_none.1 hfound p hp
    rw [hkept]
    rfl
  | some p =>
    have hid : p.id = answer.id := by simpa using List.find?_some hfound
    simp only [Option.map_some, deliverReply, updateCall, hid, Response.outcomeFor]

/-- What serving says about takers is what the scan finds. -/
theorem serve_eq :
    c.serve m =
      { c with
        registry :=
          { c.registry with subscriptions := (c.registry.dispatch m).registry.subscriptions },
        held := c.held ++ (c.registry.dispatch m).takers.map fun id => (id, m) } := by
  rw [serve, Registry.subscriptions_dispatch, Registry.takers_dispatch, List.map_map]
  simp only [takes_eq_accepts]
  rfl

/-- The observers that the scan remembers are those that are called after it. -/
theorem announce_serve :
    (c.serve m).announce m =
      { c.serve m with
        sightings := c.sightings ++ sightingsOf (c.registry.dispatch m).observers m } := by
  cases m with
  | response answer => simp [announce, serve, sightingsOf]
  | notification n =>
    have hstay : (c.registry.subscriptions.filter fun s =>
          !s.subscriber.accepts (.notification n)).filter (fun s => s.subscriber.hears n) =
        c.registry.subscriptions.filter fun s => s.subscriber.hears n := by
      rw [List.filter_filter]
      refine List.filter_congr fun s _ => ?_
      cases hs : s.subscriber.hears n with
      | false => rfl
      | true => rw [accepts_of_hears hs]; rfl
    rw [announce, foldl_call, Registry.observers_dispatch]
    simp only [serve, hstay, sightingsOf, List.map_map, observes_notification]
    rfl

/-- What a frame does to the subscriptions does not depend on the requests. -/
theorem dispatch_forget (r : Registry) (id : RequestId) (m : Inbound) :
    ((r.forget id).dispatch m).registry.subscriptions = (r.dispatch m).registry.subscriptions ∧
      ((r.forget id).dispatch m).takers = (r.dispatch m).takers ∧
      ((r.forget id).dispatch m).observers = (r.dispatch m).observers := by
  simp only [Registry.subscriptions_dispatch, Registry.takers_dispatch,
    Registry.observers_dispatch, Registry.forget, and_self]

/-- A dispatch is resolving, serving and announcing, in this order. -/
theorem dispatch_eq_passes : c.dispatch m = ((c.resolve m).serve m).announce m := by
  rw [announce_serve, serve_eq]
  cases m with
  | notification n => rfl
  | response answer =>
    obtain ⟨hsubscriptions, htakers, hobservers⟩ :=
      dispatch_forget c.registry answer.id (.response answer)
    rw [resolve_response]
    cases hreply : c.registry.reply? (.response answer) with
    | none =>
      simp only [deliverReply, hsubscriptions, htakers, hobservers, dispatch,
        Registry.reply_dispatch, hreply]
      rfl
    | some answered =>
      simp only [deliverReply, updateCall, hsubscriptions, htakers, hobservers, dispatch,
        Registry.reply_dispatch, hreply]
      rfl

/-- A dispatch leaves the other requests and the other subscriptions, in their order. -/
theorem registry_dispatch (r : Registry) (m : Inbound) :
    (r.dispatch m).registry =
      { r with
        pending := r.pending.filter fun p => m.id? ≠ some p.id,
        subscriptions := r.subscriptions.filter fun s => !s.subscriber.accepts m } := by
  have hpending := r.pending_dispatch m
  have hsubscriptions := r.subscriptions_dispatch m
  have hlast := r.lastSubscription_dispatch m
  have hclosed := r.closed_dispatch m
  simp only [takes_eq_accepts] at hsubscriptions
  rw [← hpending, ← hsubscriptions, ← hlast, ← hclosed]

/-! ### Side by side -/

/-- The connection with further subscriptions, which were registered last. -/
def joinedBy (c : Connection) (more : List Subscription) : Connection :=
  { c with registry :=
      { c.registry with subscriptions := c.registry.subscriptions ++ more } }

/-- A frame answers the same request whoever else listens. -/
theorem calls_dispatch_joinedBy (more : List Subscription) :
    ((c.joinedBy more).dispatch m).calls = (c.dispatch m).calls := by
  have hreply : (c.joinedBy more).registry.reply? m = c.registry.reply? m := by
    cases m <;> rfl
  cases hanswered : c.registry.reply? m with
  | none =>
    rw [calls_dispatch_of_none hanswered, calls_dispatch_of_none (hreply.trans hanswered)]
    rfl
  | some answered =>
    rw [calls_dispatch_of_some hanswered, calls_dispatch_of_some (hreply.trans hanswered)]
    rfl

/-- Further one-shots that accept a frame all get it and leave. -/
theorem dispatch_joinedBy {more : List Subscription}
    (hmore : ∀ s ∈ more, s.subscriber.accepts m = true) :
    ((c.joinedBy more).dispatch m).registry = (c.dispatch m).registry ∧
      ((c.joinedBy more).dispatch m).held =
        (c.dispatch m).held ++ more.map fun s => (s.id, m) := by
  have hgone : (more.filter fun s => !s.subscriber.accepts m) = [] :=
    List.filter_eq_nil_iff.2 fun s hs => by simp [hmore s hs]
  have hall : (more.filter fun s => s.subscriber.accepts m) = more := List.filter_eq_self.2 hmore
  obtain ⟨-, -, -, hregistry, hheld⟩ := c.dispatch_eq m
  obtain ⟨-, -, -, hregistry', hheld'⟩ := (c.joinedBy more).dispatch_eq m
  constructor
  · rw [hregistry, hregistry', registry_dispatch, registry_dispatch]
    simp only [joinedBy, List.filter_append, hgone, List.append_nil]
  · rw [hheld, hheld', Registry.takers_dispatch, Registry.takers_dispatch]
    simp only [joinedBy, takes_eq_accepts, List.filter_append, hall, List.map_append, List.map_map,
      List.append_assoc]
    rfl

/-- One dispatch is three passes over the registry, whatever it holds and whatever the frame is: a
response answers the request with its id, then every one-shot that accepts the frame gets it, and
then the handlers of the method of a notification are called in the order of their registration.
Afterwards all other requests are pending and all other subscriptions are registered, in their
order.  What a response answers and which one-shots get it does not depend on each other, and they
may be any number. -/
theorem dispatch_is_three_passes :
    c.dispatch m = ((c.resolve m).serve m).announce m ∧
    (c.dispatch m).registry =
      { c.registry with
        pending := c.registry.pending.filter fun p => m.id? ≠ some p.id,
        subscriptions := c.registry.subscriptions.filter fun s => !s.subscriber.accepts m } ∧
    (∀ more : List Subscription, (∀ s ∈ more, s.subscriber.accepts m = true) →
      ((c.joinedBy more).dispatch m).calls = (c.dispatch m).calls ∧
      ((c.joinedBy more).dispatch m).registry = (c.dispatch m).registry ∧
      ((c.joinedBy more).dispatch m).held =
        (c.dispatch m).held ++ more.map fun s => (s.id, m)) := by
  refine ⟨c.dispatch_eq_passes m, ?_, fun more hmore => ?_⟩
  · obtain ⟨-, -, -, hregistry, -⟩ := c.dispatch_eq m
    rw [hregistry, registry_dispatch]
  · exact ⟨c.calls_dispatch_joinedBy m more, c.dispatch_joinedBy m hmore⟩

end Connection

end ValueTrace.Inspector
