import ValueTrace.Inspector.Failure

/-!
# Pending requests and subscriptions

A connection keeps the requests that have no answer yet, and the subscriptions that every inbound
frame is offered to in the order of their registration.  One kind of subscription takes the first
frame that it accepts and ends; another sees every notification of a method; a third sees the texts
that are no frames.  Once the registry is closed, nothing is pending and no first frame is waited
for.

## Main definitions

* `Subscriber`, `Subscription`, `PendingRequest` : who gets what.
* `Registry` : the state, with `register`, `registerOnce`, `remove`, `expect`, `forget`, `close`.
* `sweep` : the way of a frame through the subscriptions.
* `Registry.dispatch` : what a frame does.
-/

namespace ValueTrace.Inspector

open Json (Value)

/-- The number of a subscription. -/
abbrev SubscriptionId := Nat

/-- What a subscription listens for. -/
inductive Subscriber where
  /-- The first frame that is accepted. -/
  | once (accepts : Inbound → Bool)
  /-- Every notification of a method. -/
  | every (method : String)
  /-- Every text that is no frame. -/
  | malformed

/-- A numbered subscriber. -/
structure Subscription where
  id : SubscriptionId
  subscriber : Subscriber

/-- A request that has no answer yet. -/
structure PendingRequest where
  id : RequestId
  method : String
deriving DecidableEq, Repr

/-- What a connection keeps track of. -/
structure Registry where
  pending : List PendingRequest
  /-- The subscriptions in the order of their registration. -/
  subscriptions : List Subscription
  /-- The latest number given to a subscription. -/
  lastSubscription : SubscriptionId
  closed : Bool

/-- What a subscriber does with a frame. -/
inductive Reaction where
  /-- Takes the frame and ends. -/
  | takes
  /-- Looks at the frame. -/
  | observes
  | ignores
deriving DecidableEq, Repr

/-- What a subscriber does with a frame. -/
def Subscriber.reaction (s : Subscriber) (m : Inbound) : Reaction :=
  match s with
  | .once accepts => if accepts m then .takes else .ignores
  | .every method => if m.method? = some method then .observes else .ignores
  | .malformed => .ignores

/-- Whether a subscriber ends with its first frame. -/
def Subscriber.isOnce : Subscriber → Bool
  | .once _ => true
  | _ => false

/-- Whether a subscriber sees the texts that are no frames. -/
def Subscriber.isMalformed : Subscriber → Bool
  | .malformed => true
  | _ => false

/-- Whether a frame is a notification of a method. -/
def methodIs (method : String) (m : Inbound) : Bool := m.method? = some method

/-- A frame on its way through the subscriptions. -/
structure Sweep where
  subscriptions : List Subscription
  /-- The subscriptions that took the frame, in order. -/
  takers : List SubscriptionId
  /-- The subscriptions that look at the frame, in order. -/
  observers : List SubscriptionId

/-- Offers a frame to the subscriptions from a position on.  A subscription that takes the frame
leaves the list at once, so that the next one moves to its position. -/
def sweep (m : Inbound) (s : Sweep) (position : Nat) : Sweep :=
  if h : position < s.subscriptions.length then
    match s.subscriptions[position].subscriber.reaction m with
    | .takes =>
      sweep m ⟨s.subscriptions.eraseIdx position, s.takers ++ [s.subscriptions[position].id],
        s.observers⟩ position
    | .observes =>
      sweep m ⟨s.subscriptions, s.takers, s.observers ++ [s.subscriptions[position].id]⟩
        (position + 1)
    | .ignores => sweep m s (position + 1)
  else s
termination_by s.subscriptions.length - position
decreasing_by
  · simp only [List.length_eraseIdx, h, if_true]
    omega
  · omega
  · omega

/-- What a frame does. -/
structure Delivery where
  registry : Registry
  /-- The request that is answered, with its result. -/
  reply : Option (RequestId × Except TransportError Value)
  takers : List SubscriptionId
  observers : List SubscriptionId

namespace Registry

/-- Nothing is pending and nobody listens. -/
def empty : Registry := ⟨[], [], 0, false⟩

/-- Adds a subscriber at the end of the list. -/
def register (r : Registry) (s : Subscriber) : Registry × SubscriptionId :=
  let id := r.lastSubscription + 1
  ({ r with subscriptions := r.subscriptions ++ [⟨id, s⟩], lastSubscription := id }, id)

/-- Adds a subscriber for one frame.  A closed registry only gives it a number. -/
def registerOnce (r : Registry) (accepts : Inbound → Bool) : Registry × SubscriptionId :=
  if r.closed then
    ({ r with lastSubscription := r.lastSubscription + 1 }, r.lastSubscription + 1)
  else r.register (.once accepts)

/-- Whether a subscription is in the list. -/
def isRegistered (r : Registry) (id : SubscriptionId) : Bool :=
  r.subscriptions.any fun s => s.id = id

/-- Removes a subscription, and says whether it was in the list. -/
def remove (r : Registry) (id : SubscriptionId) : Registry × Bool :=
  ({ r with subscriptions := r.subscriptions.filter fun s => s.id ≠ id }, r.isRegistered id)

/-- Expects the answer to a request. -/
def expect (r : Registry) (id : RequestId) (method : String) : Registry :=
  { r with pending := r.pending.filter (fun p => p.id ≠ id) ++ [⟨id, method⟩] }

/-- Expects no answer to a request any more. -/
def forget (r : Registry) (id : RequestId) : Registry :=
  { r with pending := r.pending.filter fun p => p.id ≠ id }

/-- The pending request that a frame answers, with its result. -/
def reply? (r : Registry) (m : Inbound) : Option (RequestId × Except TransportError Value) :=
  match m with
  | .notification _ => none
  | .response answer =>
    (r.pending.find? fun p => p.id = answer.id).map fun p =>
      (p.id, answer.outcome.mapError (TransportError.ofBody p.method))

/-- Delivers a frame: a response answers its request, and every frame is offered to the
subscriptions. -/
def dispatch (r : Registry) (m : Inbound) : Delivery :=
  let answered :=
    match m.id? with
    | some id => r.forget id
    | none => r
  let offered := sweep m ⟨answered.subscriptions, [], []⟩ 0
  ⟨{ answered with subscriptions := offered.subscriptions }, r.reply? m, offered.takers,
    offered.observers⟩

/-- The subscriptions that see a text that is no frame, in order. -/
def malformedObservers (r : Registry) : List SubscriptionId :=
  (r.subscriptions.filter fun s => s.subscriber.isMalformed).map Subscription.id

/-- Closes the registry, and names the requests that will have no answer.  What is closed stays as
it is. -/
def close (r : Registry) : Registry × List RequestId :=
  if r.closed then (r, [])
  else
    ({ r with pending := [], closed := true,
              subscriptions := r.subscriptions.filter fun s => !s.subscriber.isOnce },
      r.pending.map PendingRequest.id)

end Registry

end ValueTrace.Inspector
