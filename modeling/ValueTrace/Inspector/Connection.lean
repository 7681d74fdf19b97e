import ValueTrace.Inspector.Registry

/-!
# Connections

One connection to an inspector carries many requests at a time.  A request first gets its number,
then is registered, and only then is its text written, so no answer can come too early.  Its caller
reads the answer when there is one, gives up when its time is over, or walks away.  Waiters hold the
first frame that they accept until it is read.

## Main definitions

* `Call`, `Progress` : a request and how far it has come.
* `Connection` : the state of a connection.
* `Connection.issue`, `enroll`, `write`, `refuse`, `send` : a request is made.
* `Connection.readAnswer`, `expire`, `abandon` : how a request ends.
* `Connection.subscribe`, `observe`, `off`, `receipt` : subscriptions.
* `Connection.receive`, `hangUp` : what the other side does.
* `Connection.Operation`, `Connection.run` : sequences of all of these.
-/

namespace ValueTrace.Inspector

open Json (Value Decoder)

/-- How far a request has come. -/
inductive Progress where
  /-- It has its number. -/
  | numbered
  /-- Its answer is expected. -/
  | registered
  /-- Its text is written, and its caller waits. -/
  | written
  | finished (outcome : Except TransportError Value)
  /-- Its caller has walked away. -/
  | abandoned

/-- A request with its caller. -/
structure Call where
  id : RequestId
  method : String
  params : Option Value
  progress : Progress
  /-- The answer that came for the caller. -/
  answer : Option (Except TransportError Value)

/-- What an observer saw. -/
inductive Sighting where
  | notification (observer : SubscriptionId) (n : Notification)
  | malformed (observer : SubscriptionId) (text : String) (error : FrameError)

/-- A connection to an inspector. -/
structure Connection where
  /-- How long a request may wait for its answer. -/
  requestBound : Option Duration
  registry : Registry
  /-- The latest number given to a request. -/
  lastRequest : RequestId
  calls : List Call
  /-- The requests whose texts are written, in order. -/
  written : List Request
  /-- The frames that waiters took. -/
  held : List (SubscriptionId × Inbound)
  /-- What observers saw, in order. -/
  sightings : List Sighting

/-- What a waiter gets. -/
inductive Receipt where
  | frame (m : Inbound)
  /-- No frame can come any more. -/
  | closed
  | waiting

/-- Whether a frame may still come. -/
def Receipt.isWaiting : Receipt → Bool
  | .waiting => true
  | _ => false

/-- The request that a call makes. -/
def Call.request (call : Call) : Request := ⟨call.id, call.method, call.params⟩

/-- Leaves an answer for the caller; the first one stays. -/
def Call.reply (outcome : Except TransportError Value) (call : Call) : Call :=
  match call.answer with
  | some _ => call
  | none => { call with answer := some outcome }

/-- The caller reads the answer, if it waits and there is one. -/
def Call.readAnswer (call : Call) : Call :=
  match call.progress, call.answer with
  | .written, some outcome => { call with progress := .finished outcome }
  | _, _ => call

/-- The outcome of a call that is over. -/
def Call.outcome? (call : Call) : Option (Except TransportError Value) :=
  match call.progress with
  | .finished outcome => some outcome
  | _ => none

/-- The typed result of a request. -/
def decodeResult {α : Type} (d : Decoder α) (method : String) (result : Value) :
    Except TransportError α :=
  (Json.decodeValue d result).mapError (TransportError.decode method)

namespace Connection

/-- A connection that was just made. -/
def opened (requestBound : Option Duration) : Connection :=
  ⟨requestBound, .empty, 0, [], [], [], []⟩

/-- Whether the connection has ended. -/
def isClosed (c : Connection) : Bool := c.registry.closed

/-- The call with a number. -/
def call? (c : Connection) (id : RequestId) : Option Call := c.calls.find? fun call => call.id = id

/-- Changes the call with a number. -/
def updateCall (c : Connection) (id : RequestId) (f : Call → Call) : Connection :=
  { c with calls := c.calls.map fun call => if call.id = id then f call else call }

/-! ### Requests -/

/-- Gives a request its number. -/
def issue (c : Connection) (method : String) (params : Option Value) : Connection × RequestId :=
  let id := c.lastRequest + 1
  ({ c with lastRequest := id, calls := c.calls ++ [⟨id, method, params, .numbered, none⟩] }, id)

/-- Registers a numbered request.  On a closed connection it fails at once. -/
def enroll (c : Connection) (id : RequestId) : Connection :=
  match c.call? id with
  | some ⟨_, method, _, .numbered, _⟩ =>
    if c.registry.closed then
      c.updateCall id fun call => { call with progress := .finished (.error .closed) }
    else
      { c with registry := c.registry.expect id method }.updateCall id fun call =>
        { call with progress := .registered }
  | _ => c

/-- Writes the text of a registered request. -/
def write (c : Connection) (id : RequestId) : Connection :=
  match c.call? id with
  | some call =>
    match call.progress with
    | .registered =>
      { c with written := c.written ++ [call.request] }.updateCall id fun call =>
        { call with progress := .written }
    | _ => c
  | none => c

/-- The text of a registered request finds no writer, which happens only after the end of the
connection.  The request fails. -/
def refuse (c : Connection) (id : RequestId) : Connection :=
  match c.call? id with
  | some call =>
    match call.progress, c.registry.closed with
    | .registered, true =>
      { c with registry := c.registry.forget id }.updateCall id fun call =>
        { call with progress := .finished (.error .closed) }
    | _, _ => c
  | none => c

/-- Makes a request. -/
def send (c : Connection) (method : String) (params : Option Value) : Connection × RequestId :=
  let (c, id) := c.issue method params
  ((c.enroll id).write id, id)

/-- The caller of a request reads its answer, if there is one. -/
def readAnswer (c : Connection) (id : RequestId) : Connection := c.updateCall id Call.readAnswer

/-- The outcome of a request that is over. -/
def outcome? (c : Connection) (id : RequestId) : Option (Except TransportError Value) :=
  (c.call? id).bind Call.outcome?

/-- The time of a request is over.  An answer that is there is read nevertheless; otherwise none is
expected any more.  Without a bound nothing happens. -/
def expire (c : Connection) (id : RequestId) : Connection :=
  match c.requestBound, c.call? id with
  | some bound, some ⟨_, method, _, .written, none⟩ =>
    { c with registry := c.registry.forget id }.updateCall id fun call =>
      { call with progress := .finished (.error (.timeout method id bound)) }
  | some _, _ => c.readAnswer id
  | none, _ => c

/-- The caller of a request walks away.  The answer is still expected. -/
def abandon (c : Connection) (id : RequestId) : Connection :=
  c.updateCall id fun call =>
    match call.progress with
    | .written => { call with progress := .abandoned }
    | _ => call

/-! ### Subscriptions -/

/-- Waits for the first frame that is accepted. -/
def subscribe (c : Connection) (accepts : Inbound → Bool) : Connection × SubscriptionId :=
  let (registry, id) := c.registry.registerOnce accepts
  ({ c with registry }, id)

/-- Observes every notification of a method. -/
def observe (c : Connection) (method : String) : Connection × SubscriptionId :=
  let (registry, id) := c.registry.register (.every method)
  ({ c with registry }, id)

/-- Observes every text that is no frame. -/
def observeMalformed (c : Connection) : Connection × SubscriptionId :=
  let (registry, id) := c.registry.register .malformed
  ({ c with registry }, id)

/-- Ends a subscription, and says whether there was one. -/
def off (c : Connection) (id : SubscriptionId) : Connection × Bool :=
  let (registry, found) := c.registry.remove id
  ({ c with registry }, found)

/-- Ends the subscription of a waiter that nobody needs any more. -/
def release (c : Connection) (id : SubscriptionId) : Connection := (c.off id).1

/-- What a waiter gets now. -/
def receipt (c : Connection) (id : SubscriptionId) : Receipt :=
  match c.held.find? fun h => h.1 = id with
  | some (_, m) => .frame m
  | none => if c.registry.isRegistered id then .waiting else .closed

/-- Takes the frame that a waiter holds. -/
def take (c : Connection) (id : SubscriptionId) : Connection × Option Inbound :=
  match c.held.find? fun h => h.1 = id with
  | some (_, m) => ({ c with held := c.held.filter fun h => h.1 ≠ id }, some m)
  | none => (c, none)

/-! ### The other side -/

/-- Leaves an answer for the caller of a request. -/
def deliverReply (c : Connection) (reply : Option (RequestId × Except TransportError Value)) :
    Connection :=
  match reply with
  | some (id, outcome) => c.updateCall id (Call.reply outcome)
  | none => c

/-- What observers see of a frame. -/
def sightingsOf (observers : List SubscriptionId) (m : Inbound) : List Sighting :=
  match m with
  | .notification n => observers.map fun id => .notification id n
  | .response _ => []

/-- A frame arrives. -/
def dispatch (c : Connection) (m : Inbound) : Connection :=
  let delivery := c.registry.dispatch m
  { c with registry := delivery.registry,
           held := c.held ++ delivery.takers.map fun id => (id, m),
           sightings := c.sightings ++ sightingsOf delivery.observers m
    }.deliverReply delivery.reply

/-- A text arrives.  One that is no frame changes nothing, but may be observed. -/
def receive (c : Connection) (text : String) : Connection :=
  match Inbound.ofText? text with
  | .ok m => c.dispatch m
  | .error error =>
    let seen := c.registry.malformedObservers.map fun id => Sighting.malformed id text error
    { c with sightings := c.sightings ++ seen }

/-- The connection ends, from whichever side.  Requests without an answer fail. -/
def hangUp (c : Connection) : Connection :=
  let (registry, failed) := c.registry.close
  { c with registry := registry,
           calls := c.calls.map fun call =>
             if failed.contains call.id then call.reply (.error .closed) else call }

/-! ### Histories -/

/-- Everything that can happen to a connection. -/
inductive Operation where
  | issue (method : String) (params : Option Value)
  | enroll (id : RequestId)
  | write (id : RequestId)
  | refuse (id : RequestId)
  | readAnswer (id : RequestId)
  | expire (id : RequestId)
  | abandon (id : RequestId)
  | subscribe (accepts : Inbound → Bool)
  | observe (method : String)
  | observeMalformed
  | off (id : SubscriptionId)
  | take (id : SubscriptionId)
  | receive (text : String)
  | hangUp

/-- What an operation does. -/
def apply (c : Connection) : Operation → Connection
  | .issue method params => (c.issue method params).1
  | .enroll id => c.enroll id
  | .write id => c.write id
  | .refuse id => c.refuse id
  | .readAnswer id => c.readAnswer id
  | .expire id => c.expire id
  | .abandon id => c.abandon id
  | .subscribe accepts => (c.subscribe accepts).1
  | .observe method => (c.observe method).1
  | .observeMalformed => c.observeMalformed.1
  | .off id => (c.off id).1
  | .take id => (c.take id).1
  | .receive text => c.receive text
  | .hangUp => c.hangUp

/-- What a sequence of operations does. -/
def run (c : Connection) (operations : List Operation) : Connection := operations.foldl apply c

end Connection

end ValueTrace.Inspector
